import TokenLedger.Judgement

/-! # Verdicts

The outcome of a verification as it is reported: acceptance, or a rejection with its reason.
-/
namespace TokenLedger

inductive Verdict
  | accepted
  | rejected (reason : Rejection)
  deriving DecidableEq

namespace Verdict

def isAccepted : Verdict → Bool
  | .accepted => true
  | .rejected _ => false

def reason? : Verdict → Option Rejection
  | .accepted => none
  | .rejected reason => some reason

end Verdict

def Judgement.verdict (j : Judgement) : Verdict :=
  match j.rejection? with
  | none => .accepted
  | some reason => .rejected reason

def Proposal.verdict (p : Proposal) : Verdict := p.judgement.verdict

end TokenLedger
