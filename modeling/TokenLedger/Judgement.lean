import TokenLedger.Proposal
import TokenLedger.Rule

/-! # Judgements

The verifier. It looks at nothing but the proposal, so that every host judges it alike. The rules
are taken in a fixed order and the first broken one decides: the numbers of records, the outputs'
quantities, what a move must preserve and change, and last the signatures.
-/
namespace TokenLedger

/-- The records of a transaction whose numbers of inputs and outputs are those of its intent. -/
inductive Shape
  | issue (new : Record)
  | move (old new : Record)
  | redeem (old : Record)
  deriving DecidableEq

namespace Shape

def ofRecords? (intent : Intent) (inputs outputs : List Record) : Option Shape :=
  match intent, inputs, outputs with
  | .issue, [], [new] => some (.issue new)
  | .move, [old], [new] => some (.move old new)
  | .redeem, [old], [] => some (.redeem old)
  | _, _, _ => none

/-- The first rule on what is preserved and who signs that the records break. -/
def brokenRule? (signers : Signers) : Shape → Option Rule
  | .issue new => if new.issuer ∉ signers then some .issuerSigns else none
  | .move old new =>
    if old.issuer ≠ new.issuer then some .issuerPreserved
    else if old.quantity ≠ new.quantity then some .quantityPreserved
    else if old.holder = new.holder then some .holderChanges
    else if old.holder ∉ signers then some .currentHolderSigns
    else none
  | .redeem old =>
    if old.issuer ∉ signers then some .issuerSigns
    else if old.holder ∉ signers then some .holderSigns
    else none

end Shape

/-- The first rule that a transaction of the given intent breaks. -/
def brokenRule? (intent : Intent) (inputs outputs : List Record) (signers : Signers) :
    Option Rule :=
  match Shape.ofRecords? intent inputs outputs with
  | none => some .cardinality
  | some shape =>
    if outputs.any fun new => new.quantity ≤ 0 then some .outputPositive
    else shape.brokenRule? signers

inductive Judgement
  | legal (intent : Intent)
  | broken (intent : Intent) (rule : Rule)
  | unknownIntent
  deriving DecidableEq

namespace Judgement

def ofIntent (intent : Intent) (inputs outputs : List Record) (signers : Signers) : Judgement :=
  match brokenRule? intent inputs outputs signers with
  | none => .legal intent
  | some rule => .broken intent rule

def rejection? : Judgement → Option Rejection
  | .legal _ => none
  | .broken intent rule => some (rule.rejection intent)
  | .unknownIntent => some .unknownIntentOrInvalidQuantity

end Judgement

def Proposal.judgement (p : Proposal) : Judgement :=
  match p.parsedIntent? with
  | none => .unknownIntent
  | some intent => .ofIntent intent p.inputs p.outputs p.signers

end TokenLedger
