import TokenLedger.Level
import TokenLedger.Summary

/-! # Events

What is logged: one event for every judgement, one for a batch as a whole, and one for each
proposal that a command reports on.
-/
namespace TokenLedger

inductive Event
  | verified (intent : Intent) (inputs outputs : Nat)
  | ruleBroken (intent : Intent) (rule : Rule) (reason : Rejection)
  | unknownIntent (tag : String) (reason : Rejection)
  | batchVerified (total accepted rejected : Nat)
  | proposalAccepted (index : Nat)
  | proposalRejected (index : Nat) (reason : Rejection)
  deriving DecidableEq

def Event.level : Event → Level
  | .verified .. => .trace
  | .ruleBroken .. | .unknownIntent .. => .debug
  | .batchVerified .. | .proposalAccepted .. => .info
  | .proposalRejected .. => .warn

def Event.message : Event → String
  | .verified .. => "transaction verified"
  | .ruleBroken .. => "transaction rejected"
  | .unknownIntent .. => "transaction rejected: unknown intent"
  | .batchVerified .. => "batch verified"
  | .proposalAccepted .. => "proposal accepted"
  | .proposalRejected .. => "proposal rejected"

def Event.isShown (e : Event) (level : Level) : Bool := e.level.detail ≤ level.detail

def Event.ofIntent (intent : Intent) (inputs outputs : List Record) (signers : Signers) : Event :=
  match brokenRule? intent inputs outputs signers with
  | none => .verified intent inputs.length outputs.length
  | some rule => .ruleBroken intent rule (rule.rejection intent)

def Proposal.event (p : Proposal) : Event :=
  match p.parsedIntent? with
  | none => .unknownIntent p.intent .unknownIntentOrInvalidQuantity
  | some intent => .ofIntent intent p.inputs p.outputs p.signers

def Event.ofVerdict (index : Nat) (verdict : Verdict) : Event :=
  match verdict.reason? with
  | none => .proposalAccepted index
  | some reason => .proposalRejected index reason

end TokenLedger
