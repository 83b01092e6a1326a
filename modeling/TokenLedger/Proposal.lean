import TokenLedger.Intent
import TokenLedger.Record
import TokenLedger.Signers

/-! # Proposals

A transaction as a host proposes it, and the constructors of well-formed ones. The intent stays the
text that was proposed, so that an unknown one is for the verifier to reject.
-/
namespace TokenLedger

structure Proposal where
  inputs : List Record
  outputs : List Record
  intent : String
  signers : Signers
  deriving DecidableEq

namespace Proposal

inductive Fault
  | nonPositive (quantity : Quantity)
  | emptyBatch
  | sameHolder
  | record (fault : Record.Fault)
  deriving DecidableEq

def Fault.message : Fault → String
  | .nonPositive quantity => "Quantity must be above 0, got " ++ quantity.display
  | .emptyBatch => "Held quantities cannot be empty"
  | .sameHolder => "New holder must differ from current holder"
  | .record fault => fault.message

def assemble (inputs outputs : List Record) (intent : Intent) (signers : List Party) : Proposal :=
  ⟨inputs, outputs, intent.tag, Signers.ofList signers⟩

def issue (issuer holder : Party) (quantity : Quantity) : Except Fault Proposal :=
  if quantity ≤ 0 then .error (.nonPositive quantity)
  else match Record.ofParts issuer holder quantity with
    | .error fault => .error (.record fault)
    | .ok output => .ok (assemble [] [output] .issue [issuer])

/-- One issue for each pair of holder and quantity. All quantities are looked at before anything
is built. -/
def issueMany (issuer : Party) (held : List (Party × Quantity)) : Except Fault (List Proposal) :=
  if held.isEmpty then .error .emptyBatch
  else match held.find? fun h => h.2 ≤ 0 with
    | some h => .error (.nonPositive h.2)
    | none => held.mapM fun h => issue issuer h.1 h.2

def transfer (input : Record) (holder : Party) : Except Fault Proposal :=
  if input.quantity ≤ 0 then .error (.nonPositive input.quantity)
  else if input.holder = holder then .error .sameHolder
  else match input.supersede holder with
    | .error fault => .error (.record fault)
    | .ok output => .ok (assemble [input] [output] .move [input.holder])

def redeem (input : Record) : Proposal :=
  assemble [input] [] .redeem [input.issuer, input.holder]

def parsedIntent? (p : Proposal) : Option Intent := Intent.ofText? p.intent

section
variable (inputs outputs : List Record) (intent : Intent) (signers : List Party)

@[simp] theorem inputs_assemble : (assemble inputs outputs intent signers).inputs = inputs := rfl

@[simp] theorem outputs_assemble : (assemble inputs outputs intent signers).outputs = outputs := rfl

@[simp] theorem mem_signers_assemble {x : Party} :
    x ∈ (assemble inputs outputs intent signers).signers ↔ x ∈ signers :=
  Signers.mem_ofList

@[simp] theorem parsedIntent?_assemble :
    (assemble inputs outputs intent signers).parsedIntent? = some intent :=
  Intent.ofText?_tag intent

end

end Proposal

end TokenLedger
