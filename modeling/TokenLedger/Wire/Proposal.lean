import TokenLedger.Proposal
import TokenLedger.Wire.Record

/-! # Intents and proposals on the wire

A proposal is an object whose lists may be left out, or an array of its four fields. Its intent is
any string. Signers are a set: order and repetition in the list do not count.
-/
namespace TokenLedger

open Json

namespace Intent

def toJson (i : Intent) : Value := .string i.tag

/-- Unlike the intent of a proposal, an intent on its own is spelled exactly. -/
def ofNode (n : Node) : Read Intent := n.readVariant (all.map fun i => (i.tag, i))

def ofJson (text : String) : Read Intent := readText ofNode text

end Intent

namespace Proposal

def toJson (p : Proposal) : Value :=
  .object [("inputs", .array (p.inputs.map Record.toJson)),
    ("outputs", .array (p.outputs.map Record.toJson)),
    ("intent", .string p.intent),
    ("signers", .array (p.signers.toList.map Party.toJson))]

structure Draft where
  inputs : Option (List Record)
  outputs : Option (List Record)
  intent : Option String
  signers : Option Signers

def recordsOfNode (n : Node) : Read (List Record) := n.readList Record.ofNode

def signersOfNode (n : Node) : Read Signers := Signers.ofList <$> n.readList Party.ofNode

def intentOfNode (n : Node) : Read String := n.readString "a string"

namespace Draft

def empty : Draft := ⟨none, none, none, none⟩

def field (d : Draft) (name : String) : Option (Node → Read Draft) :=
  match name with
  | "inputs" =>
    some (once name d.inputs recordsOfNode fun v => ⟨some v, d.outputs, d.intent, d.signers⟩)
  | "outputs" =>
    some (once name d.outputs recordsOfNode fun v => ⟨d.inputs, some v, d.intent, d.signers⟩)
  | "intent" =>
    some (once name d.intent intentOfNode fun v => ⟨d.inputs, d.outputs, some v, d.signers⟩)
  | "signers" =>
    some (once name d.signers signersOfNode fun v => ⟨d.inputs, d.outputs, d.intent, some v⟩)
  | _ => none

end Draft

def shape : String := "struct ProposedTransaction with 4 elements"

def ofNode (n : Node) : Read Proposal :=
  match n with
  | .object members ending => do
    let d ← readObject Draft.field .empty members ending
    let intent ← required "intent" d.intent
    .ok ⟨d.inputs.getD [], d.outputs.getD [], intent, d.signers.getD .empty⟩
  | .array items ending => do
    let (inputs, items) ← readItemOr [] recordsOfNode items ending
    let (outputs, items) ← readItemOr [] recordsOfNode items ending
    let (intent, items) ← readItem 2 shape intentOfNode items ending
    let (signers, items) ← readItemOr .empty signersOfNode items ending
    endOfItems items ending
    .ok ⟨inputs, outputs, intent, signers⟩
  | n => n.refuse "struct ProposedTransaction"

def ofJson (text : String) : Read Proposal := readText ofNode text

def batchOfJson (text : String) : Read (List Proposal) := readText (Node.readList ofNode) text

end Proposal

end TokenLedger
