import TokenLedger.Json.Value

/-! # Parties and records on the wire

A party is the string of its handle. A record is an object with an issuer, a holder and a quantity,
or an array of the three; that its parties exist is looked at when all of it has been read.
-/
namespace TokenLedger

open Json

namespace Party

def toJson (p : Party) : Value := .string p.display

def ofNode (n : Node) : Read Party := do
  let text ← n.readString "a string"
  match parse text with
  | .ok p => .ok p
  | .error fault => refuse (.party fault)

def ofJson (text : String) : Read Party := readText ofNode text

end Party

def Quantity.ofNode (n : Node) : Read Quantity :=
  Int64.ofInt <$> n.readInteger (-0x8000000000000000) 0x7FFFFFFFFFFFFFFF "i64"

namespace Record

def toJson (r : Record) : Value :=
  .object [("issuer", r.issuer.toJson), ("holder", r.holder.toJson),
    ("quantity", .ofInt r.quantity.toInt)]

structure Draft where
  issuer : Option Party
  holder : Option Party
  quantity : Option Quantity

namespace Draft

def empty : Draft := ⟨none, none, none⟩

def field (d : Draft) (name : String) : Option (Node → Read Draft) :=
  match name with
  | "issuer" => some (once name d.issuer Party.ofNode fun p => ⟨some p, d.holder, d.quantity⟩)
  | "holder" => some (once name d.holder Party.ofNode fun p => ⟨d.issuer, some p, d.quantity⟩)
  | "quantity" => some (once name d.quantity Quantity.ofNode fun q => ⟨d.issuer, d.holder, some q⟩)
  | _ => none

end Draft

def shape : String := "struct RawStateRecord with 3 elements"

def partsOfNode (n : Node) : Read (Party × Party × Quantity) :=
  match n with
  | .object members ending => do
    let d ← readObject Draft.field .empty members ending
    let issuer ← required "issuer" d.issuer
    let holder ← required "holder" d.holder
    let quantity ← required "quantity" d.quantity
    .ok (issuer, holder, quantity)
  | .array items ending => do
    let (issuer, items) ← readItem 0 shape Party.ofNode items ending
    let (holder, items) ← readItem 1 shape Party.ofNode items ending
    let (quantity, items) ← readItem 2 shape Quantity.ofNode items ending
    endOfItems items ending
    .ok (issuer, holder, quantity)
  | n => n.refuse "struct RawStateRecord"

def ofNode (n : Node) : Read Record := do
  let (issuer, holder, quantity) ← partsOfNode n
  match ofParts issuer holder quantity with
  | .ok r => .ok r
  | .error fault => refuse (.record fault)

def ofJson (text : String) : Read Record := readText ofNode text

end Record

end TokenLedger
