import TokenLedger.Summary
import TokenLedger.Wire.Verdict

/-! # Summaries and reports on the wire

A summary is an object or an array of its three fields; its rejections are an object with a count
for each reason, of which the last one counts.
-/
namespace TokenLedger

open Json

def countOfNode (n : Node) : Read Nat := Int.toNat <$> n.readInteger 0 0xFFFFFFFFFFFFFFFF "usize"

namespace ReasonCounts

def toJson (c : ReasonCounts) : Value :=
  .object (c.toList.map fun entry => (entry.1.name, .ofNat entry.2))

def ofMembers (c : ReasonCounts) : List (StringToken × Node) → Read ReasonCounts
  | [] => .ok c
  | (key, n) :: rest => do
    let reason ← chooseVariant Rejection.variants (← liftText key.value)
    let count ← countOfNode n
    ofMembers (c.set reason count) rest

def ofNode (n : Node) : Read ReasonCounts :=
  match n with
  | .object members ending => do
    let c ← ofMembers .empty members
    require ending.memberFault?
    .ok c
  | n => n.refuse "a map"

end ReasonCounts

namespace Summary

def toJson (s : Summary) : Value :=
  .object [("total", .ofNat s.total), ("accepted", .ofNat s.accepted),
    ("rejected", s.rejected.toJson)]

structure Draft where
  total : Option Nat
  accepted : Option Nat
  rejected : Option ReasonCounts

namespace Draft

def empty : Draft := ⟨none, none, none⟩

def field (d : Draft) (name : String) : Option (Node → Read Draft) :=
  match name with
  | "total" => some (once name d.total countOfNode fun v => ⟨some v, d.accepted, d.rejected⟩)
  | "accepted" => some (once name d.accepted countOfNode fun v => ⟨d.total, some v, d.rejected⟩)
  | "rejected" =>
    some (once name d.rejected ReasonCounts.ofNode fun v => ⟨d.total, d.accepted, some v⟩)
  | _ => none

end Draft

def shape : String := "struct BatchSummary with 3 elements"

def ofNode (n : Node) : Read Summary :=
  match n with
  | .object members ending => do
    let d ← readObject Draft.field .empty members ending
    let total ← required "total" d.total
    let accepted ← required "accepted" d.accepted
    let rejected ← required "rejected" d.rejected
    .ok ⟨total, accepted, rejected⟩
  | .array items ending => do
    let (total, items) ← readItem 0 shape countOfNode items ending
    let (accepted, items) ← readItem 1 shape countOfNode items ending
    let (rejected, items) ← readItem 2 shape ReasonCounts.ofNode items ending
    endOfItems items ending
    .ok ⟨total, accepted, rejected⟩
  | n => n.refuse "struct BatchSummary"

def ofJson (text : String) : Read Summary := readText ofNode text

end Summary

end TokenLedger
