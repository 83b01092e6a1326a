import TokenLedger.Party

/-! # Records of ownership

A record says that a number of tokens of one issuer is in the hands of one holder. It is never
changed: a transaction consumes it and may produce its successor. Both parties of a record exist;
the sign of the quantity is left to the rules of verification.
-/
namespace TokenLedger

abbrev Quantity := Int64

def Quantity.display (q : Quantity) : String := toString q.toInt

structure Record where
  issuer : Party
  holder : Party
  quantity : Quantity
  issuer_present : issuer ≠ Party.absent
  holder_present : holder ≠ Party.absent
  deriving DecidableEq

namespace Record

inductive Fault
  | issuerAbsent
  | holderAbsent
  deriving DecidableEq

def Fault.message : Fault → String
  | .issuerAbsent => "Invalid record: issuer identity is absent"
  | .holderAbsent => "Invalid record: holder identity is absent"

/-- The record of the given parts. The issuer is looked at first. -/
def ofParts (issuer holder : Party) (quantity : Quantity) : Except Fault Record :=
  if hi : issuer = Party.absent then .error .issuerAbsent
  else if hh : holder = Party.absent then .error .holderAbsent
  else .ok ⟨issuer, holder, quantity, hi, hh⟩

def participants (r : Record) : List Party := [r.holder]

def supersede (r : Record) (holder : Party) : Except Fault Record :=
  ofParts r.issuer holder r.quantity

def display (r : Record) : String :=
  "StateRecord\x7bissuer=" ++ r.issuer.display ++ ", holder=" ++ r.holder.display ++
    ", quantity=" ++ r.quantity.display ++ "\x7d"

def shortForm (r : Record) : String :=
  "StateRecord \x7b issuer: " ++ r.issuer.shortForm ++ ", holder: " ++ r.holder.shortForm ++
    ", quantity: " ++ r.quantity.display ++ " \x7d"

theorem ofParts_eq_ok_iff {issuer holder : Party} {quantity : Quantity} {r : Record} :
    ofParts issuer holder quantity = .ok r ↔
      r.issuer = issuer ∧ r.holder = holder ∧ r.quantity = quantity := by
  constructor
  · intro h
    unfold ofParts at h
    split at h
    · cases h
    · split at h
      · cases h
      · cases h; exact ⟨rfl, rfl, rfl⟩
  · rintro ⟨rfl, rfl, rfl⟩
    simp [ofParts, r.issuer_present, r.holder_present]

end Record

end TokenLedger
