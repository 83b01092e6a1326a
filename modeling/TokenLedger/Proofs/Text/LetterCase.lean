import Mathlib.Data.List.Forall2
import TokenLedger.Text.LetterCase

/-! # The same letters

Two characters are the same letter if they are equal, or if one of them is a capital of ASCII and
the other the small letter to it. To fold the letters A to Z means to compare texts by this relation.
-/
namespace TokenLedger.Text

def IsCapitalOf (c d : Char) : Prop := 65 ≤ c.toNat ∧ c.toNat ≤ 90 ∧ d.toNat = c.toNat + 32

/-- The characters are the same, but for the case of a letter of ASCII. -/
def SameLetter (c d : Char) : Prop := c = d ∨ IsCapitalOf c d ∨ IsCapitalOf d c

theorem toNat_toLower (c : Char) :
    c.toLower.toNat = if 65 ≤ c.toNat ∧ c.toNat ≤ 90 then c.toNat + 32 else c.toNat := by
  unfold Char.toLower
  split
  · rename_i h
    have hc : 65 ≤ c.toNat ∧ c.toNat ≤ 90 := h
    have hsum : (c.val + ('a'.val - 'A'.val)).toNat = c.toNat + 32 := by
      have hgap : ('a'.val - 'A'.val).toNat = 32 := by decide
      have hval : c.val.toNat = c.toNat := rfl
      rw [UInt32.toNat_add, hgap, hval]
      omega
    rw [if_pos hc]
    exact hsum
  · rename_i h
    have hc : ¬ (65 ≤ c.toNat ∧ c.toNat ≤ 90) := h
    rw [if_neg hc]

theorem toLower_eq_iff_sameLetter {c d : Char} : c.toLower = d.toLower ↔ SameLetter c d := by
  have hc := toNat_toLower c
  have hd := toNat_toLower d
  rw [← Char.toNat_inj, SameLetter, IsCapitalOf, IsCapitalOf, ← Char.toNat_inj, hc, hd]
  split <;> split <;> omega

theorem map_toLower_eq_iff_forall₂ {s t : List Char} :
    s.map Char.toLower = t.map Char.toLower ↔ List.Forall₂ SameLetter s t := by
  induction s generalizing t with
  | nil => cases t <;> simp
  | cons c s ih =>
    cases t with
    | nil => simp
    | cons d t =>
      rw [List.map_cons, List.map_cons, List.cons.injEq, List.forall₂_cons, ih,
        toLower_eq_iff_sameLetter]

end TokenLedger.Text
