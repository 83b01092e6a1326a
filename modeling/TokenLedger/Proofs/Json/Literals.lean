import Mathlib.Data.List.Induction
import TokenLedger.Proofs.Json.Compact
import TokenLedger.Proofs.Json.Readers

/-! # Number literals

An integer has a single literal, its decimal digits behind a sign if it is negative. Every other
literal has a fraction, has an exponent or is minus zero.
-/
namespace TokenLedger.Json

theorem ofDigitChars_concat (ds : List Char) (c : Char) :
    Nat.ofDigitChars 10 (ds ++ [c]) 0 = 10 * Nat.ofDigitChars 10 ds 0 + (c.toNat - '0'.toNat) := by
  rw [Nat.ofDigitChars_append, Nat.ofDigitChars_cons, Nat.ofDigitChars_nil]

theorem digit_lt_ten {c : Char} (h : c.isDigit = true) : c.toNat - '0'.toNat < 10 := by
  have hrange : 48 ≤ c.toNat ∧ c.toNat ≤ 57 := Char.isDigit_iff_toNat.mp h
  have hzero : '0'.toNat = 48 := rfl
  omega

theorem toDigits_digit {c : Char} (h : c.isDigit = true) :
    Nat.toDigits 10 (c.toNat - '0'.toNat) = [c] := by
  have hrange : 48 ≤ c.toNat ∧ c.toNat ≤ 57 := Char.isDigit_iff_toNat.mp h
  have hzero : '0'.toNat = 48 := rfl
  have hc : Nat.digitChar (c.toNat - '0'.toNat) = c := by
    apply Char.toNat_inj.mp
    rw [Nat.toNat_digitChar_of_lt_ten (digit_lt_ten h)]
    omega
  rw [Nat.toDigits_of_lt_base (digit_lt_ten h), hc]

/-- Digits are those of their number, unless a zero stands in front of others. -/
theorem toDigits_ofDigitChars {ds : List Char} (h : IsDigits ds)
    (hz : ∀ rest, ds = '0' :: rest → rest = []) :
    Nat.toDigits 10 (Nat.ofDigitChars 10 ds 0) = ds := by
  induction ds using List.reverseRecOn with
  | nil => exact absurd rfl h.1
  | append_singleton ds c ih =>
    obtain ⟨hds, hc⟩ := List.forall_mem_append.mp h.2
    have hlast := toDigits_digit (hc c List.mem_cons_self)
    rw [ofDigitChars_concat]
    by_cases hnil : ds = []
    · subst hnil
      simpa using hlast
    · have hfront : ∀ rest, ds ≠ '0' :: rest := by
        rintro rest rfl
        have hrest := hz (rest ++ [c]) rfl
        simp at hrest
      have hdigits := ih ⟨hnil, hds⟩ fun rest hrest => absurd hrest (hfront rest)
      have hpos : 0 < Nat.ofDigitChars 10 ds 0 := by
        by_contra hzero
        have hvalue : Nat.ofDigitChars 10 ds 0 = 0 := by omega
        rw [hvalue] at hdigits
        exact hfront [] hdigits.symm
      have hlt : c.toNat - '0'.toNat < 10 := digit_lt_ten (hc c List.mem_cons_self)
      rw [← Nat.toDigits_append_toDigits (by decide) hpos hlt, hdigits, hlast]

/-- Each text is the spelling of one token only. -/
theorem Token.SpelledBy.unique {t u : Token} {w : List Char} (ht : t.SpelledBy w)
    (hu : u.SpelledBy w) : t = u := by
  have hscan := scan_of_tokensSpelledBy ht.alone
  rw [scan_of_tokensSpelledBy hu.alone] at hscan
  exact (List.cons.inj hscan).1.symm

namespace NumberToken
variable {t : NumberToken} {s w : List Char} {z : Int}

theorem isInteger_ofInt (z : Int) : (ofInt z).IsInteger z where
  fraction := rfl
  exponent := rfl
  notMinusZero h := by
    have hz : z < 0 := of_decide_eq_true h
    omega
  value := by
    simp only [ofInt, Nat.ofDigitChars_ten_toDigits, decide_eq_true_eq]
    split <;> omega

theorem IsInteger.unique {z' : Int} (h : t.IsInteger z) (h' : t.IsInteger z') : z = z' := by
  rw [h.value, h'.value]

/-- A token that can be spelled is an integer only if it is the token of that integer. -/
theorem isInteger_iff_eq_ofInt (h : t.MagnitudeSpelledBy s) : t.IsInteger z ↔ t = ofInt z := by
  constructor
  · rintro ⟨hf, he, hzero, hvalue⟩
    obtain ⟨negative, whole, fraction, exponent⟩ := t
    obtain rfl : fraction = none := hf
    obtain rfl : exponent = none := he
    have habs : z.natAbs = Nat.ofDigitChars 10 whole 0 := by
      rw [hvalue]
      cases negative <;> simp
    have hwhole : Nat.toDigits 10 z.natAbs = whole := by
      rw [habs]
      exact toDigits_ofDigitChars h.whole h.zero
    have hsign : decide (z < 0) = negative := by
      cases negative with
      | false =>
        have hz : z = Nat.ofDigitChars 10 whole 0 := hvalue
        exact decide_eq_false (by omega)
      | true =>
        have hz : z = -(Nat.ofDigitChars 10 whole 0 : Int) := hvalue
        have hne : z ≠ 0 := hzero rfl
        exact decide_eq_true (by omega)
    rw [ofInt, hsign, hwhole]
  · rintro rfl
    exact isInteger_ofInt z

theorem magnitude_eq_whole (hplain : t.isPlain = true) (h : t.MagnitudeSpelledBy s) :
    s = t.whole := by
  obtain ⟨hf, he⟩ := isPlain_iff.mp hplain
  obtain ⟨f, e, hfraction, hexponent, rfl⟩ := h.parts
  rw [hf] at hfraction
  rw [he] at hexponent
  cases hfraction
  cases hexponent
  rw [List.append_nil, List.append_nil]

/-- Without a fraction and an exponent there is no choice in how a number is spelled. -/
theorem spelling_unique (hplain : t.isPlain = true) (h : Token.SpelledBy (.number t) s)
    (h' : Token.SpelledBy (.number t) w) : s = w := by
  obtain _ | _ | _ | _ | _ | _ | _ | _ | ⟨hs, hm⟩ | ⟨hs, hm⟩ := h <;>
    obtain _ | _ | _ | _ | _ | _ | _ | _ | ⟨hs', hm'⟩ | ⟨hs', hm'⟩ := h'
  · rw [magnitude_eq_whole hplain hm, magnitude_eq_whole hplain hm']
  · rw [hs] at hs'
    cases hs'
  · rw [hs] at hs'
    cases hs'
  · rw [magnitude_eq_whole hplain hm, magnitude_eq_whole hplain hm']

theorem exists_magnitude (h : Token.SpelledBy (.number t) w) : ∃ s, t.MagnitudeSpelledBy s := by
  cases h with
  | positive _ magnitude => exact ⟨_, magnitude⟩
  | negative _ magnitude => exact ⟨_, magnitude⟩

/-- The literals of an integer are a single one. -/
theorem isInteger_iff_literal_eq (h : Token.SpelledBy (.number t) w) :
    t.IsInteger z ↔ w = (toString z).toList := by
  obtain ⟨s, hmagnitude⟩ := exists_magnitude h
  rw [isInteger_iff_eq_ofInt hmagnitude]
  constructor
  · rintro rfl
    exact spelling_unique rfl h (Token.spelledBy_ofInt z)
  · rintro rfl
    have ht : Token.number t = .number (ofInt z) := h.unique (Token.spelledBy_ofInt z)
    exact Token.number.inj ht

end NumberToken

end TokenLedger.Json
