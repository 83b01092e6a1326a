import Mathlib.Data.List.Destutter
import Mathlib.Data.List.Perm.Basic
import Mathlib.Data.List.Sort
import Mathlib.Data.String.Basic
import TokenLedger.Signers

/-! # Order of handles

Handles are ordered by their bytes, texts by their characters. A digit of higher value is a later
character, and the high digit of a byte is written first, so that the two orders are one. Whoever
sorts handles, or drops those that occur twice, may as well do so with their texts.
-/
namespace TokenLedger

namespace Hex

/-- The letters are later characters than the figures, as their values are higher. -/
theorem digitChar_lt_iff {m n : Nat} (hm : m < 16) (hn : n < 16) :
    Nat.digitChar m < Nat.digitChar n ↔ m < n := by
  have key : ∀ m < 16, ∀ n < 16, (Nat.digitChar m < Nat.digitChar n ↔ m < n) := by decide
  exact key m hm n hn

theorem digitChar_inj {m n : Nat} (hm : m < 16) (hn : n < 16) :
    Nat.digitChar m = Nat.digitChar n ↔ m = n := by
  have key : ∀ m < 16, ∀ n < 16, (Nat.digitChar m = Nat.digitChar n ↔ m = n) := by decide
  exact key m hm n hn

/-- Of two numbers the high digits count first, and what is behind them counts last. -/
theorem lex_digits_iff {m n : Nat} {rest : Prop} :
    (m / 16 < n / 16 ∨ m / 16 = n / 16 ∧ (m % 16 < n % 16 ∨ m % 16 = n % 16 ∧ rest)) ↔
      m < n ∨ m = n ∧ rest := by
  by_cases hrest : rest
  · simp only [hrest, and_true]
    omega
  · simp only [hrest, and_false, or_false]
    omega

/-- The first byte in which two rows differ is written where their digits differ first. -/
theorem encode_lt_iff {bytes bytes' : List UInt8} :
    encode bytes < encode bytes' ↔ bytes < bytes' := by
  induction bytes generalizing bytes' with
  | nil =>
    cases bytes' with
    | nil => exact iff_of_false (List.not_lt_nil _) (List.not_lt_nil _)
    | cons c bytes' => exact iff_of_true (List.nil_lt_cons _ _) (List.nil_lt_cons _ _)
  | cons b bytes ih =>
    cases bytes' with
    | nil => exact iff_of_false (List.not_lt_nil _) (List.not_lt_nil _)
    | cons c bytes' =>
      have hb := b.toNat_lt
      have hc := c.toNat_lt
      have hbh : b.toNat / 16 < 16 := by omega
      have hch : c.toNat / 16 < 16 := by omega
      have hbl : b.toNat % 16 < 16 := by omega
      have hcl : c.toNat % 16 < 16 := by omega
      rw [encode_cons, encode_cons, List.cons_lt_cons_iff, List.cons_lt_cons_iff,
        List.cons_lt_cons_iff, ih, digitChar_lt_iff hbh hch, digitChar_inj hbh hch,
        digitChar_lt_iff hbl hcl, digitChar_inj hbl hcl, UInt8.lt_iff_toNat_lt,
        ← UInt8.toNat_inj]
      exact lex_digits_iff

end Hex

namespace Party
variable {p q : Party} {ps : List Party} {texts : List String}

theorem display_lt_iff : p.display < q.display ↔ p < q := by
  rw [String.lt_iff_toList_lt, display, display, String.toList_ofList, String.toList_ofList]
  exact Hex.encode_lt_iff

theorem display_le_iff : p.display ≤ q.display ↔ p ≤ q := by
  rw [← String.not_lt, display_lt_iff]
  exact List.not_lt

theorem display_injective : Function.Injective display := fun p q h => by
  have hp := parse_display p
  rw [h, parse_display q] at hp
  exact (Except.ok.inj hp).symm

theorem compare_display (p q : Party) : compare p q = compare p.display q.display := by
  change compareOfLessAndEq p q = compareOfLessAndEq p.display q.display
  simp only [compareOfLessAndEq, display_lt_iff, display_injective.eq_iff]

/-- What any way of sorting makes of a list: the same elements as often as before, none of them
above a later one. -/
structure Sorts {α : Type} [LE α] (l sorted : List α) : Prop where
  perm : sorted.Perm l
  ascending : sorted.Pairwise (· ≤ ·)

theorem map_display_sort (ps : List Party) :
    (sort ps).map display = (ps.map display).mergeSort fun s t => decide (s ≤ t) :=
  List.map_mergeSort fun _ _ _ _ => decide_eq_decide.mpr display_le_iff.symm

theorem sorts_mergeSort (texts : List String) :
    Sorts texts (texts.mergeSort fun s t => decide (s ≤ t)) :=
  ⟨List.mergeSort_perm texts _, List.pairwise_mergeSort' (· ≤ ·) texts⟩

/-- Texts can be sorted in one way only, and this is how their handles are sorted. -/
theorem sorts_texts_iff : Sorts (ps.map display) texts ↔ texts = (sort ps).map display := by
  have hsort := sorts_mergeSort (ps.map display)
  rw [← map_display_sort] at hsort
  constructor
  · intro h
    exact (h.perm.trans hsort.perm.symm).eq_of_pairwise' h.ascending hsort.ascending
  · rintro rfl
    exact hsort

theorem sorts_map_iff {qs : List Party} :
    Sorts (ps.map display) (qs.map display) ↔ Sorts ps qs := by
  have hascending : (qs.map display).Pairwise (· ≤ ·) ↔ qs.Pairwise (· ≤ ·) := by
    simp only [List.pairwise_map, display_le_iff]
  constructor
  · rintro ⟨hperm, h⟩
    exact ⟨(List.map_perm_map_iff display_injective).mp hperm, hascending.mp h⟩
  · rintro ⟨hperm, h⟩
    exact ⟨hperm.map display, hascending.mpr h⟩

/-- Later copies of a handle are dropped where later copies of its text are. -/
theorem map_display_eraseDups (ps : List Party) :
    ps.eraseDups.map display = (ps.map display).eraseDups := by
  -- By the length of the list: copies of the first handle are taken from the rest beforehand.
  induction hn : ps.length using Nat.strong_induction_on generalizing ps with
  | _ n ih =>
    cases ps with
    | nil => rfl
    | cons p ps =>
      have hfilter : (ps.map display).filter (fun t => !t == p.display) =
          (ps.filter fun q => !q == p).map display := by
        rw [List.filter_map]
        refine congrArg (List.map display) (List.filter_congr fun q _ => ?_)
        simp [display_injective.eq_iff]
      have hshorter : (ps.filter fun q => !q == p).length < n := by
        rw [← hn, List.length_cons]
        exact Nat.lt_succ_of_le (List.length_filter_le _ ps)
      rw [List.map_cons, List.eraseDups_cons, List.eraseDups_cons, List.map_cons, hfilter,
        ih _ hshorter _ rfl]

/-- The texts of a set, each once and in ascending order, are those of its handles. -/
theorem ascending_texts_iff :
    (texts.Pairwise (· < ·) ∧ ∀ t, t ∈ texts ↔ t ∈ ps.map display) ↔
      texts = (Signers.ofList ps).toList.map display := by
  have hascending : ((Signers.ofList ps).toList.map display).Pairwise (· < ·) := by
    simp only [List.pairwise_map, display_lt_iff]
    exact (Signers.ofList ps).ascending
  have hmem : ∀ t, t ∈ (Signers.ofList ps).toList.map display ↔ t ∈ ps.map display := by
    intro t
    simp only [List.mem_map]
    exact exists_congr fun q => and_congr_left' Signers.mem_ofList
  constructor
  · rintro ⟨h, htexts⟩
    exact h.eq_of_mem_iff hascending fun t => (htexts t).trans (hmem t).symm
  · rintro rfl
    exact ⟨hascending, hmem⟩

/-- Handles compare as their texts do. Sorting a list of handles, in whatever way, and then
displaying them is sorting their texts, and so it is with duplicates, be it that later copies are
dropped, that equal neighbours are made one, or that all is put into an ascending set. -/
theorem order_of_texts (p q : Party) (ps : List Party) :
    (compare p q = compare p.display q.display ∧ (p < q ↔ p.display < q.display) ∧
      (p = q ↔ p.display = q.display) ∧ (q < p ↔ q.display < p.display)) ∧
    ((sort ps).map display = (ps.map display).mergeSort (fun s t => decide (s ≤ t)) ∧
      (∀ qs, Sorts ps qs ↔ Sorts (ps.map display) (qs.map display)) ∧
      ∀ texts, Sorts (ps.map display) texts ↔ texts = (sort ps).map display) ∧
    ps.eraseDups.map display = (ps.map display).eraseDups ∧
    (ps.destutter (· ≠ ·)).map display = (ps.map display).destutter (· ≠ ·) ∧
    ∀ texts : List String, (texts.Pairwise (· < ·) ∧ ∀ t, t ∈ texts ↔ t ∈ ps.map display) ↔
      texts = (Signers.ofList ps).toList.map display := by
  refine ⟨?_, ?_, map_display_eraseDups ps, List.map_destutter_ne ps display_injective,
    fun _ => ascending_texts_iff⟩
  · exact ⟨compare_display p q, display_lt_iff.symm, display_injective.eq_iff.symm,
      display_lt_iff.symm⟩
  · exact ⟨map_display_sort ps, fun _ => sorts_map_iff.symm, fun _ => sorts_texts_iff⟩

end Party

end TokenLedger
