import TokenLedger.Proofs.Json.Sequence

/-! # What readers accept

Readers of one shape accept the values of that shape and no others: strings, integers within bounds,
lists of what the reader of an item accepts, and the items of a list by their places. An integer is
a number without a fraction and an exponent that is not minus zero.
-/
namespace TokenLedger.Json

def Node.IsString (n : Node) (text : String) : Prop := ∃ s, n = .string s ∧ s.value = .ok text

/-- The number is written as this integer: without a fraction, without an exponent and not as minus
zero. -/
structure NumberToken.IsInteger (t : NumberToken) (z : Int) : Prop where
  fraction : t.fraction = none
  exponent : t.exponent = none
  notMinusZero : t.negative = true → z ≠ 0
  value : z = if t.negative then -(Nat.ofDigitChars 10 t.whole 0 : Int)
    else Nat.ofDigitChars 10 t.whole 0

def Node.IsInteger (n : Node) (z : Int) : Prop := ∃ t, n = .number t ∧ t.IsInteger z

theorem Node.isString_string_iff {s : StringToken} {text : String} :
    (Node.string s).IsString text ↔ s.value = .ok text := by
  simp [IsString]

theorem Node.IsString.unique {n : Node} {text text' : String} (h : n.IsString text)
    (h' : n.IsString text') : text = text' := by
  obtain ⟨s, rfl, hs⟩ := h
  obtain ⟨_, heq, hs'⟩ := h'
  cases heq
  exact Except.ok.inj (hs.symm.trans hs')

namespace Node
variable {α : Type} {n : Node} {v : α}

theorem refuse_ne_ok (n : Node) (expected : String) (v : α) : n.refuse expected ≠ .ok v := by
  cases n with
  | number t => cases h : t.value <;> simp [refuse, h, liftText, Except.mapError, bind, Except.bind,
      Json.refuse]
  | string s => cases h : s.value <;> simp [refuse, h, liftText, Except.mapError, bind, Except.bind,
      Json.refuse]
  | null | bool | array | object => simp [refuse, Json.refuse]
  | broken => simp [refuse, raise]

theorem readString_eq_ok_iff {expected text : String} :
    n.readString expected = .ok text ↔ n.IsString text := by
  unfold readString
  cases n with
  | string s => exact mapError_eq_ok_iff.trans isString_string_iff.symm
  | _ =>
    refine iff_of_false (refuse_ne_ok _ _ _) ?_
    rintro ⟨_, h, _⟩
    cases h

end Node

namespace NumberToken
variable {t : NumberToken} {z : Int}

theorem isPlain_iff : t.isPlain = true ↔ t.fraction = none ∧ t.exponent = none := by
  simp [isPlain]

theorem isInteger_of_not_negative (hplain : t.isPlain = true) (hs : t.negative = false) :
    t.IsInteger z ↔ z = Nat.ofDigitChars 10 t.whole 0 := by
  obtain ⟨hf, he⟩ := isPlain_iff.mp hplain
  constructor
  · intro h
    simpa [hs] using h.value
  · intro hz
    exact ⟨hf, he, by simp [hs], by simpa [hs] using hz⟩

theorem isInteger_of_negative (hplain : t.isPlain = true) (hs : t.negative = true) :
    t.IsInteger z ↔ z = -(Nat.ofDigitChars 10 t.whole 0 : Int) ∧ z ≠ 0 := by
  obtain ⟨hf, he⟩ := isPlain_iff.mp hplain
  constructor
  · intro h
    exact ⟨by simpa [hs] using h.value, h.notMinusZero hs⟩
  · rintro ⟨hz, hne⟩
    exact ⟨hf, he, fun _ => hne, by simpa [hs] using hz⟩

/-- Any other number is a floating-point one, or none at all. -/
theorem float_ne_integer (x : Option Float) :
    (match x with
      | some x => .ok (.float x)
      | none => .error .numberOutOfRange : Except Fault Number) ≠ .ok (.integer z) := by
  cases x <;> simp

/-- A number is taken for an integer if it is written as one that fits one of the two types of 64
bits. -/
theorem value_eq_integer_iff :
    t.value = .ok (.integer z) ↔
      t.IsInteger z ∧ -0x8000000000000000 ≤ z ∧ z < 0x10000000000000000 := by
  unfold NumberToken.value
  cases hplain : t.isPlain with
  | false =>
    have hnot : ¬ t.IsInteger z := fun h => by
      rw [isPlain_iff.mpr ⟨h.fraction, h.exponent⟩] at hplain
      cases hplain
    simp only [Bool.false_and, Bool.false_eq_true, if_false]
    exact iff_of_false (float_ne_integer _) fun h => hnot h.1
  | true =>
    cases hs : t.negative with
    | false =>
      rw [isInteger_of_not_negative hplain hs]
      simp only [Bool.true_and, Bool.not_false, Bool.false_and, Bool.false_eq_true, if_false,
        decide_eq_true_eq]
      split
      · simp only [Except.ok.injEq, Number.integer.injEq]
        omega
      · exact iff_of_false (float_ne_integer _) (by omega)
    | true =>
      rw [isInteger_of_negative hplain hs]
      simp only [Bool.true_and, Bool.not_true, Bool.false_and, Bool.false_eq_true, if_false,
        Bool.and_eq_true, decide_eq_true_eq]
      split
      · simp only [Except.ok.injEq, Number.integer.injEq]
        omega
      · exact iff_of_false (float_ne_integer _) (by omega)

end NumberToken

theorem Node.readInteger_eq_ok_iff {n : Node} {low high z : Int} {expected : String}
    (hlow : -0x8000000000000000 ≤ low) (hhigh : high < 0x10000000000000000) :
    n.readInteger low high expected = .ok z ↔ n.IsInteger z ∧ low ≤ z ∧ z ≤ high := by
  unfold readInteger
  cases n with
  | number t =>
    have htoken : (Node.number t).IsInteger z ↔ t.IsInteger z := by simp [IsInteger]
    rw [htoken, bind_eq_ok_iff]
    simp only [liftText, mapError_eq_ok_iff]
    constructor
    · rintro ⟨x, hx, h⟩
      cases x with
      | float x => cases h
      | integer m =>
        simp only at h
        split at h
        · rename_i hrange
          obtain rfl := Except.ok.inj h
          exact ⟨(NumberToken.value_eq_integer_iff.mp hx).1, hrange⟩
        · cases h
    · rintro ⟨hz, hrange⟩
      have hx : t.value = .ok (.integer z) :=
        NumberToken.value_eq_integer_iff.mpr ⟨hz, by omega, by omega⟩
      exact ⟨_, hx, if_pos hrange⟩
  | _ =>
    refine iff_of_false (refuse_ne_ok _ _ _) ?_
    rintro ⟨⟨_, h, _⟩, _⟩
    cases h

def Node.IsListOf {α : Type} (n : Node) (R : α → Node → Prop) (xs : List α) : Prop :=
  ∃ items, n = .array items .closed ∧ List.Forall₂ R xs items

theorem wholeItems_iff {items : List Node} : WholeItems items ↔ ∀ n ∈ items, n.Whole := by
  induction items with
  | nil => simp [WholeItems]
  | cons n rest ih => rw [WholeItems, List.forall_mem_cons, ih]

/-- Items are what they should be if the reader of an item says so of each. -/
theorem forall₂_read_iff {α : Type} {read : Node → Read α} {R : α → Node → Prop}
    {items : List Node} (hread : ∀ n ∈ items, ∀ x, read n = .ok x ↔ R x n) {xs : List α} :
    List.Forall₂ (fun n x => read n = .ok x) items xs ↔ List.Forall₂ R xs items := by
  induction items generalizing xs with
  | nil => cases xs <;> simp
  | cons n rest ih =>
    obtain ⟨hn, hrest⟩ := List.forall_mem_cons.mp hread
    cases xs with
    | nil => simp
    | cons x xs => rw [List.forall₂_cons, List.forall₂_cons, hn, ih hrest]

/-- A list is read if each item is. -/
theorem Node.readList_eq_ok_iff {α : Type} {read : Node → Read α} {R : α → Node → Prop}
    (hread : ∀ n, n.Whole → ∀ x, read n = .ok x ↔ R x n) {n : Node} (hw : n.Whole) {xs : List α} :
    n.readList read = .ok xs ↔ n.IsListOf R xs := by
  cases n with
  | array items ending =>
    obtain ⟨rfl, hitems⟩ := hw
    have hlist : (Node.array items .closed).IsListOf R xs ↔ List.Forall₂ R xs items := by
      simp [IsListOf]
    rw [readList_closed_eq_ok_iff, hlist]
    exact forall₂_read_iff fun n hn => hread n (wholeItems_iff.mp hitems n hn)
  | _ =>
    unfold readList
    refine iff_of_false (refuse_ne_ok _ _ _) ?_
    rintro ⟨_, h, _⟩
    cases h

section
variable {α : Type} {read : Node → Read α} {items left : List Node} {v default : α}

/-- An item that must be there is the next one. -/
theorem readItem_eq_ok_iff {position : Nat} {shape : String} :
    readItem position shape read items .closed = .ok (v, left) ↔
      ∃ n, items = n :: left ∧ read n = .ok v := by
  cases items with
  | nil => simp [readItem, nextItem, require, Ending.itemFault?, bind, Except.bind, refuse]
  | cons n rest =>
    cases hr : read n <;>
      simp [readItem, nextItem, bind, Except.bind, hr, eq_comm, and_comm]

/-- An item that may be left out is left out at the end only. -/
theorem readItemOr_eq_ok_iff :
    readItemOr default read items .closed = .ok (v, left) ↔
      (∃ n, items = n :: left ∧ read n = .ok v) ∨ (items = [] ∧ left = [] ∧ v = default) := by
  cases items with
  | nil => simp [readItemOr, nextItem, require, Ending.itemFault?, bind, Except.bind, eq_comm,
      and_comm]
  | cons n rest =>
    cases hr : read n <;>
      simp [readItemOr, nextItem, bind, Except.bind, hr, eq_comm, and_comm]

theorem endOfItems_eq_ok_iff {u : Unit} : endOfItems items .closed = .ok u ↔ items = [] := by
  cases items <;> simp [endOfItems, require, Ending.listFault?, raise]

end

end TokenLedger.Json
