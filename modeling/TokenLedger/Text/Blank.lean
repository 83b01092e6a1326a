/-! # Blank characters

Trimming removes the white space of the Unicode standard, not only that of ASCII, from both ends
of a text.
-/
namespace TokenLedger.Text

/-- The 25 white-space characters: the ASCII ones, next line, and the space and line separators. -/
def isBlank (c : Char) : Bool :=
  let n := c.toNat
  (9 ≤ n && n ≤ 13) || n == 0x20 || n == 0x85 || n == 0xA0 || n == 0x1680 ||
    (0x2000 ≤ n && n ≤ 0x200A) || n == 0x2028 || n == 0x2029 || n == 0x202F || n == 0x205F ||
    n == 0x3000

def trim (s : List Char) : List Char :=
  ((s.dropWhile isBlank).reverse.dropWhile isBlank).reverse

theorem dropWhile_isBlank_eq_self {s : List Char} (h : ∀ c ∈ s, isBlank c = false) :
    s.dropWhile isBlank = s := by
  cases s with
  | nil => rfl
  | cons c s => simp [h c List.mem_cons_self]

theorem trim_eq_self {s : List Char} (h : ∀ c ∈ s, isBlank c = false) : trim s = s := by
  rw [trim, dropWhile_isBlank_eq_self h,
    dropWhile_isBlank_eq_self fun c hc => h c (List.mem_reverse.mp hc), List.reverse_reverse]

/-- Blanks around a text make no difference. -/
theorem trim_append_append {before s after : List Char} (hb : ∀ c ∈ before, isBlank c = true)
    (ha : ∀ c ∈ after, isBlank c = true) : trim (before ++ s ++ after) = trim s := by
  have hr : ∀ c ∈ after.reverse, isBlank c = true := fun c hc => ha c (List.mem_reverse.mp hc)
  have hn : after.dropWhile isBlank = [] := by
    rw [← List.append_nil after, List.dropWhile_append_of_pos ha, List.dropWhile_nil]
  rw [trim, List.append_assoc, List.dropWhile_append_of_pos hb, List.dropWhile_append]
  split
  · rename_i h
    simp [trim, hn, List.isEmpty_iff.mp h]
  · rw [List.reverse_append, List.dropWhile_append_of_pos hr, trim]

/-- Trimming takes blanks off the two ends and nothing else. -/
theorem exists_append_trim (s : List Char) :
    ∃ before after, s = before ++ trim s ++ after ∧ (∀ c ∈ before, isBlank c = true) ∧
      ∀ c ∈ after, isBlank c = true := by
  let front := s.dropWhile isBlank
  refine ⟨s.takeWhile isBlank, (front.reverse.takeWhile isBlank).reverse, ?_, ?_, ?_⟩
  · have h : trim s ++ (front.reverse.takeWhile isBlank).reverse = front := by
      rw [trim, ← List.reverse_append, List.takeWhile_append_dropWhile, List.reverse_reverse]
    rw [List.append_assoc, h, List.takeWhile_append_dropWhile]
  · exact List.all_eq_true.mp List.all_takeWhile
  · intro c hc
    exact List.all_eq_true.mp List.all_takeWhile c (List.mem_reverse.mp hc)

end TokenLedger.Text
