import TokenLedger.Proofs.Report.Lines

/-! # Fields of a line

A line is read back from both of its ends. The number in front of it ends at a space. Behind, the
verdict is the only one that can stand at the end, and each of the counts before it is as many
digits as follow its label. Only the intent is left between, with the spaces that pad it, so an
intent that looks like the fields of a line cannot pass for them.
-/
namespace TokenLedger.Report

section
variable {s t : List Char} {c : Char} {m n : Nat}

theorem takeWhile_reverse_number (hc : c.isDigit = false) :
    (s ++ c :: Nat.toDigits 10 n).reverse.takeWhile Char.isDigit =
      (Nat.toDigits 10 n).reverse := by
  have hreverse : (s ++ c :: Nat.toDigits 10 n).reverse =
      (Nat.toDigits 10 n).reverse ++ c :: s.reverse := by
    simp
  have hdigits : ∀ d ∈ (Nat.toDigits 10 n).reverse, d.isDigit := by
    intro d hd
    exact Nat.isDigit_of_mem_toDigits (by decide) (by decide) (List.mem_reverse.mp hd)
  have hstop : ¬ c.isDigit := by rw [hc]; decide
  rw [hreverse, List.takeWhile_append_of_pos hdigits, List.takeWhile_cons_of_neg hstop,
    List.append_nil]

/-- A number at the end of a text begins behind the last character that is not a digit. -/
theorem number_suffix_inj (hc : c.isDigit = false)
    (h : s ++ c :: Nat.toDigits 10 m = t ++ c :: Nat.toDigits 10 n) : s = t ∧ m = n := by
  have hreverse := congrArg (·.reverse.takeWhile Char.isDigit) h
  rw [takeWhile_reverse_number hc, takeWhile_reverse_number hc] at hreverse
  have hdigits : Nat.toDigits 10 m = Nat.toDigits 10 n := List.reverse_inj.mp hreverse
  have hmn : m = n := eq_of_toDigits_eq hdigits
  rw [hdigits] at h
  exact ⟨List.append_cancel_right h, hmn⟩

end

section
variable {s t label : String} {m n : Nat} (name : List Char)

/-- What a number behind a label is written behind is known from the text, as the number is, if the
label does not end in a digit. -/
theorem labelled_inj {c : Char} (hc : c.isDigit = false) (hlabel : label.toList = name ++ [c])
    (h : s ++ label ++ toString m = t ++ label ++ toString n) : s = t ∧ m = n := by
  have hfield : ∀ (text : String) (k : Nat), (text ++ label ++ toString k).toList =
      (text.toList ++ name) ++ c :: Nat.toDigits 10 k := by
    intro text k
    simp [hlabel]
  have hlist := congrArg String.toList h
  rw [hfield, hfield] at hlist
  obtain ⟨hbefore, hmn⟩ := number_suffix_inj hc hlist
  have hst : s.toList = t.toList := List.append_cancel_right hbefore
  exact ⟨String.toList_inj.mp hst, hmn⟩

theorem field_inj (hlabel : label.toList = name ++ ['='])
    (h : s ++ label ++ toString m = t ++ label ++ toString n) : s = t ∧ m = n :=
  labelled_inj name (by decide) hlabel h

end

/-- The texts are equal, or both fit the width and differ in the spaces behind them alone, which
padding hides. -/
def SameUpToPadding (width : Nat) (s t : String) : Prop :=
  s = t ∨ s.length ≤ width ∧ t.length ≤ width ∧ ∃ base m n,
    s = base ++ String.ofList (List.replicate m ' ') ∧
    t = base ++ String.ofList (List.replicate n ' ')

section
variable {width : Nat} {s t : String}

theorem length_append_spaces (n : Nat) :
    (s ++ String.ofList (List.replicate n ' ')).length = s.length + n := by
  rw [String.length_append, String.length_ofList, List.length_replicate]

theorem length_padded : (padded width s).length = max s.length width := by
  rw [padded, length_append_spaces]
  omega

theorem padded_of_width_le (h : width ≤ s.length) : padded width s = s := by
  have hspaces : width - s.length = 0 := by omega
  rw [padded, hspaces]
  exact String.append_empty

theorem padded_append_spaces {n : Nat} (h : s.length + n ≤ width) :
    padded width (s ++ String.ofList (List.replicate n ' ')) = padded width s := by
  have hspaces : width - s.length = n + (width - (s.length + n)) := by omega
  rw [padded, padded, length_append_spaces, hspaces, List.replicate_add, String.ofList_append,
    String.append_assoc]

theorem exists_eq_append_spaces (ht : t.length ≤ width) (hst : s.length ≤ t.length)
    (h : padded width s = padded width t) :
    ∃ n, t = s ++ String.ofList (List.replicate n ' ') := by
  obtain ⟨n, hn⟩ : ∃ n, t.length = s.length + n := ⟨t.length - s.length, by omega⟩
  have hs : padded width (s ++ String.ofList (List.replicate n ' ')) = padded width s :=
    padded_append_spaces (by omega)
  rw [h, padded, padded, length_append_spaces, ← hn] at hs
  exact ⟨n, ((String.append_left_inj _).mp hs).symm⟩

/-- Padding hides spaces behind a text, and nothing else. -/
theorem padded_eq_iff : padded width s = padded width t ↔ SameUpToPadding width s t := by
  constructor
  · intro h
    have hlength := congrArg String.length h
    rw [length_padded, length_padded] at hlength
    by_cases hs : width < s.length
    · have ht : width < t.length := by omega
      rw [padded_of_width_le (Nat.le_of_lt hs), padded_of_width_le (Nat.le_of_lt ht)] at h
      exact .inl h
    · have ht : t.length ≤ width := by omega
      have hs : s.length ≤ width := by omega
      obtain hst | hts := Nat.le_total s.length t.length
      · obtain ⟨n, hn⟩ := exists_eq_append_spaces ht hst h
        exact .inr ⟨hs, ht, s, 0, n, String.append_empty.symm, hn⟩
      · obtain ⟨n, hn⟩ := exists_eq_append_spaces hs hts h.symm
        exact .inr ⟨hs, ht, t, n, 0, hn, String.append_empty.symm⟩
  · rintro (rfl | ⟨hs, ht, base, m, n, rfl, rfl⟩)
    · rfl
    · rw [length_append_spaces] at hs ht
      rw [padded_append_spaces hs, padded_append_spaces ht]

end

theorem accepted_suffix_line_iff {i : Nat} {p : Proposal} {v : Verdict} :
    "  ACCEPTED".toList <:+ (line i p v).toList ↔ v = .accepted := by
  constructor
  · intro h
    have haccepted : (status .accepted).toList <:+ (line i p v).toList :=
      (List.suffix_append "  ".toList _).trans h
    obtain hv | hv := List.suffix_or_suffix_of_suffix (status_suffix_line i p v) haccepted
    · exact eq_of_status_suffix hv
    · exact (eq_of_status_suffix hv).symm
  · rintro rfl
    rw [line, String.append_assoc, String.toList_append]
    exact List.suffix_append _ _

/-- Two lines are one text if and only if they are of the same number and verdict and of proposals
with the same counts and, but for padding, the same intent. The text ends as that of an accepted
proposal if and only if it is one, whatever the intent says. -/
theorem line_unambiguous :
    (∀ i j p q v w, line i p v = line j q w ↔
      i = j ∧ v = w ∧ p.inputs.length = q.inputs.length ∧ p.outputs.length = q.outputs.length ∧
        p.signers.size = q.signers.size ∧ SameUpToPadding 7 p.intent q.intent) ∧
    ∀ i p v, "  ACCEPTED".toList <:+ (line i p v).toList ↔ v = .accepted := by
  refine ⟨fun i j p q v w => ⟨fun h => ?_, ?_⟩, fun i p v => accepted_suffix_line_iff⟩
  · obtain rfl := number_eq_of_line_eq h
    obtain rfl := verdict_eq_of_line_eq h
    -- The verdicts and the spaces before them go first, then the fields from the last to the first.
    have hcounts := (String.append_left_inj _).mp ((String.append_left_inj _).mp h)
    obtain ⟨hcounts, hsigners⟩ := field_inj " signers".toList rfl hcounts
    obtain ⟨hcounts, houtputs⟩ := field_inj " out".toList rfl hcounts
    obtain ⟨hintent, hinputs⟩ := field_inj " in".toList rfl hcounts
    have hpadded := (String.append_right_inj _).mp hintent
    exact ⟨rfl, rfl, hinputs, houtputs, hsigners, padded_eq_iff.mp hpadded⟩
  · rintro ⟨rfl, rfl, hinputs, houtputs, hsigners, hintent⟩
    rw [line, line, padded_eq_iff.mpr hintent, hinputs, houtputs, hsigners]

/-- A space behind a short intent is not seen. -/
example : line 0 ⟨[], [], "Mint", .empty⟩ .accepted = line 0 ⟨[], [], "Mint ", .empty⟩ .accepted := by
  decide +kernel

end TokenLedger.Report
