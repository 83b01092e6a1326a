import TokenLedger.Proofs.Text.LetterCase

/-! # Lower case and ASCII

Unicode has characters beyond ASCII whose lower-case form is a letter of ASCII, or begins with one.
In the whole table of letter case there are two: the Kelvin sign, which becomes a `k`, and the
dotted capital I, which becomes an `i` with a mark behind it. A word of ASCII without a `k` is
therefore the lower case of texts of ASCII only.
-/
namespace TokenLedger.Text

/-- What a character beyond ASCII leaves in lower case: one beyond ASCII, or the letter k. -/
def IsResidue (d : Char) : Prop := 0x80 ≤ d.toNat ∨ d = 'k'

/-- The partners in the table are characters, and one of them only is a letter of ASCII. -/
theorem isResidue_of_lower? {r : CaseRun} (hr : r ∈ caseRuns) {n : Nat} {d : Char}
    (h : r.lower? n = some d) : IsResidue d := by
  have key : (caseRuns.all fun r =>
      r.first == r.last && r.lower == 0x6B ||
        0x80 ≤ r.lower && (r.lower + (r.last - r.first) < 0xD800 ||
          0xDFFF < r.lower && r.lower + (r.last - r.first) < 0x110000)) = true := by
    decide +kernel
  have hrun := List.all_eq_true.mp key r hr
  simp only [Bool.or_eq_true, Bool.and_eq_true, beq_iff_eq, decide_eq_true_eq] at hrun
  rw [CaseRun.lower?] at h
  split at h
  · rename_i hn
    simp only [Bool.and_eq_true, decide_eq_true_eq, beq_iff_eq] at hn
    obtain rfl := Option.some.inj h
    obtain ⟨hone, hk⟩ | ⟨hlow, hrange⟩ := hrun
    · have hsign : r.lower + (n - r.first) = 0x6B := by omega
      rw [hsign]
      exact .inr rfl
    · have hvalid : (r.lower + (n - r.first)).isValidChar := by
        rw [Nat.isValidChar]
        omega
      have hbeyond : 0x80 ≤ r.lower + (n - r.first) := by omega
      rw [Char.ofNat, dif_pos hvalid]
      exact .inl hbeyond
  · cases h

theorem exists_residue_lower {c : Char} (hc : 0x80 ≤ c.toNat) : ∃ d ∈ lower c, IsResidue d := by
  rw [lower, if_neg (by omega)]
  split
  · exact ⟨'\u0307', by simp, .inl (by decide)⟩
  · refine ⟨_, List.mem_singleton_self _, ?_⟩
    cases hrun : caseRuns.findSome? (·.lower? c.toNat) with
    | none => exact .inl hc
    | some d =>
      obtain ⟨r, hr, hd⟩ := List.exists_of_findSome?_eq_some hrun
      exact isResidue_of_lower? hr hd

/-- A character beyond ASCII leaves its residue wherever it stands, a capital sigma in either of its
two forms. -/
theorem exists_residue_loweredAfter {s : List Char} {c : Char} (hs : c ∈ s) (hc : 0x80 ≤ c.toNat)
    (before : List Char) : ∃ d ∈ loweredAfter before s, IsResidue d := by
  induction s generalizing before with
  | nil => cases hs
  | cons a s ih =>
    rw [loweredAfter]
    obtain rfl | hs := List.mem_cons.mp hs
    · split
      · split
        · exact ⟨'ς', by simp, .inl (by decide)⟩
        · exact ⟨'σ', by simp, .inl (by decide)⟩
      · obtain ⟨d, hd, hresidue⟩ := exists_residue_lower hc
        exact ⟨d, List.mem_append_left _ hd, hresidue⟩
    · obtain ⟨d, hd, hresidue⟩ := ih hs (a :: before)
      exact ⟨d, List.mem_append_right _ hd, hresidue⟩

/-- In a text of ASCII nothing depends on what stands around a letter. -/
theorem loweredAfter_of_ascii {s : List Char} (h : ∀ c ∈ s, c.toNat < 0x80) (before : List Char) :
    loweredAfter before s = s.map Char.toLower := by
  induction s generalizing before with
  | nil => rfl
  | cons c s ih =>
    obtain ⟨hc, hs⟩ := List.forall_mem_cons.mp h
    have hsigma : (c == 'Σ') = false := by
      refine beq_false_of_ne ?_
      rintro rfl
      exact absurd hc (by decide)
    rw [loweredAfter, hsigma, ih hs, lower, if_pos hc]
    rfl

/-- For a word without residues, full lower-casing is no wider than that of the letters A to Z. -/
theorem lowered_eq_iff {s word : List Char} (hword : ∀ d ∈ word, ¬ IsResidue d) :
    lowered s = word ↔ s.map Char.toLower = word := by
  by_cases hs : ∀ c ∈ s, c.toNat < 0x80
  · rw [lowered, loweredAfter_of_ascii hs]
  · obtain ⟨c, hc, hbeyond⟩ : ∃ c ∈ s, 0x80 ≤ c.toNat := by simpa using hs
    refine iff_of_false (fun h => ?_) fun h => ?_
    · obtain ⟨d, hd, hresidue⟩ := exists_residue_loweredAfter hc hbeyond []
      rw [← lowered, h] at hd
      exact hword d hd hresidue
    · have hmem : c.toLower ∈ word := h ▸ List.mem_map_of_mem hc
      refine hword _ hmem (.inl ?_)
      rw [toNat_toLower]
      split <;> omega

/-- A `k` would let a sign through that is no letter of ASCII. -/
example : lowered ['\u212A'] = lowered ['K'] := by decide

end TokenLedger.Text
