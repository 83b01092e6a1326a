import TokenLedger.Intent

/-! # Spellings of intents

A spelling of an intent is its tag with the letters A to Z in any case and with blanks around it.
A text spells at most one intent, and `ofText?` finds the one that it spells.
-/
namespace TokenLedger.Intent

def SpelledBy (i : Intent) (text : String) : Prop :=
  ∃ before tag after, text.toList = before ++ tag ++ after ∧
    (∀ c ∈ before, Text.isBlank c = true) ∧ (∀ c ∈ after, Text.isBlank c = true) ∧
    tag.map Char.toLower = i.tag.toList.map Char.toLower

/-- No blank is a capital letter. -/
theorem toLower_of_isBlank {c : Char} (h : Text.isBlank c = true) : c.toLower = c := by
  unfold Char.toLower
  refine dif_neg ?_
  rintro ⟨hA, hZ⟩
  have hA' : 65 ≤ c.toNat := hA
  have hZ' : c.toNat ≤ 90 := hZ
  simp only [Text.isBlank, Bool.or_eq_true, Bool.and_eq_true, beq_iff_eq, decide_eq_true_eq] at h
  omega

theorem isBlank_of_mem_tag {i : Intent} {c : Char} (h : c ∈ i.tag.toList.map Char.toLower) :
    Text.isBlank c = false := by
  have key : ((i.tag.toList.map Char.toLower).all fun c => !Text.isBlank c) = true := by
    cases i <;> decide
  have hc := List.all_eq_true.mp key c h
  simpa using hc

/-- Whatever is a tag up to the case of its letters has no blanks. -/
theorem isBlank_of_map_toLower {i : Intent} {tag : List Char}
    (h : tag.map Char.toLower = i.tag.toList.map Char.toLower) :
    ∀ c ∈ tag, Text.isBlank c = false := by
  intro c hc
  have hm : c.toLower ∈ i.tag.toList.map Char.toLower := h ▸ List.mem_map_of_mem hc
  refine Bool.eq_false_iff.mpr fun hb => ?_
  rw [toLower_of_isBlank hb] at hm
  exact Bool.eq_false_iff.mp (isBlank_of_mem_tag hm) hb

theorem spelledBy_iff_map_trim {i : Intent} {text : String} :
    i.SpelledBy text ↔
      (Text.trim text.toList).map Char.toLower = i.tag.toList.map Char.toLower := by
  constructor
  · rintro ⟨before, tag, after, ht, hb, ha, hl⟩
    rw [ht, Text.trim_append_append hb ha, Text.trim_eq_self (isBlank_of_map_toLower hl), hl]
  · intro h
    obtain ⟨before, after, ht, hb, ha⟩ := Text.exists_append_trim text.toList
    exact ⟨before, Text.trim text.toList, after, ht, hb, ha, h⟩

theorem map_toLower_tag_injective {i j : Intent}
    (h : i.tag.toList.map Char.toLower = j.tag.toList.map Char.toLower) : i = j := by
  revert h
  cases i <;> cases j <;> decide

theorem SpelledBy.unique {i j : Intent} {text : String} (hi : i.SpelledBy text)
    (hj : j.SpelledBy text) : i = j := by
  have hi' := spelledBy_iff_map_trim.mp hi
  have hj' := spelledBy_iff_map_trim.mp hj
  exact map_toLower_tag_injective (hi'.symm.trans hj')

theorem equalsIgnoringCase_tag_iff {i : Intent} {text : String} :
    Text.equalsIgnoringCase i.tag.toList (Text.trim text.toList) = true ↔ i.SpelledBy text := by
  rw [spelledBy_iff_map_trim, Text.equalsIgnoringCase, beq_iff_eq, eq_comm]

theorem ofText?_eq_some_iff {i : Intent} {text : String} :
    ofText? text = some i ↔ i.SpelledBy text := by
  constructor
  · intro h
    have hi := List.find?_some h
    exact equalsIgnoringCase_tag_iff.mp hi
  · intro h
    have hs : (ofText? text).isSome = true :=
      List.find?_isSome.mpr ⟨i, mem_all i, equalsIgnoringCase_tag_iff.mpr h⟩
    obtain ⟨j, hj⟩ := Option.isSome_iff_exists.mp hs
    have hi := List.find?_some hj
    rw [hj, (equalsIgnoringCase_tag_iff.mp hi).unique h]

theorem ofText?_eq_none_iff {text : String} :
    ofText? text = none ↔ ∀ i : Intent, ¬ i.SpelledBy text := by
  simp only [Option.eq_none_iff_forall_ne_some, ne_eq, ofText?_eq_some_iff]

end TokenLedger.Intent
