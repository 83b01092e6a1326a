import TokenLedger.Batch
import TokenLedger.Proofs.Proposal.Constructed
import TokenLedger.Proofs.Result

/-! # Refused arguments

Which fault a constructor gives. What stands in the way of bringing tokens to a holder is the same
for an issue and for a transfer and is stated once. The constructor of many issues gives the fault
of a quantity before that of any party, wherever in the list the quantity stands, and otherwise
builds exactly what the single issues build.
-/
namespace TokenLedger

theorem Batch.verdicts_eq_replicate {ps : List Proposal} (h : ∀ p ∈ ps, p.verdict = .accepted) :
    verdicts ps = List.replicate ps.length .accepted := by
  rw [List.eq_replicate_iff, verdicts, List.length_map, List.forall_mem_map]
  exact ⟨rfl, h⟩

namespace Proposal

/-- What stands in the way of bringing `quantity` tokens of `issuer` to `holder`, out of the hands
of `before?` if anybody holds them. -/
def obstacle? (issuer : Party) (quantity : Quantity) (before? : Option Party) (holder : Party) :
    Option Fault :=
  if quantity ≤ 0 then some (.nonPositive quantity)
  else if issuer = .absent then some (.record .issuerAbsent)
  else if holder = .absent then some (.record .holderAbsent)
  else if before? = some holder then some .sameHolder
  else none

section
variable {issuer holder : Party} {quantity : Quantity} {before? : Option Party} {fault : Fault}

theorem obstacle?_eq_none_iff :
    obstacle? issuer quantity before? holder = none ↔
      0 < quantity ∧ issuer ≠ .absent ∧ holder ≠ .absent ∧ before? ≠ some holder := by
  unfold obstacle?
  by_cases hq : quantity ≤ 0
  · simp [hq, Int64.not_lt.mpr hq]
  · by_cases hi : issuer = .absent
    · simp [hq, hi]
    · by_cases hh : holder = .absent
      · simp [hq, hi, hh]
      · simp [hq, hi, hh, Int64.not_le.mp hq]

theorem issue_eq_error_iff :
    issue issuer holder quantity = .error fault ↔
      obstacle? issuer quantity none holder = some fault := by
  unfold issue obstacle? Record.ofParts
  by_cases hq : quantity ≤ 0
  · simp [hq]
  · by_cases hi : issuer = .absent
    · simp [hq, hi]
    · by_cases hh : holder = .absent
      · simp [hq, hi, hh]
      · simp [hq, hi, hh]

theorem issue_eq_error_iff_of_positive (hq : 0 < quantity) :
    issue issuer holder quantity = .error fault ↔
      (issuer = .absent ∧ fault = .record .issuerAbsent) ∨
        (issuer ≠ .absent ∧ holder = .absent ∧ fault = .record .holderAbsent) := by
  rw [issue_eq_error_iff, obstacle?, if_neg (Int64.not_le.mpr hq)]
  by_cases hi : issuer = .absent
  · simp [hi, eq_comm]
  · by_cases hh : holder = .absent
    · simp [hi, hh, eq_comm]
    · simp [hi, hh]

/-- The constructor looks at the holders before it looks for absent parties. That makes no
difference, as the record that it hands on has its parties. -/
theorem transfer_eq_error_iff {old : Record} :
    transfer old holder = .error fault ↔
      obstacle? old.issuer old.quantity (some old.holder) holder = some fault := by
  unfold transfer obstacle? Record.supersede Record.ofParts
  by_cases hq : old.quantity ≤ 0
  · simp [hq]
  · by_cases hh : old.holder = holder
    · have hpresent : holder ≠ .absent := hh ▸ old.holder_present
      simp [hq, hh, hpresent, old.issuer_present]
    · by_cases ha : holder = .absent
      · simp [hq, ha, old.issuer_present, old.holder_present]
      · simp [hq, hh, ha, old.issuer_present]

theorem exists_issue_iff :
    (∃ p, issue issuer holder quantity = .ok p) ↔
      obstacle? issuer quantity none holder = none := by
  rw [Option.eq_none_iff_forall_ne_some]
  simp only [ne_eq, ← issue_eq_error_iff]
  cases issue issuer holder quantity <;> simp

end

/-- Why many issues at once are refused. -/
inductive Unissued (issuer : Party) (held : List (Party × Quantity)) : Fault → Prop
  | empty (nothing : held = []) : Unissued issuer held .emptyBatch
  /-- Some quantity is not positive, and the first such one is named, whoever the parties are. -/
  | quantity {earlier later : List (Party × Quantity)} {x : Party × Quantity}
    (split : held = earlier ++ x :: later) (positive : ∀ y ∈ earlier, 0 < y.2)
    (nonpositive : x.2 ≤ 0) : Unissued issuer held (.nonPositive x.2)
  | issuer (something : held ≠ []) (positive : ∀ y ∈ held, 0 < y.2) (absent : issuer = .absent) :
    Unissued issuer held (.record .issuerAbsent)
  | holder {x : Party × Quantity} (positive : ∀ y ∈ held, 0 < y.2) (present : issuer ≠ .absent)
    (here : x ∈ held) (absent : x.1 = .absent) : Unissued issuer held (.record .holderAbsent)

section
variable {issuer : Party} {held : List (Party × Quantity)}

/-- All quantities are positive, so that nothing but the single issues decides. -/
theorem issueMany_of_positive (hne : held ≠ []) (hq : ∀ x ∈ held, 0 < x.2) :
    issueMany issuer held = held.mapM fun x => issue issuer x.1 x.2 := by
  have hfind : held.find? (fun x => x.2 ≤ 0) = none := by
    rw [List.find?_eq_none]
    intro x hx
    simpa [Int64.not_le] using hq x hx
  rw [issueMany, if_neg (by simpa using hne), hfind]

theorem issueMany_of_nonpositive {earlier later : List (Party × Quantity)} {x : Party × Quantity}
    (hq : ∀ y ∈ earlier, 0 < y.2) (hx : x.2 ≤ 0) :
    issueMany issuer (earlier ++ x :: later) = .error (.nonPositive x.2) := by
  have hfind : (earlier ++ x :: later).find? (fun y => y.2 ≤ 0) = some x := by
    rw [List.find?_eq_some_iff_append]
    refine ⟨by simpa using hx, earlier, later, rfl, fun y hy => ?_⟩
    simpa [Int64.not_le] using hq y hy
  rw [issueMany, if_neg (by simp), hfind]

theorem exists_first_nonpositive (h : ¬ ∀ x ∈ held, 0 < x.2) :
    ∃ earlier x later, held = earlier ++ x :: later ∧ (∀ y ∈ earlier, 0 < y.2) ∧ x.2 ≤ 0 := by
  cases hf : held.find? fun x => x.2 ≤ 0 with
  | none =>
    rw [List.find?_eq_none] at hf
    refine absurd (fun x hx => ?_) h
    simpa [Int64.not_le] using hf x hx
  | some x =>
    obtain ⟨hx, earlier, later, hsplit, hearlier⟩ := List.find?_eq_some_iff_append.mp hf
    refine ⟨earlier, x, later, hsplit, fun y hy => ?_, by simpa using hx⟩
    simpa [Int64.not_le] using hearlier y hy

theorem issueMany_eq_ok_iff {ps : List Proposal} :
    issueMany issuer held = .ok ps ↔
      held ≠ [] ∧ List.Forall₂ (fun x p => issue issuer x.1 x.2 = .ok p) held ps := by
  by_cases hne : held = []
  · subst hne
    simp [issueMany]
  · by_cases hq : ∀ x ∈ held, 0 < x.2
    · rw [issueMany_of_positive hne hq, mapM_eq_ok_iff]
      exact (and_iff_right hne).symm
    · obtain ⟨earlier, x, later, rfl, hearlier, hx⟩ := exists_first_nonpositive hq
      rw [issueMany_of_nonpositive hearlier hx]
      constructor
      · intro h
        cases h
      · rintro ⟨_, hall⟩
        obtain ⟨p, hp⟩ := exists_forall₂_iff.mp ⟨ps, hall⟩ x (by simp)
        exact absurd hx (Int64.not_le.mpr (issue_eq_ok_iff.mp hp).1)

theorem exists_issueMany_iff :
    (∃ ps, issueMany issuer held = .ok ps) ↔
      held ≠ [] ∧ ∀ x ∈ held, ∃ p, issue issuer x.1 x.2 = .ok p := by
  simp only [issueMany_eq_ok_iff, exists_and_left, exists_forall₂_iff]

theorem unissued_of_error {fault : Fault} (h : issueMany issuer held = .error fault) :
    Unissued issuer held fault := by
  by_cases hne : held = []
  · subst hne
    cases h
    exact .empty rfl
  · by_cases hq : ∀ x ∈ held, 0 < x.2
    · rw [issueMany_of_positive hne hq] at h
      obtain ⟨x, hx, hfault⟩ := exists_error_of_mapM_eq_error h
      rcases (issue_eq_error_iff_of_positive (hq x hx)).mp hfault with ⟨hi, rfl⟩ | ⟨hi, hh, rfl⟩
      · exact .issuer hne hq hi
      · exact .holder hq hi hx hh
    · obtain ⟨earlier, x, later, rfl, hearlier, hx⟩ := exists_first_nonpositive hq
      rw [issueMany_of_nonpositive hearlier hx] at h
      cases h
      exact .quantity rfl hearlier hx

theorem Unissued.issueMany_eq {fault : Fault} (h : Unissued issuer held fault) :
    issueMany issuer held = .error fault := by
  cases h with
  | empty nothing =>
    subst nothing
    rfl
  | quantity split positive nonpositive =>
    rw [split, issueMany_of_nonpositive positive nonpositive]
  | issuer something positive absent =>
    rw [issueMany_of_positive something positive]
    obtain ⟨x, hx⟩ := List.exists_mem_of_ne_nil held something
    have hfails : issue issuer x.1 x.2 = .error (.record .issuerAbsent) :=
      (issue_eq_error_iff_of_positive (positive x hx)).mpr (.inl ⟨absent, rfl⟩)
    refine mapM_eq_error_of_same ⟨x, hx, hfails⟩ fun y hy other hother => ?_
    rcases (issue_eq_error_iff_of_positive (positive y hy)).mp hother with ⟨_, rfl⟩ | ⟨hi, _⟩
    · rfl
    · exact absurd absent hi
  | @holder x positive present hx absent =>
    rw [issueMany_of_positive (List.ne_nil_of_mem hx) positive]
    have hfails : issue issuer x.1 x.2 = .error (.record .holderAbsent) :=
      (issue_eq_error_iff_of_positive (positive x hx)).mpr (.inr ⟨present, absent, rfl⟩)
    refine mapM_eq_error_of_same ⟨x, hx, hfails⟩ fun y hy other hother => ?_
    rcases (issue_eq_error_iff_of_positive (positive y hy)).mp hother with ⟨hi, _⟩ | ⟨_, _, rfl⟩
    · exact absurd hi present
    · rfl

theorem issueMany_accepted {ps : List Proposal} (h : issueMany issuer held = .ok ps) :
    ∀ p ∈ ps, p.verdict = .accepted := by
  intro p hp
  obtain ⟨_, hall⟩ := issueMany_eq_ok_iff.mp h
  have hback : List.Forall₂ (fun p x => issue issuer x.1 x.2 = .ok p) ps held := hall.flip
  obtain ⟨x, built⟩ := exists_forall₂_iff.mp ⟨held, hback⟩ p hp
  exact (Constructed.issue built).verdict_eq_accepted

end

/-- Many issues succeed together exactly if each of them does, and then they are the single issues
in their order and all are accepted. Otherwise there is nothing but a fault, and the first quantity
that is not positive comes before an absent issuer and this before an absent holder. -/
theorem issueMany_all_or_nothing (issuer : Party) (held : List (Party × Quantity)) :
    ((∃ ps, issueMany issuer held = .ok ps) ↔
      held ≠ [] ∧ ∀ x ∈ held, ∃ p, issue issuer x.1 x.2 = .ok p) ∧
    (∀ ps, issueMany issuer held = .ok ps →
      (held.map fun x => issue issuer x.1 x.2) = ps.map .ok ∧
        Batch.verdicts ps = List.replicate held.length .accepted) ∧
    ∀ fault, issueMany issuer held = .error fault ↔ Unissued issuer held fault := by
  refine ⟨exists_issueMany_iff, fun ps hps => ⟨?single, ?verdicts⟩,
    fun fault => ⟨unissued_of_error, Unissued.issueMany_eq⟩⟩
  case single =>
    have hall := (issueMany_eq_ok_iff.mp hps).2
    rwa [← List.forall₂_eq_eq_eq, List.forall₂_map_left_iff, List.forall₂_map_right_iff]
  case verdicts =>
    have hlength := (issueMany_eq_ok_iff.mp hps).2.length_eq
    rw [hlength]
    exact Batch.verdicts_eq_replicate (issueMany_accepted hps)

/-- The absent issuer and the absent holder in front count less than the first bad quantity behind
them. A list without such faults is issued as a whole, to the issuer itself too. -/
theorem issueMany_all_or_nothing_mixed :
    let faulty : List (Party × Quantity) := [(.absent, 3), (.ofByte 91, -2), (.ofByte 92, -7)]
    let sound : List (Party × Quantity) := [(.ofByte 91, 5), (.ofByte 90, Int64.maxValue)]
    issueMany .absent faulty = .error (.nonPositive (-2)) ∧
      ∃ ps, issueMany (.ofByte 90) sound = .ok ps ∧
        (sound.map fun x => issue (.ofByte 90) x.1 x.2) = ps.map .ok ∧
          Batch.verdicts ps = [.accepted, .accepted] := by
  intro faulty sound
  obtain ⟨_, _, hfault⟩ := issueMany_all_or_nothing .absent faulty
  obtain ⟨hexists, hissued, _⟩ := issueMany_all_or_nothing (.ofByte 90) sound
  have hunissued : Unissued .absent faulty (.nonPositive (-2)) :=
    @Unissued.quantity .absent faulty [(.absent, 3)] [(.ofByte 92, -7)] (.ofByte 91, -2) rfl
      (by simp) (by decide)
  have hsingle : ∀ x ∈ sound, ∃ p, issue (.ofByte 90) x.1 x.2 = .ok p := by
    intro x hx
    rcases List.mem_pair.mp hx with rfl | rfl
    · exact exists_issue_iff.mpr (by decide)
    · exact exists_issue_iff.mpr (by decide)
  obtain ⟨ps, hps⟩ := hexists.mpr ⟨List.cons_ne_nil _ _, hsingle⟩
  obtain ⟨hsame, haccepted⟩ := hissued ps hps
  exact ⟨(hfault _).mpr hunissued, ps, hps, hsame, haccepted⟩

end Proposal

end TokenLedger
