import TokenLedger.Summary

/-! # Counting verdicts

What recording verdicts does to the numbers of a summary: the total grows by all of them, the
accepted number by the acceptances, the count of a reason by the rejections for it, and the sum over
the reasons by all rejections.
-/
namespace TokenLedger

theorem ReasonCounts.total_set (c : ReasonCounts) (reason : Rejection) :
    (c.set reason (c.count reason + 1)).total = c.total + 1 := by
  cases reason <;> simp only [total, count, get?, set, Option.getD_some] <;> omega

theorem ReasonCounts.count_set (c : ReasonCounts) (reason other : Rejection) (n : Nat) :
    (c.set reason n).count other = if other = reason then n else c.count other := by
  rw [count, get?_set]
  split <;> rfl

namespace Summary

theorem total_record (s : Summary) (v : Verdict) : (s.record v).total = s.total + 1 := by
  cases v <;> rfl

theorem accepted_record (s : Summary) (v : Verdict) :
    (s.record v).accepted = s.accepted + if v.isAccepted then 1 else 0 := by
  cases v <;> rfl

theorem rejectedCount_record (s : Summary) (v : Verdict) :
    (s.record v).rejectedCount = s.rejectedCount + if !v.isAccepted then 1 else 0 := by
  cases v with
  | accepted => rfl
  | rejected reason => exact s.rejected.total_set reason

theorem count_record (s : Summary) (v : Verdict) (reason : Rejection) :
    (s.record v).rejected.count reason =
      s.rejected.count reason + if v = .rejected reason then 1 else 0 := by
  cases v with
  | accepted => simp [record]
  | rejected r =>
    rw [record, ReasonCounts.count_set]
    by_cases h : reason = r
    · subst h
      simp
    · simp [h, Ne.symm h]

variable (s : Summary) (vs : List Verdict)

theorem total_recordAll : (s.recordAll vs).total = s.total + vs.length := by
  induction vs generalizing s with
  | nil => rfl
  | cons v vs ih =>
    rw [recordAll, List.foldl_cons, ← recordAll, ih, total_record, List.length_cons]
    omega

theorem accepted_recordAll :
    (s.recordAll vs).accepted = s.accepted + vs.countP Verdict.isAccepted := by
  induction vs generalizing s with
  | nil => rfl
  | cons v vs ih =>
    rw [recordAll, List.foldl_cons, ← recordAll, ih, accepted_record, List.countP_cons]
    omega

theorem rejectedCount_recordAll :
    (s.recordAll vs).rejectedCount = s.rejectedCount + vs.countP (!·.isAccepted) := by
  induction vs generalizing s with
  | nil => rfl
  | cons v vs ih =>
    rw [recordAll, List.foldl_cons, ← recordAll, ih, rejectedCount_record, List.countP_cons]
    omega

theorem count_recordAll (reason : Rejection) :
    (s.recordAll vs).rejected.count reason =
      s.rejected.count reason + vs.count (.rejected reason) := by
  induction vs generalizing s with
  | nil => rfl
  | cons v vs ih =>
    rw [recordAll, List.foldl_cons, ← recordAll, ih, count_record, List.count_cons]
    simp only [beq_iff_eq]
    omega

@[simp] theorem total_ofVerdicts : (ofVerdicts vs).total = vs.length := by
  rw [ofVerdicts, total_recordAll]
  exact Nat.zero_add vs.length

@[simp] theorem rejectedCount_ofVerdicts :
    (ofVerdicts vs).rejectedCount = vs.countP (!·.isAccepted) := by
  rw [ofVerdicts, rejectedCount_recordAll]
  exact Nat.zero_add _

theorem accepted_ofVerdicts : (ofVerdicts vs).accepted = vs.countP Verdict.isAccepted := by
  rw [ofVerdicts, accepted_recordAll]
  exact Nat.zero_add _

theorem count_ofVerdicts (reason : Rejection) :
    (ofVerdicts vs).rejected.count reason = vs.count (.rejected reason) := by
  have hnone : empty.rejected.count reason = 0 := by cases reason <;> rfl
  rw [ofVerdicts, count_recordAll, hnone, Nat.zero_add]

/-- Acceptances and rejections make up the total, so that all are accepted if none is rejected. -/
theorem allAccepted_ofVerdicts :
    (ofVerdicts vs).allAccepted = true ↔ vs.countP (!·.isAccepted) = 0 := by
  have hlen : vs.length = vs.countP Verdict.isAccepted + vs.countP (!·.isAccepted) := by
    rw [List.length_eq_countP_add_countP Verdict.isAccepted]
    congr
    funext v
    cases v.isAccepted <;> rfl
  rw [allAccepted, beq_iff_eq, accepted_ofVerdicts, total_ofVerdicts]
  omega

end Summary

end TokenLedger
