import Mathlib.Algebra.Ring.Nat
import TokenLedger.Proofs.Summary.Recording

/-! # What a summary lists

The reasons that a summary lists, as a list: those with a count, each once and in the order in which
rejections are declared. Their counts add up to all rejections. A summary of verdicts lists the
reasons that occur among them.
-/
namespace TokenLedger

namespace ReasonCounts
variable {c d : ReasonCounts}

theorem mem_toList {reason : Rejection} {n : Nat} :
    (reason, n) ∈ c.toList ↔ c.get? reason = some n := by
  simp only [toList, List.mem_filterMap, Option.map_eq_some_iff, Prod.mk.injEq]
  constructor
  · rintro ⟨r, _, m, hm, rfl, rfl⟩
    exact hm
  · intro h
    exact ⟨reason, Rejection.mem_all reason, n, h, rfl, rfl⟩

theorem toList_injective (h : c.toList = d.toList) : c = d := by
  refine ext_get? fun reason => Option.ext fun n => ?_
  rw [← mem_toList, h, mem_toList]

theorem isSome_get?_iff {reason : Rejection} : (c.get? reason).isSome = true ↔ c.Lists reason :=
  Option.isSome_iff_exists

variable (c)

/-- Among some reasons, those with a count, and with it. -/
theorem filterMap_get?_eq_map (reasons : List Rejection) :
    (reasons.filterMap fun r => (c.get? r).map (r, ·)) =
      (reasons.filter fun r => (c.get? r).isSome).map fun r => (r, c.count r) := by
  induction reasons with
  | nil => rfl
  | cons r reasons ih =>
    cases hr : c.get? r with
    | none => simp [hr, ih]
    | some n => simp [hr, ih, count_of_get? hr]

theorem toList_eq_map :
    c.toList = (Rejection.all.filter fun r => (c.get? r).isSome).map fun r => (r, c.count r) :=
  c.filterMap_get?_eq_map Rejection.all

/-- The listed reasons are in the order of their declaration, and so none of them comes twice. -/
theorem pairwise_toList :
    (c.toList.map Prod.fst).Pairwise fun r s => r.ctorIdx < s.ctorIdx := by
  have hall : Rejection.all.Pairwise fun r s => r.ctorIdx < s.ctorIdx := by decide
  rw [toList_eq_map, List.map_map]
  change ((Rejection.all.filter _).map id).Pairwise _
  rw [List.map_id]
  exact hall.filter _

/-- A reason without a count adds nothing. -/
theorem sum_filter_count (reasons : List Rejection) :
    ((reasons.filter fun r => (c.get? r).isSome).map c.count).sum = (reasons.map c.count).sum := by
  induction reasons with
  | nil => rfl
  | cons r reasons ih =>
    cases hr : c.get? r with
    | none =>
      have hzero : c.count r = 0 := by rw [count, hr, Option.getD_none]
      simp [hr, ih, hzero]
    | some n => simp [hr, ih]

theorem sum_toList : (c.toList.map Prod.snd).sum = c.total := by
  rw [toList_eq_map, List.map_map]
  change ((Rejection.all.filter _).map c.count).sum = _
  rw [sum_filter_count]
  simp only [Rejection.all, List.map_cons, List.map_nil, List.sum_cons, List.sum_nil, total]
  omega

end ReasonCounts

namespace Summary
variable (vs : List Verdict)

/-- What occurs among the verdicts is listed, with the number of times that it does. -/
theorem toList_ofVerdicts :
    (ofVerdicts vs).rejected.toList =
      (Rejection.all.filter fun r => decide (.rejected r ∈ vs)).map fun r =>
        (r, vs.count (.rejected r)) := by
  have hlisted : (fun r => ((ofVerdicts vs).rejected.get? r).isSome) =
      fun r => decide (.rejected r ∈ vs) := by
    funext r
    rw [Bool.eq_iff_iff, decide_eq_true_eq, ReasonCounts.isSome_get?_iff, lists_ofVerdicts]
  rw [ReasonCounts.toList_eq_map, hlisted]
  simp only [count_ofVerdicts]

end Summary

end TokenLedger
