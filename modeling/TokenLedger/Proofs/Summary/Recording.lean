import TokenLedger.Proofs.Wire.Summary

/-! # Recording verdicts

A summary may begin with any numbers, also with numbers that do not add up. Recording verdicts adds
their counts to it and changes nothing else: what it depends on is how often each verdict occurs,
and the amount by which the numbers do not add up stays what it was.
-/
namespace TokenLedger

/-- The reason has a count, which may be zero. -/
def ReasonCounts.Lists (c : ReasonCounts) (reason : Rejection) : Prop :=
  ∃ n, c.get? reason = some n

theorem ReasonCounts.lists_set (c : ReasonCounts) (reason other : Rejection) (n : Nat) :
    (c.set reason n).Lists other ↔ other = reason ∨ c.Lists other := by
  rw [Lists, get?_set]
  by_cases h : other = reason
  · simp [h]
  · simp [h, Lists]

theorem ReasonCounts.get?_of_not_lists {c : ReasonCounts} {reason : Rejection}
    (h : ¬ c.Lists reason) : c.get? reason = none :=
  Option.eq_none_iff_forall_ne_some.mpr fun n hn => h ⟨n, hn⟩

theorem ReasonCounts.count_of_get? {c : ReasonCounts} {reason : Rejection} {n : Nat}
    (h : c.get? reason = some n) : c.count reason = n := by
  rw [count, h, Option.getD_some]

/-- Two lists of counts are equal if they list the same reasons and agree on the counts. -/
theorem ReasonCounts.eq_of_lists {c d : ReasonCounts} (hl : ∀ r, c.Lists r ↔ d.Lists r)
    (hc : ∀ r, c.count r = d.count r) : c = d := by
  refine ext_get? fun r => ?_
  by_cases h : c.Lists r
  · obtain ⟨n, hn⟩ := h
    obtain ⟨m, hm⟩ := (hl r).mp ⟨n, hn⟩
    have hcount := hc r
    rw [count_of_get? hn, count_of_get? hm] at hcount
    rw [hn, hm, hcount]
  · have hd : ¬ d.Lists r := fun h' => h ((hl r).mpr h')
    rw [get?_of_not_lists h, get?_of_not_lists hd]

namespace Summary

/-- By how much the total exceeds what the acceptances and the rejections make up. -/
def discrepancy (s : Summary) : Int := s.total - s.accepted - s.rejectedCount

theorem lists_record (s : Summary) (v : Verdict) (reason : Rejection) :
    (s.record v).rejected.Lists reason ↔ s.rejected.Lists reason ∨ v = .rejected reason := by
  cases v with
  | accepted => simp [record]
  | rejected r =>
    rw [record, ReasonCounts.lists_set, Verdict.rejected.injEq, or_comm, eq_comm]

theorem discrepancy_record (s : Summary) (v : Verdict) :
    (s.record v).discrepancy = s.discrepancy := by
  have hone : (if v.isAccepted then 1 else 0) + (if !v.isAccepted then 1 else 0) = 1 := by
    cases v <;> rfl
  rw [discrepancy, total_record, accepted_record, rejectedCount_record, discrepancy]
  omega

theorem countP_isAccepted (vs : List Verdict) :
    vs.countP Verdict.isAccepted = vs.count .accepted := by
  refine List.countP_congr fun v _ => ?_
  cases v <;> simp [Verdict.isAccepted]

section
variable (s : Summary) (vs ws : List Verdict)

theorem recordAll_append : s.recordAll (vs ++ ws) = (s.recordAll vs).recordAll ws :=
  List.foldl_append

theorem lists_recordAll (reason : Rejection) :
    (s.recordAll vs).rejected.Lists reason ↔
      s.rejected.Lists reason ∨ .rejected reason ∈ vs := by
  induction vs generalizing s with
  | nil => simp [recordAll]
  | cons v vs ih =>
    rw [recordAll, List.foldl_cons, ← recordAll, ih, lists_record, List.mem_cons, or_assoc, eq_comm]

theorem discrepancy_recordAll : (s.recordAll vs).discrepancy = s.discrepancy := by
  induction vs generalizing s with
  | nil => rfl
  | cons v vs ih => rw [recordAll, List.foldl_cons, ← recordAll, ih, discrepancy_record]

end

/-- All that recording depends on is how often each verdict occurs, so the order is none of it. -/
theorem recordAll_perm (s : Summary) {vs ws : List Verdict} (h : vs.Perm ws) :
    s.recordAll ws = s.recordAll vs := by
  have htotal : (s.recordAll ws).total = (s.recordAll vs).total := by
    rw [total_recordAll, total_recordAll, h.length_eq]
  have haccepted : (s.recordAll ws).accepted = (s.recordAll vs).accepted := by
    rw [accepted_recordAll, accepted_recordAll, h.countP_eq]
  have hrejected : (s.recordAll ws).rejected = (s.recordAll vs).rejected := by
    refine ReasonCounts.eq_of_lists (fun r => ?_) fun r => ?_
    · rw [lists_recordAll, lists_recordAll, h.mem_iff]
    · rw [count_recordAll, count_recordAll, h.count_eq]
  cases hws : s.recordAll ws
  cases hvs : s.recordAll vs
  rw [hws, hvs] at htotal haccepted hrejected
  simp only at htotal haccepted hrejected
  rw [htotal, haccepted, hrejected]

/-- Counters only grow, so that those on the way fit wherever those at the end do. -/
theorem fitsCounters_of_append {s : Summary} {vs ws : List Verdict}
    (h : (s.recordAll (vs ++ ws)).FitsCounters) : (s.recordAll vs).FitsCounters where
  total := by
    have hle : (s.recordAll vs).total ≤ (s.recordAll (vs ++ ws)).total := by
      rw [recordAll_append, total_recordAll (s.recordAll vs) ws]
      exact Nat.le_add_right _ _
    exact Nat.lt_of_le_of_lt hle h.total
  accepted := by
    have hle : (s.recordAll vs).accepted ≤ (s.recordAll (vs ++ ws)).accepted := by
      rw [recordAll_append, accepted_recordAll (s.recordAll vs) ws]
      exact Nat.le_add_right _ _
    exact Nat.lt_of_le_of_lt hle h.accepted
  rejected := by
    intro reason n hn
    obtain ⟨m, hm⟩ : (s.recordAll (vs ++ ws)).rejected.Lists reason := by
      rw [recordAll_append, lists_recordAll]
      exact Or.inl ⟨n, hn⟩
    have hcount := count_recordAll (s.recordAll vs) ws reason
    rw [← recordAll_append, ReasonCounts.count_of_get? hm, ReasonCounts.count_of_get? hn] at hcount
    have hle : n ≤ m := by omega
    exact Nat.lt_of_le_of_lt hle (h.rejected reason m hm)

section
variable (vs : List Verdict)

theorem discrepancy_ofVerdicts : (ofVerdicts vs).discrepancy = 0 := by
  rw [ofVerdicts, discrepancy_recordAll]
  rfl

/-- A reason is listed exactly if it has occurred. -/
theorem lists_ofVerdicts (reason : Rejection) :
    (ofVerdicts vs).rejected.Lists reason ↔ .rejected reason ∈ vs := by
  have hempty : ¬ empty.rejected.Lists reason := by
    rintro ⟨n, hn⟩
    cases reason <;> cases hn
  rw [ofVerdicts, lists_recordAll, or_iff_right hempty]

theorem pos_of_get?_ofVerdicts {reason : Rejection} {n : Nat}
    (h : (ofVerdicts vs).rejected.get? reason = some n) : 0 < n := by
  have hmem : .rejected reason ∈ vs := (lists_ofVerdicts vs reason).mp ⟨n, h⟩
  have hcount := count_ofVerdicts vs reason
  rw [ReasonCounts.count_of_get? h] at hcount
  have hpos : 0 < vs.count (.rejected reason) := List.count_pos_iff.mpr hmem
  omega

theorem rejectedCount_ofVerdicts_eq_zero_iff :
    (ofVerdicts vs).rejectedCount = 0 ↔ ∀ v ∈ vs, v = .accepted := by
  rw [rejectedCount_ofVerdicts, List.countP_eq_zero]
  refine forall₂_congr fun v _ => ?_
  cases v <;> simp [Verdict.isAccepted]

end

/-- Recording adds the number of verdicts to the total, the number of acceptances to the accepted
and the number of rejections for each reason to its count; it lists the reasons that occur beside
those that were listed, and keeps what the numbers lack to add up. Neither the order of the verdicts
nor a break between them makes a difference, and counters that fit at the end fit all along. Where
nothing was recorded before, the numbers add up to the verdicts. -/
theorem recorded_exactly (s : Summary) (vs : List Verdict) :
    ((s.recordAll vs).total = s.total + vs.length ∧
      (s.recordAll vs).accepted = s.accepted + vs.count .accepted ∧
      (∀ r, (s.recordAll vs).rejected.count r = s.rejected.count r + vs.count (.rejected r)) ∧
      (∀ r, (s.recordAll vs).rejected.Lists r ↔ s.rejected.Lists r ∨ .rejected r ∈ vs) ∧
      (s.recordAll vs).discrepancy = s.discrepancy) ∧
    (∀ ws, vs.Perm ws → s.recordAll ws = s.recordAll vs) ∧
    (∀ ws, s.recordAll (vs ++ ws) = (s.recordAll vs).recordAll ws ∧
      ((s.recordAll (vs ++ ws)).FitsCounters → (s.recordAll vs).FitsCounters)) ∧
    ((ofVerdicts vs).total = (ofVerdicts vs).accepted + (ofVerdicts vs).rejectedCount ∧
      (ofVerdicts vs).total = vs.length ∧
      (∀ r n, (ofVerdicts vs).rejected.get? r = some n → 0 < n) ∧
      ((ofVerdicts vs).allAccepted = true ↔ (ofVerdicts vs).rejectedCount = 0) ∧
      ((ofVerdicts vs).rejectedCount = 0 ↔ ∀ v ∈ vs, v = .accepted)) := by
  refine ⟨⟨total_recordAll s vs, ?accepted, count_recordAll s vs, lists_recordAll s vs,
    discrepancy_recordAll s vs⟩, fun ws h => recordAll_perm s h,
    fun ws => ⟨recordAll_append s vs ws, fitsCounters_of_append⟩, ?sum, total_ofVerdicts vs,
    fun r n h => pos_of_get?_ofVerdicts vs h, ?all, rejectedCount_ofVerdicts_eq_zero_iff vs⟩
  case accepted => rw [accepted_recordAll, countP_isAccepted]
  case sum =>
    have hzero := discrepancy_ofVerdicts vs
    rw [discrepancy] at hzero
    omega
  case all => rw [allAccepted_ofVerdicts, rejectedCount_ofVerdicts]

def disagreeing : Summary := ⟨1, 5, ⟨none, some 0, none, none⟩⟩

/-- It is read as it stands, counts on from its own numbers in either order, and lacks as much as
before. -/
theorem recorded_exactly_disagreeing :
    ofJson "\x7b\"total\":1,\"rejected\":\x7b\"MoveMalformed\":0\x7d,\"accepted\":5\x7d" =
        .ok disagreeing ∧
      disagreeing.recordAll [.rejected .redeemMalformed, .accepted] =
        disagreeing.recordAll [.accepted, .rejected .redeemMalformed] ∧
      disagreeing.recordAll [.accepted, .rejected .redeemMalformed] =
        ⟨3, 6, ⟨none, some 0, some 1, none⟩⟩ ∧
      (disagreeing.recordAll [.accepted]).FitsCounters ∧
      (disagreeing.recordAll [.accepted, .rejected .redeemMalformed]).discrepancy = -4 := by
  obtain ⟨⟨_, _, _, _, hd⟩, hperm, _, _⟩ :=
    recorded_exactly disagreeing [.accepted, .rejected .redeemMalformed]
  obtain ⟨_, _, hfits, _⟩ := recorded_exactly disagreeing [.accepted]
  have hend : (disagreeing.recordAll [.accepted, .rejected .redeemMalformed]).FitsCounters := by
    have hsmall : ∀ n ≤ 6, FitsCounter n := fun n hn => Nat.lt_of_le_of_lt hn (by decide)
    refine ⟨hsmall 3 (by decide), hsmall 6 (by decide), fun r n hn => hsmall n ?_⟩
    cases r <;> cases hn <;> decide
  exact ⟨by decide +kernel, hperm _ (.swap ..), rfl,
    (hfits [.rejected .redeemMalformed]).2 hend, hd⟩

end Summary

end TokenLedger
