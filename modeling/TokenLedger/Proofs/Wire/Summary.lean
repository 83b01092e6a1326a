import TokenLedger.Proofs.Json.Member
import TokenLedger.Proofs.Json.Pretty
import TokenLedger.Proofs.Summary.Counts
import TokenLedger.Proofs.Wire.RoundTrip
import TokenLedger.Wire.Summary

/-! # Verdicts and summaries read back

Verdicts and summaries are read back from what is written of them, also when their keys have been
put in order and the reason of a rejection has come to stand in front of its status. The numbers of
a summary must fit the counters of a machine.
-/
namespace TokenLedger

open Json

@[simp] theorem Rejection.chooseVariant_name (r : Rejection) :
    chooseVariant variants r.name = .ok r := by
  cases r <;> rfl

theorem Verdict.whole_toJson (v : Verdict) : v.toJson.node.Whole := by
  cases v with
  | accepted => exact ⟨rfl, rfl, rfl, trivial⟩
  | rejected reason => exact ⟨rfl, rfl, rfl, rfl, rfl, trivial⟩

theorem Verdict.fitsIn_sorted_toJson (v : Verdict) (room : Nat) :
    v.toJson.sorted.FitsIn (room + 1) := by
  cases v with
  | accepted => exact ⟨trivial, trivial⟩
  | rejected reason => exact ⟨trivial, trivial, trivial⟩

theorem Verdict.sorted_toJson_rejected (reason : Rejection) :
    (rejected reason).toJson.sorted =
      .object [("reason", reason.toJson), ("status", .string "rejected")] := rfl

/-- In order of their keys, too, the members of a verdict say what it is. -/
theorem Verdict.ofNode_sorted_toJson (v : Verdict) : ofNode v.toJson.sorted.node = .ok v := by
  have status : ∀ name s, chooseVariant [("accepted", Status.accepted), ("rejected", .rejected)]
      name = .ok s → Status.ofNode (Value.string name).node = .ok s := by
    intro name s h
    simp [Status.ofNode, Value.node, Node.readString, liftText, Except.mapError, bind, Except.bind,
      h]
  cases v with
  | accepted =>
    have hs := status "accepted" .accepted rfl
    have hsplit : splitMembers (depthLimit - 1) none
        (memberNodes [("status", .string "accepted")]) = .ok (some .accepted, []) := by
      simp [memberNodes, splitMembers, liftText, Except.mapError, bind, Except.bind, hs]
    change ofNode (.object (memberNodes [("status", .string "accepted")]) .closed) = _
    rw [ofNode, hsplit]
    rfl
  | rejected reason =>
    have hs := status "rejected" .rejected rfl
    have hreason : (Value.string reason.name).node.readValue (depthLimit - 1) =
        .ok (.string reason.name) :=
      Value.FitsIn.readValue_eq trivial
    have hsplit : splitMembers (depthLimit - 1) none
        (memberNodes [("reason", .string reason.name), ("status", .string "rejected")]) =
        .ok (some .rejected, [("reason", .string reason.name)]) := by
      simp [memberNodes, splitMembers, liftText, Except.mapError, bind, Except.bind, hs, hreason]
    have hfind : findReason none [("reason", .string reason.name)] = .ok reason := by
      simp [findReason, Rejection.ofValue, required, bind, Except.bind]
    rw [sorted_toJson_rejected, Value.node, ofNode, Rejection.toJson, hsplit]
    simp only [bind, Except.bind, Ending.memberFault?, require, required, ofMembers, hfind]
    rfl

/-- A counter has 64 bits, which is more than the length of any list in memory needs. -/
def FitsCounter (n : Nat) : Prop := n < 0x10000000000000000

theorem countOfNode_ofNat {n : Nat} (h : FitsCounter n) :
    countOfNode (Value.ofNat n).node = .ok n := by
  have hn : n < 0x10000000000000000 := h
  have hv : (NumberToken.ofInt n).value = .ok (.integer n) :=
    NumberToken.value_ofInt (by omega) (by omega)
  have hrange : (0 : Int) ≤ n ∧ (n : Int) ≤ 0xFFFFFFFFFFFFFFFF := by omega
  simp only [countOfNode, Value.ofNat, Value.node, Node.readInteger, liftText, hv,
    Except.mapError, bind, Except.bind, if_pos hrange]
  rfl

namespace ReasonCounts

def FitsCounters (c : ReasonCounts) : Prop :=
  ∀ reason n, c.get? reason = some n → FitsCounter n

def entries (c : ReasonCounts) (reasons : List Rejection) : List (String × Value) :=
  reasons.filterMap fun reason => (c.get? reason).map fun n => (reason.name, .ofNat n)

theorem toJson_eq (c : ReasonCounts) : c.toJson = .object (c.entries Rejection.all) := by
  rw [toJson, toList, List.map_filterMap, entries]
  simp only [Option.map_map, Function.comp_def]

section
variable {c : ReasonCounts} {r : Rejection} (rest : List Rejection)

theorem entries_cons_of_none (h : c.get? r = none) : c.entries (r :: rest) = c.entries rest := by
  simp [entries, h]

theorem entries_cons_of_some {n : Nat} (h : c.get? r = some n) :
    c.entries (r :: rest) = (r.name, .ofNat n) :: c.entries rest := by
  simp [entries, h]

end

/-- What holds of no entries and is kept by the entry of a count holds of all entries. -/
theorem entries_induction {c : ReasonCounts} {P : List (String × Value) → Prop} (nil : P [])
    (cons : ∀ r n rest, c.get? r = some n → P rest → P ((r.name, .ofNat n) :: rest))
    (reasons : List Rejection) : P (c.entries reasons) := by
  induction reasons with
  | nil => exact nil
  | cons r rest ih =>
    cases hn : c.get? r with
    | none =>
      rw [entries_cons_of_none rest hn]
      exact ih
    | some n =>
      rw [entries_cons_of_some rest hn]
      exact cons r n _ hn ih

theorem keys_entries_sublist (c : ReasonCounts) (reasons : List Rejection) :
    ((c.entries reasons).map Prod.fst).Sublist (reasons.map Rejection.name) := by
  induction reasons with
  | nil => exact .slnil
  | cons r rest ih =>
    cases hn : c.get? r with
    | none =>
      rw [entries_cons_of_none rest hn]
      exact ih.cons _
    | some n =>
      rw [entries_cons_of_some rest hn]
      exact ih.cons_cons _

/-- The reasons are declared in the order of their names. -/
theorem ascending_toJson (c : ReasonCounts) : c.toJson.Ascending := by
  rw [toJson_eq]
  constructor
  · have hnames : (Rejection.all.map Rejection.name).Pairwise (· < ·) := by decide
    exact hnames.sublist (c.keys_entries_sublist Rejection.all)
  · exact entries_induction trivial (fun _ _ _ _ ih => ⟨trivial, ih⟩) Rejection.all

theorem sorted_toJson (c : ReasonCounts) : c.toJson.sorted = c.toJson :=
  Value.sorted_of_ascending c.ascending_toJson

/-- Reading entries adds them to what was read before. -/
theorem ofMembers_entries {c : ReasonCounts} (hc : c.FitsCounters) (reasons : List Rejection)
    (before : ReasonCounts) :
    ∃ after, ofMembers before (memberNodes (c.entries reasons)) = .ok after ∧
      ∀ reason, after.get? reason =
        if reason ∈ reasons then (c.get? reason).or (before.get? reason)
        else before.get? reason := by
  induction reasons generalizing before with
  | nil => exact ⟨before, rfl, by simp⟩
  | cons r rest ih =>
    cases hn : c.get? r with
    | none =>
      obtain ⟨after, hafter, hget⟩ := ih before
      rw [entries_cons_of_none rest hn]
      refine ⟨after, hafter, fun reason => ?_⟩
      rw [hget]
      by_cases h : reason = r
      · subst h
        simp [hn]
      · simp [h]
    | some n =>
      obtain ⟨after, hafter, hget⟩ := ih (before.set r n)
      have hcount := countOfNode_ofNat (hc r n hn)
      rw [entries_cons_of_some rest hn]
      refine ⟨after, ?_, fun reason => ?_⟩
      · rw [memberNodes, ofMembers]
        simp only [StringToken.value_ofString, liftText, Except.mapError, bind, Except.bind,
          Rejection.chooseVariant_name, hcount]
        exact hafter
      · rw [hget, get?_set]
        by_cases h : reason = r
        · subst h
          simp [hn]
        · simp [h]

theorem ofNode_toJson {c : ReasonCounts} (hc : c.FitsCounters) : ofNode c.toJson.node = .ok c := by
  obtain ⟨all, hall, hget⟩ := ofMembers_entries hc Rejection.all empty
  have hempty : ∀ reason, empty.get? reason = none := fun reason => by cases reason <;> rfl
  have heq : all = c := by
    refine ext_get? fun reason => ?_
    rw [hget, if_pos (Rejection.mem_all reason), hempty, Option.or_none]
  rw [toJson_eq, Value.node, ofNode, hall, heq]
  rfl

theorem whole_toJson (c : ReasonCounts) : c.toJson.node.Whole := by
  rw [toJson_eq]
  refine ⟨rfl, ?_⟩
  exact entries_induction (P := fun entries => WholeMembers (memberNodes entries)) trivial
    (fun _ _ _ _ ih => ⟨rfl, trivial, ih⟩) Rejection.all

theorem membersFitIn_entries {c : ReasonCounts} (hc : c.FitsCounters) (room : Nat)
    (reasons : List Rejection) : MembersFitIn room (c.entries reasons) := by
  refine entries_induction trivial (fun r n rest hn ih => ?_) reasons
  have hfits : n < 0x10000000000000000 := hc r n hn
  exact ⟨⟨by omega, by omega⟩, ih⟩

end ReasonCounts

namespace Summary

structure FitsCounters (s : Summary) : Prop where
  total : FitsCounter s.total
  accepted : FitsCounter s.accepted
  rejected : s.rejected.FitsCounters

theorem sorted_toJson (s : Summary) : s.toJson.sorted =
    .object [("accepted", .ofNat s.accepted), ("rejected", s.rejected.toJson),
      ("total", .ofNat s.total)] := by
  have h : s.toJson.sorted = .object [("accepted", .ofNat s.accepted),
    ("rejected", s.rejected.toJson.sorted), ("total", .ofNat s.total)] := rfl
  rw [h, s.rejected.sorted_toJson]

theorem whole_toJson (s : Summary) : s.toJson.node.Whole :=
  ⟨rfl, rfl, trivial, rfl, trivial, rfl, s.rejected.whole_toJson, trivial⟩

theorem ofNode_sorted_toJson {s : Summary} (h : s.FitsCounters) :
    ofNode s.toJson.sorted.node = .ok s := by
  have ha := once_none (countOfNode_ofNat h.accepted) "accepted" fun v =>
    Draft.mk none (some v) none
  have hr := once_none (ReasonCounts.ofNode_toJson h.rejected) "rejected" fun v =>
    Draft.mk none (some s.accepted) (some v)
  have ht := once_none (countOfNode_ofNat h.total) "total" fun v =>
    Draft.mk (some v) (some s.accepted) (some s.rejected)
  have hm : readMembers Draft.field .empty (memberNodes [("accepted", .ofNat s.accepted),
      ("rejected", s.rejected.toJson), ("total", .ofNat s.total)]) =
      .ok ⟨some s.total, some s.accepted, some s.rejected⟩ := by
    simp only [memberNodes]
    rw [readMembers_cons rfl ha, readMembers_cons rfl hr, readMembers_cons rfl ht]
    rfl
  rw [sorted_toJson, Value.node, ofNode, readObject, hm]
  rfl

theorem fitsIn_sorted_toJson {s : Summary} (h : s.FitsCounters) (room : Nat) :
    s.toJson.sorted.FitsIn (room + 2) := by
  have ht : s.total < 0x10000000000000000 := h.total
  have ha : s.accepted < 0x10000000000000000 := h.accepted
  have hr := ReasonCounts.membersFitIn_entries h.rejected room Rejection.all
  rw [sorted_toJson, ReasonCounts.toJson_eq]
  exact ⟨⟨by omega, by omega⟩, hr, ⟨by omega, by omega⟩, trivial⟩

/-- What counts verdicts has no number greater than theirs. -/
theorem fitsCounters_ofVerdicts {vs : List Verdict} (h : FitsCounter vs.length) :
    (ofVerdicts vs).FitsCounters where
  total := by rwa [total_ofVerdicts]
  accepted := by
    rw [accepted_ofVerdicts]
    exact Nat.lt_of_le_of_lt List.countP_le_length h
  rejected := by
    intro reason n hn
    have hcount := count_ofVerdicts vs reason
    rw [ReasonCounts.count, hn, Option.getD_some] at hcount
    rw [hcount]
    exact Nat.lt_of_le_of_lt List.count_le_length h

end Summary

end TokenLedger
