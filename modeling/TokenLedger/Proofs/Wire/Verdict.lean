import TokenLedger.Proofs.Wire.OrderFree
import TokenLedger.Proofs.Wire.Reason

/-! # The grammar of verdicts

Which trees spell a verdict: objects with a status and, of a rejection, a reason, in any order and
among any other members, or arrays of the two. The whole of an object is taken into memory before
its status is looked at, so all of it must be within the limits.
-/
namespace TokenLedger

open Json

namespace Verdict

def Status.name : Status → String
  | .accepted => "accepted"
  | .rejected => "rejected"

theorem Status.name_injective {s t : Status} (h : s.name = t.name) : s = t := by
  revert h
  cases s <;> cases t <;> simp [name]

theorem Status.ofNode_eq_ok_iff {n : Node} {s : Status} :
    ofNode n = .ok s ↔ n.IsString s.name := by
  have hmem : s ∈ [accepted, rejected] := by cases s <;> simp
  have hchoose : ∀ name, chooseVariant [("accepted", accepted), ("rejected", .rejected)] name =
      .ok s ↔ s.name = name := fun _ => chooseVariant_map_eq_ok_iff name_injective hmem
  rw [ofNode, bind_eq_ok_iff]
  simp only [Node.readString_eq_ok_iff, hchoose, exists_eq_right']

section
variable {room : Nat} {members : List (StringToken × Node)} {others : List (String × Value)}

/-- One member is the status, and all others are taken into memory. -/
theorem splitMembers_eq_ok_iff {status final : Option Status} :
    splitMembers room status members = .ok (final, others) ↔
      Named members ∧ Fills (Status.ofNode · = .ok ·) status (valuesOf "status" members) final ∧
        List.Forall₂ (ReadInto room) (members.filter fun m => m.1.value ≠ .ok "status") others := by
  induction members generalizing status final others with
  | nil =>
    have hnamed : Named [] := List.forall_mem_nil _
    have hvalues : valuesOf "status" [] = [] := rfl
    simp [splitMembers, hnamed, hvalues, Fills.nil_iff, eq_comm]
  | cons m rest ih =>
    obtain ⟨key, n⟩ := m
    unfold splitMembers
    rw [named_cons_iff, bind_eq_ok_iff]
    simp only [liftText, mapError_eq_ok_iff]
    by_cases hkey : ∃ name, key.value = .ok name
    · rw [and_iff_right hkey]
      obtain ⟨name, hkey⟩ := hkey
      simp only [hkey, Except.ok.injEq, exists_eq_left']
      by_cases hname : name = "status"
      · subst hname
        rw [if_pos rfl, valuesOf_cons_self hkey, List.filter_cons_of_neg (by simpa using hkey),
          Fills.cons_iff]
        cases status with
        | some _ => simp [refuse]
        | none =>
          simp only [bind_eq_ok_iff, ih, true_and]
          constructor
          · rintro ⟨s, hs, hnamed, hfills, hothers⟩
            exact ⟨hnamed, ⟨s, hs, hfills⟩, hothers⟩
          · rintro ⟨hnamed, ⟨s, hs, hfills⟩, hothers⟩
            exact ⟨s, hs, hnamed, hfills, hothers⟩
      · rw [if_neg hname, valuesOf_cons_of_ne hkey hname,
          List.filter_cons_of_pos (by simpa [hkey] using hname), List.forall₂_cons_left_iff]
        simp only [bind_eq_ok_iff, Prod.exists, ih, Except.ok.injEq, Prod.mk.injEq, ReadInto]
        constructor
        · rintro ⟨v, hv, _, _, ⟨hnamed, hfills, hothers⟩, rfl, rfl⟩
          exact ⟨hnamed, hfills, name, v, _, ⟨hkey, hv⟩, hothers, rfl⟩
        · rintro ⟨hnamed, hfills, _, v, _, ⟨hkey', hv⟩, hothers, rfl⟩
          obtain rfl := Except.ok.inj (hkey.symm.trans hkey')
          exact ⟨v, hv, _, _, ⟨hnamed, hfills, hothers⟩, rfl, rfl⟩
    · refine iff_of_false ?_ fun h => hkey h.1.1
      rintro ⟨name, h, _⟩
      exact hkey ⟨name, h⟩

theorem findReason_eq_ok_iff {found : Option Rejection} {r : Rejection} :
    findReason found others = .ok r ↔
      Fills (Rejection.ofValue · = .ok ·) found
        ((others.filter fun o => o.1 = "reason").map Prod.snd) (some r) := by
  induction others generalizing found with
  | nil => rw [findReason, required_eq_ok_iff, List.filter_nil, List.map_nil, Fills.nil_iff]
  | cons o rest ih =>
    obtain ⟨name, v⟩ := o
    unfold findReason
    by_cases hname : name = "reason"
    · rw [if_pos hname, List.filter_cons_of_pos (by simpa using hname), List.map_cons,
        Fills.cons_iff]
      cases found with
      | none => simp [bind_eq_ok_iff, ih]
      | some _ => simp [refuse]
    · rw [if_neg hname, List.filter_cons_of_neg (by simpa using hname)]
      exact ih

/-- The members within the limits are the ones that can be split, if one of them is the status. -/
theorem exists_splitMembers_iff (hw : WholeMembers members) (s : Status) :
    (∃ others, splitMembers room none members = .ok (some s, others)) ↔
      MemberTreesFitIn room members ∧ OccursOnce "status" (·.IsString s.name) members := by
  have hstatus : OccursOnce "status" (·.IsString s.name) members ↔
      Fills (Status.ofNode · = .ok ·) none (valuesOf "status" members) (some s) :=
    occursOnce_iff_fills hw fun _ _ => Status.ofNode_eq_ok_iff
  simp only [splitMembers_eq_ok_iff, exists_and_left,
    exists_readMemberValues_iff _ room (wholeMembers_filter hw), ← hstatus]
  rw [memberTreesFitIn_iff, memberTreesFitIn_iff]
  constructor
  · rintro ⟨hnamed, ⟨n, hn, htext⟩, hothers⟩
    refine ⟨fun m hm => ⟨hnamed m hm, ?_⟩, n, hn, htext⟩
    by_cases hkey : m.1.value = .ok "status"
    · have hmem : m.2 ∈ valuesOf "status" members := mem_valuesOf_iff.mpr ⟨m.1, hm, hkey⟩
      rw [hn, List.mem_singleton] at hmem
      rw [hmem]
      exact htext.fitsIn
    · exact (hothers m (List.mem_filter.mpr ⟨hm, by simpa using hkey⟩)).2
  · rintro ⟨hfits, honce⟩
    exact ⟨fun m hm => (hfits m hm).1, honce, fun m hm => hfits m (List.mem_of_mem_filter hm)⟩

/-- The reason is found in memory if one member of the object gives it. -/
theorem findReason_splitMembers_iff (hw : WholeMembers members) {final : Option Status}
    (h : splitMembers room none members = .ok (final, others)) {r : Rejection} :
    findReason none others = .ok r ↔ OccursOnce "reason" r.GivenBy members := by
  obtain ⟨_, _, hothers⟩ := splitMembers_eq_ok_iff.mp h
  have hvalues := forall₂_valuesOf hothers "reason"
  rw [valuesOf_filter_ne (by decide)] at hvalues
  have hwhole : ∀ n ∈ valuesOf "reason" members, n.Whole := fun n hn => whole_of_mem_valuesOf hw hn
  rw [findReason_eq_ok_iff, Fills.none_some_iff, OccursOnce]
  generalize valuesOf "reason" members = ns at hvalues hwhole
  generalize (others.filter fun o => o.1 = "reason").map Prod.snd = vs at hvalues
  constructor
  · rintro ⟨v, rfl, hv⟩
    obtain ⟨n, _, hn, hrest, rfl⟩ := List.forall₂_cons_right_iff.mp hvalues
    cases hrest
    exact ⟨n, rfl, (Rejection.ofValue_eq_ok_iff (hwhole n List.mem_cons_self) hn).mp hv⟩
  · rintro ⟨n, rfl, hn⟩
    obtain ⟨v, _, hv, hrest, rfl⟩ := List.forall₂_cons_left_iff.mp hvalues
    cases hrest
    exact ⟨v, rfl, (Rejection.ofValue_eq_ok_iff (hwhole n List.mem_cons_self) hv).mpr hn⟩

end

/-- A verdict is spelled by an object in which its status and, of a rejection, its reason have one
member each, or by an array of these. -/
inductive SpelledBy : Verdict → Node → Prop
  | accepted {members : List (StringToken × Node)}
    (status : OccursOnce "status" (·.IsString "accepted") members) :
    SpelledBy .accepted (.object members .closed)
  | rejected {members : List (StringToken × Node)} {r : Rejection}
    (status : OccursOnce "status" (·.IsString "rejected") members)
    (reason : OccursOnce "reason" r.GivenBy members) :
    SpelledBy (.rejected r) (.object members .closed)
  | acceptedRow {s : Node} (status : s.IsString "accepted") :
    SpelledBy .accepted (.array [s] .closed)
  | rejectedRow {s n : Node} {r : Rejection} (status : s.IsString "rejected")
    (reason : r.GivenBy n) : SpelledBy (.rejected r) (.array [s, n] .closed)

theorem ofNode_object_eq_ok_iff {members : List (StringToken × Node)} (hw : WholeMembers members)
    {v : Verdict} :
    ofNode (.object members .closed) = .ok v ↔
      MemberTreesFitIn (depthLimit - 1) members ∧ v.SpelledBy (.object members .closed) := by
  have hread : ofNode (.object members .closed) = .ok v ↔ ∃ s others,
      splitMembers (depthLimit - 1) none members = .ok (some s, others) ∧
        ofMembers s others = .ok v := by
    simp only [ofNode, bind_eq_ok_iff, Prod.exists, required_eq_ok_iff, require,
      Ending.memberFault?]
    constructor
    · rintro ⟨_, others, hsplit, _, _, s, rfl, h⟩
      exact ⟨s, others, hsplit, h⟩
    · rintro ⟨s, others, hsplit, h⟩
      exact ⟨_, others, hsplit, (), trivial, s, rfl, h⟩
  rw [hread]
  constructor
  · rintro ⟨s, others, hsplit, h⟩
    obtain ⟨hfits, hstatus⟩ := (exists_splitMembers_iff hw s).mp ⟨others, hsplit⟩
    cases s with
    | accepted =>
      obtain rfl := Except.ok.inj h
      exact ⟨hfits, .accepted hstatus⟩
    | rejected =>
      obtain ⟨r, hr, rfl⟩ := map_eq_ok_iff.mp h
      exact ⟨hfits, .rejected hstatus ((findReason_splitMembers_iff hw hsplit).mp hr)⟩
  · rintro ⟨hfits, hv⟩
    cases hv with
    | accepted hstatus =>
      obtain ⟨others, hsplit⟩ := (exists_splitMembers_iff hw .accepted).mpr ⟨hfits, hstatus⟩
      exact ⟨.accepted, others, hsplit, rfl⟩
    | rejected hstatus hreason =>
      obtain ⟨others, hsplit⟩ := (exists_splitMembers_iff hw .rejected).mpr ⟨hfits, hstatus⟩
      have hr := (findReason_splitMembers_iff hw hsplit).mpr hreason
      exact ⟨.rejected, others, hsplit, map_eq_ok_iff.mpr ⟨_, hr, rfl⟩⟩

theorem ofItems_accepted_eq_ok_iff {values : List Value} {v : Verdict} :
    ofItems .accepted values = .ok v ↔ values = [] ∧ v = .accepted := by
  cases values <;> simp [ofItems, refuse, eq_comm]

theorem ofItems_rejected_eq_ok_iff {values : List Value} {v : Verdict} :
    ofItems .rejected values = .ok v ↔
      ∃ w r, values = [w] ∧ Rejection.ofValue w = .ok r ∧ v = .rejected r := by
  match values with
  | [] => simp [ofItems, refuse]
  | [w] =>
    simp only [ofItems, bind_eq_ok_iff, Except.ok.injEq, List.cons.injEq, and_true]
    constructor
    · rintro ⟨r, hr, rfl⟩
      exact ⟨w, r, rfl, hr, rfl⟩
    · rintro ⟨_, r, rfl, hr, rfl⟩
      exact ⟨r, hr, rfl⟩
  | w :: w' :: rest => simp [ofItems, bind_eq_ok_iff, refuse]

theorem ofNode_array_eq_ok_iff {items : List Node} (hw : WholeItems items) {v : Verdict} :
    ofNode (.array items .closed) = .ok v ↔
      ItemTreesFitIn (depthLimit - 1) items ∧ v.SpelledBy (.array items .closed) := by
  cases items with
  | nil =>
    refine iff_of_false (fun h => ?_) ?_
    · cases h
    · rintro ⟨_, h⟩
      cases h
  | cons n rest =>
    have hread : ofNode (.array (n :: rest) .closed) = .ok v ↔ ∃ s, n.IsString s.name ∧
        ∃ values, List.Forall₂ (fun n v => n.readValue (depthLimit - 1) = .ok v) rest values ∧
          ofItems s values = .ok v := by
      simp only [← Status.ofNode_eq_ok_iff, ← readValues_eq_ok_iff, ← bind_eq_ok_iff]
      rfl
    rw [hread, ItemTreesFitIn, ← exists_readValues_iff rest _ hw.2]
    constructor
    · rintro ⟨s, hs, values, hvalues, h⟩
      refine ⟨⟨hs.fitsIn, values, hvalues⟩, ?_⟩
      cases s with
      | accepted =>
        obtain ⟨rfl, rfl⟩ := ofItems_accepted_eq_ok_iff.mp h
        cases hvalues
        exact .acceptedRow hs
      | rejected =>
        obtain ⟨w, r, rfl, hr, rfl⟩ := ofItems_rejected_eq_ok_iff.mp h
        obtain ⟨m, _, hm, hrest, rfl⟩ := List.forall₂_cons_right_iff.mp hvalues
        cases hrest
        exact .rejectedRow hs ((Rejection.ofValue_eq_ok_iff hw.2.1 hm).mp hr)
    · rintro ⟨⟨_, values, hvalues⟩, hv⟩
      cases hv with
      | acceptedRow hs =>
        cases hvalues
        exact ⟨.accepted, hs, [], .nil, rfl⟩
      | rejectedRow hs hreason =>
        obtain ⟨w, _, hm, hrest, rfl⟩ := List.forall₂_cons_left_iff.mp hvalues
        cases hrest
        have hr := (Rejection.ofValue_eq_ok_iff hw.2.1 hm).mpr hreason
        exact ⟨.rejected, hs, [w], hvalues, ofItems_rejected_eq_ok_iff.mpr ⟨w, _, rfl, hr, rfl⟩⟩

/-- A verdict is read from the trees within the limits that spell it, and from no others. -/
theorem ofNode_eq_ok_iff_spelledBy {n : Node} (hw : n.Whole) {v : Verdict} :
    ofNode n = .ok v ↔ n.FitsIn depthLimit ∧ v.SpelledBy n := by
  cases n with
  | object members ending =>
    obtain ⟨rfl, hmembers⟩ := hw
    exact ofNode_object_eq_ok_iff hmembers
  | array items ending =>
    obtain ⟨rfl, hitems⟩ := hw
    exact ofNode_array_eq_ok_iff hitems
  | _ =>
    unfold ofNode
    refine iff_of_false (Node.refuse_ne_ok _ _ _) ?_
    rintro ⟨_, h⟩
    cases h

section
variable {members members' : List (StringToken × Node)} {v : Verdict} {n : Node} {text : String}

theorem fitsIn_perm {room : Nat} (h : members.Perm members') :
    (Node.object members .closed).FitsIn (room + 1) ↔
      (Node.object members' .closed).FitsIn (room + 1) := by
  rw [Node.FitsIn, Node.FitsIn, memberTreesFitIn_iff, memberTreesFitIn_iff]
  exact forall_congr' fun m => by rw [h.mem_iff]

/-- Only the statuses and the reasons count. -/
theorem spelledBy_of_values
    (hstatus : (valuesOf "status" members).Perm (valuesOf "status" members'))
    (hreason : (valuesOf "reason" members).Perm (valuesOf "reason" members')) :
    v.SpelledBy (.object members .closed) ↔ v.SpelledBy (.object members' .closed) := by
  have key : ∀ {ms ms' : List (StringToken × Node)},
      (valuesOf "status" ms).Perm (valuesOf "status" ms') →
      (valuesOf "reason" ms).Perm (valuesOf "reason" ms') →
      v.SpelledBy (.object ms .closed) → v.SpelledBy (.object ms' .closed) := by
    rintro ms ms' hs hr (h | ⟨h, h'⟩)
    · exact .accepted ((occursOnce_perm hs).mp h)
    · exact .rejected ((occursOnce_perm hs).mp h) ((occursOnce_perm hr).mp h')
  exact ⟨key hstatus hreason, key hstatus.symm hreason.symm⟩

theorem ofJson_eq_ok_iff (ht : n.WrittenAs text) :
    ofJson text = .ok v ↔ n.FitsIn depthLimit ∧ v.SpelledBy n := by
  rw [ofJson, ht.readText_eq]
  exact ofNode_eq_ok_iff_spelledBy ht.1

theorem spelledBy_toJson (v : Verdict) : v.SpelledBy v.toJson.node := by
  cases v with
  | accepted => exact .accepted ⟨_, rfl, _, rfl, StringToken.value_ofString _⟩
  | rejected r =>
    exact .rejected ⟨_, rfl, _, rfl, StringToken.value_ofString _⟩
      ⟨_, rfl, .alone (.name ⟨_, rfl, StringToken.value_ofString _⟩)⟩

theorem fitsIn_toJson (v : Verdict) : v.toJson.FitsIn depthLimit := by
  cases v with
  | accepted => exact ⟨trivial, trivial⟩
  | rejected r => exact ⟨trivial, trivial, trivial⟩

end

/-- Verdicts are read from the texts within the limits that spell them, and from no others: without
a single status that is known, or a single reason of a rejection, there is none. The order of the
members makes no difference, nor do members other than the status and the reason. An array of status
and reason is read as well, and so is what is written of a verdict. -/
theorem verdict_grammar_exact :
    (∀ (n : Node) (text : String), n.WrittenAs text →
      (∀ v, ofJson text = .ok v ↔ n.FitsIn depthLimit ∧ v.SpelledBy n) ∧
        ∀ r, Rejection.ofJson text = .ok r ↔ r.SpelledBy n) ∧
    (∀ (members : List (StringToken × Node)) (text : String),
      (Node.object members .closed).WrittenAs text →
      ((∀ s : Status, ¬ OccursOnce "status" (·.IsString s.name) members) →
        ∀ v, ofJson text ≠ .ok v) ∧
      (OccursOnce "status" (·.IsString "rejected") members →
        (valuesOf "reason" members).length ≠ 1 → ∀ v, ofJson text ≠ .ok v)) ∧
    (∀ (members members' : List (StringToken × Node)) (text text' : String),
      (Node.object members .closed).WrittenAs text →
      (Node.object members' .closed).WrittenAs text' →
      (members.Perm members' → ReadAlike ofJson text text') ∧
      ((Node.object members .closed).FitsIn depthLimit →
        (Node.object members' .closed).FitsIn depthLimit →
        (valuesOf "status" members).Perm (valuesOf "status" members') →
        (valuesOf "reason" members).Perm (valuesOf "reason" members') →
        ReadAlike ofJson text text')) ∧
    (∀ (s : Node) (text : String), (Node.array [s] .closed).WrittenAs text →
      s.IsString "accepted" → ofJson text = .ok .accepted) ∧
    (∀ (s n : Node) (r : Rejection) (text : String), (Node.array [s, n] .closed).WrittenAs text →
      s.IsString "rejected" → r.GivenBy n → ofJson text = .ok (.rejected r)) ∧
    ∀ v : Verdict, ofJson v.toJson.compact = .ok v := by
  refine ⟨fun n text ht => ⟨fun v => ofJson_eq_ok_iff ht, fun r => ?_⟩, ?_, ?_, ?_, ?_, ?_⟩
  · rw [Rejection.ofJson, ht.readText_eq]
    exact Rejection.ofNode_eq_ok_iff_spelledBy ht.1
  · intro members text ht
    refine ⟨fun hnone v hv => ?_, fun hstatus hcount v hv => ?_⟩
    · rcases ((ofJson_eq_ok_iff ht).mp hv).2 with h | ⟨h, _⟩
      · exact hnone .accepted h
      · exact hnone .rejected h
    · rcases ((ofJson_eq_ok_iff ht).mp hv).2 with ⟨n, hn, haccepted⟩ | ⟨_, _, hreason, _⟩
      · obtain ⟨m, hm, hrejected⟩ := hstatus
        obtain rfl : m = n := List.singleton_inj.mp (hm.symm.trans hn)
        exact absurd (haccepted.unique hrejected) (by decide)
      · exact hcount (by rw [hreason]; rfl)
  · intro members members' text text' ht ht'
    refine ⟨fun hperm => ?_, fun hfits hfits' hstatus hreason => ?_⟩
    · refine readAlike_of_writtenAs ht ht' fun v => ?_
      rw [ofNode_eq_ok_iff_spelledBy ht.1, ofNode_eq_ok_iff_spelledBy ht'.1,
        spelledBy_of_values (valuesOf_perm hperm) (valuesOf_perm hperm)]
      exact and_congr_left fun _ => fitsIn_perm hperm
    · refine readAlike_of_writtenAs ht ht' fun v => ?_
      rw [ofNode_eq_ok_iff_spelledBy ht.1, ofNode_eq_ok_iff_spelledBy ht'.1,
        spelledBy_of_values hstatus hreason]
      exact and_congr_left fun _ => iff_of_true hfits hfits'
  · intro s text ht hs
    exact (ofJson_eq_ok_iff ht).mpr ⟨⟨hs.fitsIn, trivial⟩, .acceptedRow hs⟩
  · intro s n r text ht hs hr
    have hfits : (Node.array [s, n] .closed).FitsIn depthLimit :=
      ⟨hs.fitsIn, hr.fitsIn, trivial⟩
    exact (ofJson_eq_ok_iff ht).mpr ⟨hfits, .rejectedRow hs hr⟩
  · intro v
    have ht := Value.writtenAs_compact v.whole_toJson
    exact (ofJson_eq_ok_iff ht).mpr ⟨v.fitsIn_toJson.node, v.spelledBy_toJson⟩

def turned : Value :=
  .object [("reason", .string "MoveMalformed"), ("note", .array [.null]),
    ("status", .string "rejected")]

def twiceReasoned : Value :=
  .object [("status", .string "rejected"), ("reason", .string "MoveMalformed"),
    ("reason", .string "MoveMalformed")]

def turnedRow : Value := .array [.string "rejected", .string "MoveMalformed"]

theorem fitsIn_turned : turned.FitsIn depthLimit := ⟨trivial, ⟨trivial, trivial⟩, trivial, trivial⟩

theorem fitsIn_twiceReasoned : twiceReasoned.FitsIn depthLimit :=
  ⟨trivial, trivial, trivial, trivial⟩

theorem fitsIn_turnedRow : turnedRow.FitsIn depthLimit := ⟨trivial, trivial, trivial⟩

/-- In front of the status or behind it, the reason of a rejection is the same, and with another one
there is no verdict. -/
theorem verdict_grammar_exact_turned :
    ofJson turned.compact = .ok (.rejected .moveMalformed) ∧
      ReadAlike ofJson turned.compact (rejected .moveMalformed).toJson.compact ∧
      (∀ v, ofJson twiceReasoned.compact ≠ .ok v) ∧
      ofJson turnedRow.compact = .ok (.rejected .moveMalformed) := by
  obtain ⟨hread, hcount, horder, _, hrow, _⟩ := verdict_grammar_exact
  have ht := Value.writtenAs_compact fitsIn_turned.whole
  have hj := Value.writtenAs_compact (whole_toJson (rejected .moveMalformed))
  have htwice := Value.writtenAs_compact fitsIn_twiceReasoned.whole
  have hstatus : (Value.string "rejected").node.IsString "rejected" :=
    ⟨_, rfl, StringToken.value_ofString _⟩
  have hreason : Rejection.moveMalformed.GivenBy (Value.string "MoveMalformed").node :=
    .alone (.name ⟨_, rfl, StringToken.value_ofString _⟩)
  refine ⟨?_, ?_, (hcount _ _ htwice).2 ⟨_, rfl, hstatus⟩ (by decide), ?_⟩
  · exact ((hread _ _ ht).1 _).mpr
      ⟨fitsIn_turned.node, .rejected ⟨_, rfl, hstatus⟩ ⟨_, rfl, hreason⟩⟩
  · refine (horder _ _ _ _ ht hj).2 fitsIn_turned.node
      (fitsIn_toJson (rejected .moveMalformed)).node ?_ ?_
    · rw [valuesOf_memberNodes, valuesOf_memberNodes]
      exact .refl _
    · rw [valuesOf_memberNodes, valuesOf_memberNodes]
      exact .refl _
  · exact hrow _ _ _ _ (Value.writtenAs_compact fitsIn_turnedRow.whole) hstatus hreason

def hollowReason : Value := .object [("IssueMalformed", .object [])]

def hollow : Value := .object [("status", .string "rejected"), ("reason", hollowReason)]

theorem fitsIn_hollowReason : hollowReason.FitsIn depthLimit := ⟨trivial, trivial⟩

theorem fitsIn_hollow : hollow.FitsIn depthLimit := ⟨trivial, ⟨trivial, trivial⟩, trivial⟩

/-- A rejection is read although its reason is none on its own, where null has to stand behind the
name. -/
theorem hollow_reason_read :
    hollow.node.WrittenAs hollow.compact ∧ hollow.node.FitsIn depthLimit ∧
      hollow.node = .object (memberNodes [("status", .string "rejected"),
        ("reason", hollowReason)]) .closed ∧
      ofJson hollow.compact = .ok (.rejected .issueMalformed) ∧
      ∀ r, Rejection.ofJson hollowReason.compact ≠ .ok r := by
  have ht := Value.writtenAs_compact fitsIn_hollow.whole
  have hr := Value.writtenAs_compact fitsIn_hollowReason.whole
  refine ⟨ht, fitsIn_hollow.node, rfl, ?_, fun r h => ?_⟩
  · refine (ofJson_eq_ok_iff ht).mpr ⟨fitsIn_hollow.node, .rejected ⟨_, rfl, ?_⟩ ⟨_, rfl, ?_⟩⟩
    · exact ⟨_, rfl, StringToken.value_ofString _⟩
    · exact .hollow (StringToken.value_ofString _)
  · rw [Rejection.ofJson, hr.readText_eq, Rejection.ofNode_eq_ok_iff_spelledBy hr.1] at h
    obtain ⟨_, hm, _⟩ := Rejection.spelledBy_object_iff.mp h
    simp [memberNodes, Value.node] at hm

end Verdict

end TokenLedger
