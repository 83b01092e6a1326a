import TokenLedger.Proofs.Ledger.History
import TokenLedger.Proofs.Proposal.Refused

/-! # Custody of a unit

A unit is issued to a first holder and handed on from one holder to the next, each time as the last
proposal put it out. It gets to the last holder unless a step meets an obstacle, where the way ends
with what was built before. On the way each proposal takes what the one before it put out, so that a
ledger which applies them holds the unit and nothing else, and nothing once it is redeemed.
-/
namespace TokenLedger

/-- The proposals that brought a unit as far as it got, in their order, and the fault of the step at
which it got stuck, if it did. -/
structure Custody where
  proposals : List Proposal
  fault? : Option Proposal.Fault
  deriving DecidableEq

namespace Custody

def unit? (c : Custody) : Option Record := c.proposals.getLast?.bind fun p => p.outputs.getLast?

section
variable (issuer : Party) (quantity : Quantity)

def propose (c : Custody) (holder : Party) : Except Proposal.Fault Proposal :=
  match c.unit? with
  | none => Proposal.issue issuer holder quantity
  | some unit => Proposal.transfer unit holder

def step (c : Custody) (holder : Party) : Custody :=
  match c.fault? with
  | some _ => c
  | none =>
    match c.propose issuer quantity holder with
    | .error fault => ⟨c.proposals, some fault⟩
    | .ok p => ⟨c.proposals ++ [p], none⟩

def through (holders : List Party) : Custody := holders.foldl (step issuer quantity) ⟨[], none⟩

/-- The proposals are accepted, each takes what the one before it put out, and all records that they
name are of one issuer and one quantity. A ledger that applies them holds `held` in the end. -/
structure Flow (ps : List Proposal) (held : List Record) : Prop where
  accepted : ∀ p ∈ ps, p.verdict = .accepted
  linked : ps.IsChain fun p next => p.outputs = next.inputs
  last : ∀ p ∈ ps.getLast?, p.outputs = held
  same : ∀ p ∈ ps, ∀ r ∈ p.inputs ++ p.outputs, r.issuer = issuer ∧ r.quantity = quantity
  unchanged : ∀ r ∈ held, r.issuer = issuer ∧ r.quantity = quantity
  replay : ps.foldlM Ledger.commit? 0 = some (held : Ledger)

/-- The unit has been with each of the holders and is with the last of them. -/
structure Carried (holders : List Party) (c : Custody) : Prop where
  unstuck : c.fault? = none
  length : c.proposals.length = holders.length
  holder : c.unit?.map Record.holder = holders.getLast?
  flow : Flow issuer quantity c.proposals c.unit?.toList

end

section
variable {issuer : Party} {quantity : Quantity} {holders : List Party} {holder : Party}
variable {c : Custody} {p : Proposal} {ps : List Proposal} {held : List Record}
variable {fault : Proposal.Fault}

theorem through_append (holders rest : List Party) :
    through issuer quantity (holders ++ rest) =
      rest.foldl (step issuer quantity) (through issuer quantity holders) :=
  List.foldl_append ..

theorem foldl_step_of_stuck (h : c.fault? = some fault) (rest : List Party) :
    rest.foldl (step issuer quantity) c = c := by
  induction rest with
  | nil => rfl
  | cons holder rest ih =>
    have hstep : c.step issuer quantity holder = c := by rw [step, h]
    rw [List.foldl_cons, hstep, ih]

theorem flow_nil : Flow issuer quantity [] [] :=
  ⟨by simp, .nil, by simp, by simp, by simp, rfl⟩

/-- One more accepted proposal, which takes what is held. -/
theorem Flow.concat (h : Flow issuer quantity ps held) (haccepted : p.verdict = .accepted)
    (hin : p.inputs = held) (hout : ∀ r ∈ p.outputs, r.issuer = issuer ∧ r.quantity = quantity) :
    Flow issuer quantity (ps ++ [p]) p.outputs where
  accepted := by
    intro q hq
    rcases List.mem_append.mp hq with hq | hq
    · exact h.accepted q hq
    · exact List.mem_singleton.mp hq ▸ haccepted
  linked := by
    rw [List.isChain_append]
    refine ⟨h.linked, .singleton p, fun q hq next hnext => ?_⟩
    obtain rfl : p = next := by simpa using hnext
    exact (h.last q hq).trans hin.symm
  last := by
    intro q hq
    obtain rfl : p = q := by simpa using hq
    rfl
  same := by
    intro q hq r hr
    rcases List.mem_append.mp hq with hq | hq
    · exact h.same q hq r hr
    · obtain rfl := List.mem_singleton.mp hq
      rcases List.mem_append.mp hr with hr | hr
      · exact h.unchanged r (hin ▸ hr)
      · exact hout r hr
  unchanged := hout
  replay := by
    have hcommit : Ledger.commit? held p = some p.outputs := by
      refine Ledger.commit?_eq_some_iff.mpr ⟨haccepted, 0, ?_, ?_⟩
      · rw [hin, zero_add]
      · rw [zero_add]
    rw [List.foldlM_append, h.replay]
    simpa using hcommit

/-- What is proposed takes the unit, if there is one, and puts it out with its next holder. -/
theorem propose_spec (h : Carried issuer quantity holders c)
    (hp : c.propose issuer quantity holder = .ok p) :
    p.verdict = .accepted ∧ p.inputs = c.unit?.toList ∧ ∃ new : Record, p.outputs = [new] ∧
      new.issuer = issuer ∧ new.holder = holder ∧ new.quantity = quantity := by
  unfold propose at hp
  cases hu : c.unit? with
  | none =>
    rw [hu] at hp
    have haccepted := (Proposal.Constructed.issue hp).verdict_eq_accepted
    obtain ⟨_, new, ⟨hi, hh, hq⟩, rfl⟩ := Proposal.issue_eq_ok_iff.mp hp
    exact ⟨haccepted, rfl, new, rfl, hi, hh, hq⟩
  | some unit =>
    rw [hu] at hp
    have haccepted := (Proposal.Constructed.transfer hp).verdict_eq_accepted
    obtain ⟨_, _, new, ⟨hi, hh, hq⟩, rfl⟩ := Proposal.transfer_eq_ok_iff.mp hp
    obtain ⟨hissuer, hquantity⟩ := h.flow.unchanged unit (by simp [hu])
    exact ⟨haccepted, rfl, new, rfl, hi.trans hissuer, hh, hq.trans hquantity⟩

theorem propose_eq_error_iff (h : Carried issuer quantity holders c) :
    c.propose issuer quantity holder = .error fault ↔
      Proposal.obstacle? issuer quantity holders.getLast? holder = some fault := by
  rw [← h.holder]
  unfold propose
  cases hu : c.unit? with
  | none => exact Proposal.issue_eq_error_iff
  | some unit =>
    obtain ⟨hissuer, hquantity⟩ := h.flow.unchanged unit (by simp [hu])
    rw [← hissuer, ← hquantity]
    exact Proposal.transfer_eq_error_iff

theorem carried_nil : Carried issuer quantity [] ⟨[], none⟩ :=
  ⟨rfl, rfl, rfl, flow_nil⟩

theorem Carried.concat (h : Carried issuer quantity holders c)
    (hp : c.propose issuer quantity holder = .ok p) :
    Carried issuer quantity (holders ++ [holder]) ⟨c.proposals ++ [p], none⟩ := by
  obtain ⟨haccepted, hin, new, hout, hi, hh, hq⟩ := propose_spec h hp
  have hunit : unit? ⟨c.proposals ++ [p], none⟩ = some new := by simp [unit?, hout]
  have hflow := h.flow.concat haccepted hin (by simp [hout, hi, hq])
  constructor
  · rfl
  · simp [h.length]
  · simp [hunit, hh]
  · rw [hunit, Option.toList_some, ← hout]
    exact hflow

/-- What one step does: the unit gets to the next holder, or an obstacle stops it. -/
theorem Carried.step (h : Carried issuer quantity holders c) (holder : Party) :
    (Proposal.obstacle? issuer quantity holders.getLast? holder = none ∧
      Carried issuer quantity (holders ++ [holder]) (c.step issuer quantity holder)) ∨
    ∃ fault, Proposal.obstacle? issuer quantity holders.getLast? holder = some fault ∧
      c.step issuer quantity holder = ⟨c.proposals, some fault⟩ := by
  cases hp : c.propose issuer quantity holder with
  | error fault =>
    right
    refine ⟨fault, (propose_eq_error_iff h).mp hp, ?_⟩
    rw [Custody.step, h.unstuck, hp]
  | ok p =>
    left
    constructor
    · rw [Option.eq_none_iff_forall_ne_some]
      intro fault hfault
      rw [(propose_eq_error_iff h).mpr hfault] at hp
      cases hp
    · rw [Custody.step, h.unstuck, hp]
      exact h.concat hp

/-- A unit that is not stuck has been everywhere. The induction is on the holders from the last one
back, as every step starts from what is there. -/
theorem carried_of_unstuck (holders : List Party)
    (h : (through issuer quantity holders).fault? = none) :
    Carried issuer quantity holders (through issuer quantity holders) := by
  induction holders using List.reverseRecOn with
  | nil => exact carried_nil
  | append_singleton holders holder ih =>
    rw [through_append] at h ⊢
    cases hf : (through issuer quantity holders).fault? with
    | some fault =>
      rw [foldl_step_of_stuck hf, hf] at h
      cases h
    | none =>
      rcases (ih hf).step holder with ⟨_, hcarried⟩ | ⟨fault, _, hstep⟩
      · exact hcarried
      · rw [List.foldl_cons, hstep] at h
        cases h

/-- One more holder: the unit was stuck before, or it gets there, or it gets stuck. -/
theorem through_concat_cases (issuer : Party) (quantity : Quantity) (holders : List Party)
    (holder : Party) :
    (∃ fault, (through issuer quantity holders).fault? = some fault ∧
      through issuer quantity (holders ++ [holder]) = through issuer quantity holders) ∨
    ((through issuer quantity holders).fault? = none ∧
      Proposal.obstacle? issuer quantity holders.getLast? holder = none ∧
      (through issuer quantity (holders ++ [holder])).fault? = none) ∨
    ∃ fault, (through issuer quantity holders).fault? = none ∧
      Proposal.obstacle? issuer quantity holders.getLast? holder = some fault ∧
      through issuer quantity (holders ++ [holder]) =
        ⟨(through issuer quantity holders).proposals, some fault⟩ := by
  rw [through_append]
  cases hf : (through issuer quantity holders).fault? with
  | some fault => exact .inl ⟨fault, rfl, foldl_step_of_stuck hf [holder]⟩
  | none =>
    right
    rcases (carried_of_unstuck holders hf).step holder with ⟨hnone, hnext⟩ | ⟨fault, hsome, hstep⟩
    · exact .inl ⟨rfl, hnone, hnext.unstuck⟩
    · exact .inr ⟨fault, rfl, hsome, hstep⟩

theorem unstuck_concat_iff :
    (through issuer quantity (holders ++ [holder])).fault? = none ↔
      (through issuer quantity holders).fault? = none ∧
        Proposal.obstacle? issuer quantity holders.getLast? holder = none := by
  rcases through_concat_cases issuer quantity holders holder with
    ⟨fault, hf, hsame⟩ | ⟨hf, hnone, hnext⟩ | ⟨fault, hf, hsome, hstop⟩
  · simp [hsame, hf]
  · simp [hnext, hf, hnone]
  · simp [hstop, hsome]

theorem unstuck_iff (holders : List Party) :
    (through issuer quantity holders).fault? = none ↔
      (holders ≠ [] → 0 < quantity ∧ issuer ≠ .absent) ∧ (∀ holder ∈ holders, holder ≠ .absent) ∧
        holders.IsChain (· ≠ ·) := by
  induction holders using List.reverseRecOn with
  | nil => simp [through]
  | append_singleton holders holder ih =>
    rw [unstuck_concat_iff, ih, Proposal.obstacle?_eq_none_iff, List.isChain_append,
      List.forall_mem_append, List.forall_mem_singleton]
    constructor
    · rintro ⟨⟨_, hpresent, hchain⟩, hq, hi, hholder, hlast⟩
      refine ⟨fun _ => ⟨hq, hi⟩, ⟨hpresent, hholder⟩, hchain, .singleton holder, ?_⟩
      rintro x hx y hy rfl
      obtain rfl : holder = x := by simpa using hy
      exact hlast hx
    · rintro ⟨hstart, ⟨hpresent, hholder⟩, hchain, _, hlast⟩
      obtain ⟨hq, hi⟩ := hstart (by simp)
      exact ⟨⟨fun _ => ⟨hq, hi⟩, hpresent, hchain⟩, hq, hi, hholder,
        fun h => hlast holder h holder rfl rfl⟩

/-- The way ends at the first obstacle, with what was built up to there. -/
theorem stuck_iff (holders : List Party) :
    (through issuer quantity holders).fault? = some fault ↔
      ∃ passed holder rest, holders = passed ++ holder :: rest ∧
        through issuer quantity passed = ⟨(through issuer quantity holders).proposals, none⟩ ∧
        Proposal.obstacle? issuer quantity passed.getLast? holder = some fault := by
  constructor
  · intro h
    induction holders using List.reverseRecOn with
    | nil => cases h
    | append_singleton holders holder ih =>
      rcases through_concat_cases issuer quantity holders holder with
        ⟨_, _, hsame⟩ | ⟨_, _, hnext⟩ | ⟨other, hf, hsome, hstop⟩
      · rw [hsame] at h ⊢
        obtain ⟨passed, stop, rest, rfl, hpassed, hobstacle⟩ := ih h
        exact ⟨passed, stop, rest ++ [holder], by simp, hpassed, hobstacle⟩
      · rw [hnext] at h
        cases h
      · rw [hstop] at h ⊢
        obtain rfl := Option.some.inj h
        exact ⟨holders, holder, [], rfl, by rw [← hf], hsome⟩
  · rintro ⟨passed, holder, rest, rfl, hpassed, hobstacle⟩
    have hunstuck : (through issuer quantity passed).fault? = none := by rw [hpassed]
    rcases through_concat_cases issuer quantity passed holder with
      ⟨_, hf, _⟩ | ⟨_, hnone, _⟩ | ⟨other, _, hsome, hstop⟩
    · rw [hunstuck] at hf
      cases hf
    · rw [hobstacle] at hnone
      cases hnone
    · obtain rfl : other = fault := Option.some.inj (hsome.symm.trans hobstacle)
      rw [List.append_cons, through_append, hstop, foldl_step_of_stuck rfl]

theorem Carried.redeemed (h : Carried issuer quantity holders c) {unit : Record}
    (hu : c.unit? = some unit) :
    Flow issuer quantity (c.proposals ++ [Proposal.redeem unit]) [] := by
  have haccepted := (Proposal.Constructed.redeem unit).verdict_eq_accepted
  have hin : (Proposal.redeem unit).inputs = c.unit?.toList := by rw [hu]; rfl
  refine h.flow.concat haccepted hin fun r hr => ?_
  cases hr

end

end Custody

/-- A unit gets through the hands of all holders exactly if there is something to issue, everybody
exists and nobody hands it to themselves. Otherwise it stays where the first obstacle is, and what
was built before is kept. When it got to the end and is redeemed there, all of its proposals are
accepted, each takes what the one before it put out, issuer and quantity are the same throughout,
and a ledger which applies them is as empty in the end as it was before. -/
theorem custody_to_the_end (issuer first : Party) (quantity : Quantity) (holders : List Party) :
    let c := Custody.through issuer quantity (first :: holders)
    (c.fault? = none ↔ 0 < quantity ∧ issuer ≠ .absent ∧ first ≠ .absent ∧
      (∀ holder ∈ holders, holder ≠ .absent) ∧ (first :: holders).IsChain (· ≠ ·)) ∧
    (∀ fault, c.fault? = some fault ↔
      ∃ passed holder rest, first :: holders = passed ++ holder :: rest ∧
        Custody.through issuer quantity passed = ⟨c.proposals, none⟩ ∧
        Proposal.obstacle? issuer quantity passed.getLast? holder = some fault) ∧
    (c.fault? = none → ∃ unit, c.unit? = some unit ∧ c.proposals.length = holders.length + 1 ∧
      let ps := c.proposals ++ [Proposal.redeem unit]
      Batch.verdicts ps = List.replicate ps.length .accepted ∧
        ps.IsChain (fun p next => p.outputs = next.inputs) ∧
        (∀ p ∈ ps, ∀ r ∈ p.inputs ++ p.outputs, r.issuer = issuer ∧ r.quantity = quantity) ∧
        ps.foldlM Ledger.commit? 0 = some 0) := by
  intro c
  refine ⟨?complete, fun fault => Custody.stuck_iff (first :: holders), fun hunstuck => ?redeemed⟩
  case complete =>
    rw [Custody.unstuck_iff, List.forall_mem_cons]
    constructor
    · rintro ⟨hstart, ⟨hfirst, hholders⟩, hchain⟩
      obtain ⟨hq, hi⟩ := hstart (List.cons_ne_nil _ _)
      exact ⟨hq, hi, hfirst, hholders, hchain⟩
    · rintro ⟨hq, hi, hfirst, hholders, hchain⟩
      exact ⟨fun _ => ⟨hq, hi⟩, ⟨hfirst, hholders⟩, hchain⟩
  case redeemed =>
    have hcarried := Custody.carried_of_unstuck (first :: holders) hunstuck
    have hsome : c.unit? ≠ none := by
      intro hnone
      have hholder : c.unit?.map Record.holder = (first :: holders).getLast? := hcarried.holder
      rw [hnone, Option.map_none] at hholder
      exact List.cons_ne_nil _ _ (List.getLast?_eq_none_iff.mp hholder.symm)
    obtain ⟨unit, hu⟩ := Option.ne_none_iff_exists'.mp hsome
    have hflow := hcarried.redeemed hu
    exact ⟨unit, hu, hcarried.length, Batch.verdicts_eq_replicate hflow.accepted, hflow.linked,
      hflow.same, hflow.replay⟩

/-- The issuer keeps a unit at first and has it once more later. A holder who hands it to itself
keeps it. -/
theorem custody_to_the_end_return :
    let c := Custody.through (.ofByte 95) 5 [.ofByte 95, .ofByte 96, .ofByte 95, .ofByte 97]
    let d := Custody.through (.ofByte 95) 5 [.ofByte 95, .ofByte 96, .ofByte 96, .absent]
    c.fault? = none ∧
      (∃ unit, c.unit? = some unit ∧ c.proposals.length = 4 ∧
        (c.proposals ++ [Proposal.redeem unit]).foldlM Ledger.commit? 0 = some 0) ∧
      d.fault? = some .sameHolder ∧
      ∃ passed holder rest,
        [Party.ofByte 95, .ofByte 96, .ofByte 96, .absent] = passed ++ holder :: rest ∧
          Custody.through (.ofByte 95) 5 passed = ⟨d.proposals, none⟩ := by
  intro c d
  obtain ⟨hcomplete, _, hredeemed⟩ :=
    custody_to_the_end (.ofByte 95) (.ofByte 95) 5 [.ofByte 96, .ofByte 95, .ofByte 97]
  obtain ⟨_, hstuck, _⟩ :=
    custody_to_the_end (.ofByte 95) (.ofByte 95) 5 [.ofByte 96, .ofByte 96, .absent]
  have hc : c.fault? = none := hcomplete.mpr (by decide)
  have hd : d.fault? = some .sameHolder := by decide +kernel
  obtain ⟨unit, hu, hlength, _, _, _, hreplay⟩ := hredeemed hc
  obtain ⟨passed, holder, rest, hsplit, hpassed, _⟩ := (hstuck _).mp hd
  exact ⟨hc, ⟨unit, hu, hlength, hreplay⟩, hd, passed, holder, rest, hsplit, hpassed⟩

end TokenLedger
