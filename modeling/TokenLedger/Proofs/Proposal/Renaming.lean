import Mathlib.Data.Set.Finite.List
import Mathlib.Logic.Equiv.Basic
import TokenLedger.Proofs.Judgement.Signers

/-! # Renaming

Nobody looks into a handle, and of quantities only their signs and equality count. So whoever puts
other parties and other quantities in the place of those that there are, without merging two of them
and without touching the absent party and the signs, changes neither a judgement nor what the
constructors do.
-/
namespace TokenLedger

/-- Other names for parties and other numbers for quantities. Nobody but the absent party becomes
absent, and exactly the positive quantities become positive. -/
structure Renaming where
  party : Party → Party
  quantity : Quantity → Quantity
  party_injective : Function.Injective party
  absent_of_party : ∀ x, party x = .absent → x = .absent
  quantity_injective : Function.Injective quantity
  quantity_positive : ∀ q, 0 < quantity q ↔ 0 < q

instance : Finite Party := by
  have hbyte : Finite UInt8 := Finite.of_injective UInt8.toFin fun _ _ h => UInt8.toFin_inj.mp h
  have hlists : Finite {l : List UInt8 // l.length = 32} :=
    (List.finite_length_eq UInt8 32).to_subtype
  refine Finite.of_injective (fun p : Party => (⟨p.bytes, p.size⟩ : {l // l.length = 32})) ?_
  intro p q h
  exact Party.ext_bytes (congrArg Subtype.val h)

namespace Renaming
variable (ρ : Renaming)

@[simp] theorem party_inj {x y : Party} : ρ.party x = ρ.party y ↔ x = y := ρ.party_injective.eq_iff

@[simp] theorem quantity_inj {q r : Quantity} : ρ.quantity q = ρ.quantity r ↔ q = r :=
  ρ.quantity_injective.eq_iff

/-- There are finitely many handles, so that one of them becomes absent. It can only be the absent
one. -/
theorem party_absent : ρ.party .absent = .absent := by
  have hsurjective := Finite.surjective_of_injective ρ.party_injective
  obtain ⟨x, hx⟩ := hsurjective .absent
  obtain rfl := ρ.absent_of_party x hx
  exact hx

@[simp] theorem party_eq_absent_iff {x : Party} : ρ.party x = .absent ↔ x = .absent := by
  constructor
  · exact ρ.absent_of_party x
  · rintro rfl
    exact ρ.party_absent

@[simp] theorem quantity_nonpositive_iff {q : Quantity} : ρ.quantity q ≤ 0 ↔ q ≤ 0 := by
  rw [← Int64.not_lt, ← Int64.not_lt, ρ.quantity_positive]

def record (r : Record) : Record where
  issuer := ρ.party r.issuer
  holder := ρ.party r.holder
  quantity := ρ.quantity r.quantity
  issuer_present := fun h => r.issuer_present (ρ.absent_of_party r.issuer h)
  holder_present := fun h => r.holder_present (ρ.absent_of_party r.holder h)

def signers (s : Signers) : Signers := .ofList (s.toList.map ρ.party)

def proposal (p : Proposal) : Proposal :=
  ⟨p.inputs.map ρ.record, p.outputs.map ρ.record, p.intent, ρ.signers p.signers⟩

def holding (h : Party × Quantity) : Party × Quantity := (ρ.party h.1, ρ.quantity h.2)

def fault : Proposal.Fault → Proposal.Fault
  | .nonPositive quantity => .nonPositive (ρ.quantity quantity)
  | .emptyBatch => .emptyBatch
  | .sameHolder => .sameHolder
  | .record fault => .record fault

/-- What a constructor gives under other names: the same kind of fault, or what it built renamed. -/
def result {α : Type} (rename : α → α) : Except Proposal.Fault α → Except Proposal.Fault α
  | .ok built => .ok (rename built)
  | .error fault => .error (ρ.fault fault)

@[simp] theorem issuer_record (r : Record) : (ρ.record r).issuer = ρ.party r.issuer := rfl

@[simp] theorem holder_record (r : Record) : (ρ.record r).holder = ρ.party r.holder := rfl

@[simp] theorem quantity_record (r : Record) : (ρ.record r).quantity = ρ.quantity r.quantity := rfl

theorem mem_signers {s : Signers} {x : Party} : x ∈ ρ.signers s ↔ ∃ y ∈ s, ρ.party y = x := by
  rw [signers, Signers.mem_ofList, List.mem_map]
  exact Iff.rfl

@[simp] theorem party_mem_signers {s : Signers} {x : Party} :
    ρ.party x ∈ ρ.signers s ↔ x ∈ s := by
  rw [mem_signers]
  constructor
  · rintro ⟨y, hy, hyx⟩
    exact ρ.party_injective hyx ▸ hy
  · intro hx
    exact ⟨x, hx, rfl⟩

theorem signers_ofList (parties : List Party) :
    ρ.signers (.ofList parties) = .ofList (parties.map ρ.party) := by
  apply Signers.ext_mem
  intro x
  simp only [mem_signers, Signers.mem_ofList, List.mem_map]

theorem proposal_assemble (inputs outputs : List Record) (i : Intent) (parties : List Party) :
    ρ.proposal (.assemble inputs outputs i parties) =
      .assemble (inputs.map ρ.record) (outputs.map ρ.record) i (parties.map ρ.party) := by
  simp only [proposal, Proposal.assemble, signers_ofList]

/-- Every rule says the same of the renamed records. -/
theorem holds_iff {i : Intent} {inputs outputs : List Record} {s : Signers} (rule : Rule) :
    rule.Holds i (inputs.map ρ.record) (outputs.map ρ.record) (ρ.signers s) ↔
      rule.Holds i inputs outputs s := by
  cases rule with
  | cardinality => simp only [Rule.Holds, Intent.Fits, List.length_map]
  | outputPositive =>
    simp only [Rule.Holds, List.forall_mem_map, quantity_record, ρ.quantity_positive]
  | issuerSigns =>
    simp only [Rule.Holds, ← List.map_append, List.forall_mem_map, issuer_record,
      party_mem_signers]
  | issuerPreserved => simp only [Rule.Holds, List.forall_mem_map, issuer_record, party_inj]
  | quantityPreserved => simp only [Rule.Holds, List.forall_mem_map, quantity_record, quantity_inj]
  | holderChanges => simp only [Rule.Holds, List.forall_mem_map, holder_record, ne_eq, party_inj]
  | currentHolderSigns =>
    simp only [Rule.Holds, List.forall_mem_map, holder_record, party_mem_signers]
  | holderSigns => simp only [Rule.Holds, List.forall_mem_map, holder_record, party_mem_signers]

theorem brokenRule?_eq (i : Intent) (inputs outputs : List Record) (s : Signers) :
    brokenRule? i (inputs.map ρ.record) (outputs.map ρ.record) (ρ.signers s) =
      brokenRule? i inputs outputs s := by
  simp only [brokenRule?_eq_find?, holds_iff]

theorem judgedAs (p : Proposal) : (ρ.proposal p).JudgedAs p := by
  refine Proposal.judgedAs_of_brokenRule?_eq rfl (List.length_map _) (List.length_map _) ?_
  intro i _
  exact ρ.brokenRule?_eq i p.inputs p.outputs p.signers

theorem ofParts_eq (issuer holder : Party) (quantity : Quantity) :
    Record.ofParts (ρ.party issuer) (ρ.party holder) (ρ.quantity quantity) =
      (Record.ofParts issuer holder quantity).map ρ.record := by
  unfold Record.ofParts
  simp only [party_eq_absent_iff]
  by_cases hi : issuer = .absent
  · simp only [hi, dite_true, Except.map]
  · by_cases hh : holder = .absent
    · simp only [hi, hh, dite_true, dite_false, Except.map]
    · simp only [hi, hh, dite_false, Except.map, record]

theorem supersede_eq (old : Record) (holder : Party) :
    (ρ.record old).supersede (ρ.party holder) = (old.supersede holder).map ρ.record :=
  ρ.ofParts_eq old.issuer holder old.quantity

theorem issue_eq (issuer holder : Party) (quantity : Quantity) :
    Proposal.issue (ρ.party issuer) (ρ.party holder) (ρ.quantity quantity) =
      ρ.result ρ.proposal (Proposal.issue issuer holder quantity) := by
  unfold Proposal.issue
  simp only [quantity_nonpositive_iff, ofParts_eq]
  split
  · rfl
  · cases Record.ofParts issuer holder quantity with
    | error fault => rfl
    | ok new => simp only [Except.map, result, proposal_assemble, List.map_cons, List.map_nil]

theorem transfer_eq (old : Record) (holder : Party) :
    Proposal.transfer (ρ.record old) (ρ.party holder) =
      ρ.result ρ.proposal (Proposal.transfer old holder) := by
  unfold Proposal.transfer
  simp only [quantity_record, holder_record, quantity_nonpositive_iff, party_inj, supersede_eq]
  split
  · rfl
  · split
    · rfl
    · cases old.supersede holder with
      | error fault => rfl
      | ok new =>
        simp only [Except.map, result, proposal_assemble, List.map_cons, List.map_nil]

theorem redeem_eq (old : Record) :
    Proposal.redeem (ρ.record old) = ρ.proposal (Proposal.redeem old) := by
  simp only [Proposal.redeem, proposal_assemble, List.map_cons, List.map_nil, issuer_record,
    holder_record]

/-- A pass over a list is renamed if it is at each element. It ends at the same one. -/
theorem mapM_eq {α β : Type} {f g : α → Except Proposal.Fault β} {rename : β → β} {e : α → α}
    (h : ∀ x, g (e x) = ρ.result rename (f x)) (xs : List α) :
    (xs.map e).mapM g = ρ.result (List.map rename) (xs.mapM f) := by
  induction xs with
  | nil => rfl
  | cons x xs ih =>
    rw [List.map_cons, List.mapM_cons, List.mapM_cons, h, ih]
    cases f x with
    | error fault => rfl
    | ok y => cases xs.mapM f <;> rfl

theorem issueMany_eq (issuer : Party) (held : List (Party × Quantity)) :
    Proposal.issueMany (ρ.party issuer) (held.map ρ.holding) =
      ρ.result (List.map ρ.proposal) (Proposal.issueMany issuer held) := by
  unfold Proposal.issueMany
  have hfind : (held.map ρ.holding).find? (fun h => h.2 ≤ 0) =
      (held.find? fun h => h.2 ≤ 0).map ρ.holding := by
    rw [List.find?_map]
    congr 2
    funext h
    simp only [Function.comp_apply, holding, quantity_nonpositive_iff]
  rw [List.isEmpty_map, hfind]
  split
  · rfl
  · cases held.find? fun h => h.2 ≤ 0 with
    | some h => rfl
    | none => exact ρ.mapM_eq (fun h => ρ.issue_eq issuer h.1 h.2) held

end Renaming

/-- Parties are opaque, and quantities count by sign and equality. Under other names a proposal is
judged alike, and the constructors fail with the same kind of fault or build the renamed
proposals. -/
theorem renaming_unnoticed (ρ : Renaming) :
    (∀ p : Proposal, (ρ.proposal p).JudgedAs p) ∧
    (∀ issuer holder quantity,
      Proposal.issue (ρ.party issuer) (ρ.party holder) (ρ.quantity quantity) =
        ρ.result ρ.proposal (Proposal.issue issuer holder quantity)) ∧
    (∀ issuer held, Proposal.issueMany (ρ.party issuer) (held.map ρ.holding) =
      ρ.result (List.map ρ.proposal) (Proposal.issueMany issuer held)) ∧
    (∀ old holder, Proposal.transfer (ρ.record old) (ρ.party holder) =
      ρ.result ρ.proposal (Proposal.transfer old holder)) ∧
    ∀ old, Proposal.redeem (ρ.record old) = ρ.proposal (Proposal.redeem old) :=
  ⟨ρ.judgedAs, ρ.issue_eq, ρ.issueMany_eq, ρ.transfer_eq, ρ.redeem_eq⟩

def Renaming.exchange : Renaming where
  party := Equiv.swap (.ofByte 80) (.ofByte 81)
  quantity := Equiv.swap 1 Int64.maxValue
  party_injective := (Equiv.swap _ _).injective
  absent_of_party := by
    intro x hx
    rw [Equiv.swap_apply_eq_iff] at hx
    exact hx.trans (Equiv.swap_apply_of_ne_of_ne (by decide) (by decide))
  quantity_injective := (Equiv.swap _ _).injective
  quantity_positive := by
    intro q
    rw [Equiv.swap_apply_def]
    split
    · rename_i h
      subst h
      decide
    · split
      · rename_i h
        subst h
        decide
      · exact Iff.rfl

theorem renaming_unnoticed_exchange :
    let held : Record := ⟨.ofByte 80, .ofByte 82, 1, by decide, by decide⟩
    let renamed : Record := ⟨.ofByte 81, .ofByte 82, Int64.maxValue, by decide, by decide⟩
    Renaming.exchange.record held = renamed ∧
      (Renaming.exchange.proposal (Proposal.redeem held)).JudgedAs (Proposal.redeem held) ∧
      Proposal.redeem renamed = Renaming.exchange.proposal (Proposal.redeem held) ∧
      Proposal.transfer renamed (.ofByte 82) = .error .sameHolder ∧
      Proposal.issue (.ofByte 81) .absent Int64.maxValue = .error (.record .holderAbsent) ∧
      Proposal.issueMany (.ofByte 81) [(.ofByte 82, Int64.maxValue), (.ofByte 80, -2)] =
        .error (.nonPositive (-2)) := by
  intro held renamed
  obtain ⟨hjudged, hissue, hmany, htransfer, hredeem⟩ := renaming_unnoticed Renaming.exchange
  have hrecord : Renaming.exchange.record held = renamed := by decide +kernel
  refine ⟨hrecord, hjudged _, hrecord ▸ hredeem held, ?transfer, ?issue, ?issueMany⟩
  case transfer => exact (htransfer held (.ofByte 82)).trans (by decide +kernel)
  case issue => exact (hissue (.ofByte 80) .absent 1).trans (by decide +kernel)
  case issueMany =>
    exact (hmany (.ofByte 80) [(.ofByte 82, 1), (.ofByte 81, -2)]).trans (by decide +kernel)

end TokenLedger
