import TokenLedger.Proofs.Judgement.Legal

/-! # Constructed proposals

The constructors and the verifier agree. What a constructor builds is legal once those have signed
whom it names, and every legal transaction is one that a constructor builds.
-/
namespace TokenLedger
namespace Proposal

/-- The proposals that one call of a constructor builds, with the intent that it has. -/
inductive Constructed : Intent → Proposal → Prop
  | issue {issuer holder : Party} {quantity : Quantity} {c : Proposal}
    (built : Proposal.issue issuer holder quantity = .ok c) : Constructed .issue c
  | transfer {old : Record} {holder : Party} {c : Proposal}
    (built : Proposal.transfer old holder = .ok c) : Constructed .move c
  | redeem (old : Record) : Constructed .redeem (Proposal.redeem old)

theorem issue_eq_ok_iff {issuer holder : Party} {quantity : Quantity} {c : Proposal} :
    issue issuer holder quantity = .ok c ↔ 0 < quantity ∧ ∃ new : Record,
      (new.issuer = issuer ∧ new.holder = holder ∧ new.quantity = quantity) ∧
        assemble [] [new] .issue [issuer] = c := by
  unfold issue
  by_cases hq : quantity ≤ 0
  · simp [hq, Int64.not_lt.mpr hq]
  · rw [if_neg hq]
    simp only [Int64.not_le.mp hq, true_and, ← Record.ofParts_eq_ok_iff]
    cases Record.ofParts issuer holder quantity <;> simp

theorem transfer_eq_ok_iff {old : Record} {holder : Party} {c : Proposal} :
    transfer old holder = .ok c ↔ 0 < old.quantity ∧ old.holder ≠ holder ∧ ∃ new : Record,
      (new.issuer = old.issuer ∧ new.holder = holder ∧ new.quantity = old.quantity) ∧
        assemble [old] [new] .move [old.holder] = c := by
  unfold transfer
  by_cases hq : old.quantity ≤ 0
  · simp [hq, Int64.not_lt.mpr hq]
  · by_cases hh : old.holder = holder
    · simp [hq, hh]
    · rw [if_neg hq, if_neg hh]
      simp only [Int64.not_le.mp hq, ne_eq, hh, not_false_eq_true, true_and,
        ← Record.ofParts_eq_ok_iff]
      unfold Record.supersede
      cases Record.ofParts old.issuer holder old.quantity <;> simp

namespace Constructed
variable {i : Intent} {c : Proposal}

theorem parsedIntent?_eq (h : Constructed i c) : c.parsedIntent? = some i := by
  cases h with
  | issue built =>
    obtain ⟨_, new, _, rfl⟩ := issue_eq_ok_iff.mp built
    exact parsedIntent?_assemble ..
  | transfer built =>
    obtain ⟨_, _, new, _, rfl⟩ := transfer_eq_ok_iff.mp built
    exact parsedIntent?_assemble ..
  | redeem old => exact parsedIntent?_assemble ..

/-- A constructor names exactly the signers that the rules ask for, and meets all other rules. -/
theorem legal_iff (h : Constructed i c) {signers : Signers} :
    Legal signers i c.inputs c.outputs ↔ ∀ x ∈ c.signers, x ∈ signers := by
  cases h with
  | issue built =>
    obtain ⟨hq, new, ⟨rfl, rfl, rfl⟩, rfl⟩ := issue_eq_ok_iff.mp built
    simp only [inputs_assemble, outputs_assemble, mem_signers_assemble, List.mem_singleton,
      forall_eq]
    constructor
    · intro hl
      cases hl with
      | issue _ hs => exact hs
    · intro hs
      exact .issue hq hs
  | transfer built =>
    obtain ⟨hq, hh, new, ⟨hi, rfl, hk⟩, rfl⟩ := transfer_eq_ok_iff.mp built
    simp only [inputs_assemble, outputs_assemble, mem_signers_assemble, List.mem_singleton,
      forall_eq]
    constructor
    · intro hl
      cases hl with
      | move _ _ _ _ hs => exact hs
    · intro hs
      exact .move (hk ▸ hq) hi.symm hk.symm hh hs
  | redeem old =>
    simp only [Proposal.redeem, inputs_assemble, outputs_assemble, mem_signers_assemble,
      List.mem_cons, List.not_mem_nil, or_false, forall_eq_or_imp, forall_eq]
    constructor
    · intro hl
      cases hl with
      | redeem hi hh => exact ⟨hi, hh⟩
    · rintro ⟨hi, hh⟩
      exact .redeem hi hh

/-- The verdict on what was built, with whatever signers, depends on the named signers alone. -/
theorem verdict_eq_accepted_iff (h : Constructed i c) {signers : Signers} :
    ({ c with signers } : Proposal).verdict = .accepted ↔ ∀ x ∈ c.signers, x ∈ signers := by
  rw [Proposal.verdict_eq_accepted_iff, ← h.legal_iff]
  constructor
  · rintro ⟨j, hj, hl⟩
    have hij : i = j := Option.some.inj (h.parsedIntent?_eq.symm.trans hj)
    exact hij ▸ hl
  · intro hl
    exact ⟨i, h.parsedIntent?_eq, hl⟩

theorem verdict_eq_accepted (h : Constructed i c) : c.verdict = .accepted := by
  have hs : ∀ x ∈ c.signers, x ∈ c.signers := fun x hx => hx
  exact h.verdict_eq_accepted_iff.mpr hs

end Constructed

/-- Every legal transaction is built by a constructor. Its arguments are read off the records. -/
theorem exists_constructed_of_legal {i : Intent} {inputs outputs : List Record} {signers : Signers}
    (h : Legal signers i inputs outputs) :
    ∃ c, Constructed i c ∧ c.inputs = inputs ∧ c.outputs = outputs := by
  cases h with
  | @issue new hq hs =>
    have built : issue new.issuer new.holder new.quantity = .ok _ :=
      issue_eq_ok_iff.mpr ⟨hq, new, ⟨rfl, rfl, rfl⟩, rfl⟩
    exact ⟨_, .issue built, rfl, rfl⟩
  | @move old new hq hi hk hh hs =>
    have built : transfer old new.holder = .ok _ :=
      transfer_eq_ok_iff.mpr ⟨hk ▸ hq, hh, new, ⟨hi.symm, rfl, hk.symm⟩, rfl⟩
    exact ⟨_, .transfer built, rfl, rfl⟩
  | @redeem old hi hh => exact ⟨redeem old, .redeem old, rfl, rfl⟩

/-- The constructors build exactly the legal proposals, up to further signers and the spelling of
the intent. What they build is accepted with any signers that include those they name, every one of
whom is needed. -/
theorem accepted_iff_constructed :
    (∀ p : Proposal, p.verdict = .accepted ↔
      ∃ i c, Constructed i c ∧ c.inputs = p.inputs ∧ c.outputs = p.outputs ∧
        p.parsedIntent? = some i ∧ ∀ x ∈ c.signers, x ∈ p.signers) ∧
    ∀ i c, Constructed i c → c.parsedIntent? = some i ∧ c.verdict = .accepted ∧
      (∀ signers : Signers, ({ c with signers } : Proposal).verdict = .accepted ↔
        ∀ x ∈ c.signers, x ∈ signers) ∧
      ∀ x ∈ c.signers,
        ({ c with signers := c.signers.erase x } : Proposal).verdict ≠ .accepted := by
  constructor
  · intro p
    rw [Proposal.verdict_eq_accepted_iff]
    constructor
    · rintro ⟨i, hi, hl⟩
      obtain ⟨c, hc, hin, hout⟩ := exists_constructed_of_legal hl
      exact ⟨i, c, hc, hin, hout, hi, hc.legal_iff.mp (by rw [hin, hout]; exact hl)⟩
    · rintro ⟨i, c, hc, hin, hout, hi, hs⟩
      have hl := hc.legal_iff.mpr hs
      rw [hin, hout] at hl
      exact ⟨i, hi, hl⟩
  · intro i c hc
    refine ⟨hc.parsedIntent?_eq, hc.verdict_eq_accepted, fun signers =>
      hc.verdict_eq_accepted_iff, ?_⟩
    intro x hx ha
    have he := hc.verdict_eq_accepted_iff.mp ha x hx
    exact (Signers.mem_erase.mp he).1 rfl

def selfHeld : Record := ⟨.ofByte 7, .ofByte 7, -5, by decide, by decide⟩

/-- It is redeemed with one signature, and not without it. -/
theorem redeem_selfHeld_accepted :
    Constructed .redeem (redeem selfHeld) ∧ (redeem selfHeld).verdict = .accepted ∧
      ({ redeem selfHeld with signers := .ofList [.ofByte 8] } : Proposal).verdict ≠ .accepted := by
  have hc := Constructed.redeem selfHeld
  obtain ⟨_, ha, hs, _⟩ := accepted_iff_constructed.2 _ _ hc
  refine ⟨hc, ha, fun h => ?_⟩
  have hm := (hs _).mp h (.ofByte 7) (by decide)
  exact absurd hm (by decide)

end Proposal

end TokenLedger
