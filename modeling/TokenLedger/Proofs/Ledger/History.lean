import Mathlib.Algebra.Ring.Int.Defs
import TokenLedger.Proofs.Ledger.Supply

/-! # Histories of a ledger

A host starts with an empty ledger and applies proposals that the verifier accepts and whose inputs
are there. In every ledger that it can reach, the records are positive, the supply of each issuer is
what was issued less what was redeemed, and nothing of this changed without the signatures of those
whom it concerns. That a redemption never adds to a supply rests on the outputs of earlier steps,
which are positive.
-/
namespace TokenLedger
namespace Ledger

/-- The ledger in which the inputs of the proposal are replaced by its outputs, if the verifier
accepts the proposal and the inputs are there. -/
def commit? (records : Ledger) (p : Proposal) : Option Ledger :=
  if p.verdict = .accepted ∧ (p.inputs : Ledger) ≤ records then
    some (records - p.inputs + p.outputs)
  else none

theorem commit?_eq_some_iff {records after : Ledger} {p : Proposal} :
    records.commit? p = some after ↔ p.verdict = .accepted ∧
      ∃ rest : Ledger, records = rest + p.inputs ∧ after = rest + p.outputs := by
  unfold commit?
  constructor
  · intro h
    split at h
    · rename_i hp
      cases h
      exact ⟨hp.1, records - p.inputs, (Multiset.sub_add_cancel hp.2).symm, rfl⟩
    · cases h
  · rintro ⟨ha, rest, rfl, rfl⟩
    rw [if_pos ⟨ha, Multiset.le_add_left _ _⟩, Multiset.add_sub_cancel_right]

end Ledger

open Ledger

structure Step where
  before : Ledger
  proposal : Proposal
  after : Ledger

/-- What can become of a ledger whose host is offered proposals in turn. The host applies some of
those that it can apply and passes over the others. -/
inductive History : List Proposal → List Step → Ledger → Prop
  | start : History [] [] 0
  | commit {offered : List Proposal} {steps : List Step} {records after : Ledger} {p : Proposal}
    (past : History offered steps records) (committed : records.commit? p = some after) :
    History (offered ++ [p]) (steps ++ [⟨records, p, after⟩]) after
  | pass {offered : List Proposal} {steps : List Step} {records : Ledger} (p : Proposal)
    (past : History offered steps records) : History (offered ++ [p]) steps records

def stepsOf (i : Intent) (steps : List Step) : List Step :=
  steps.filter fun s => s.proposal.parsedIntent? = some i

def issued (x : Party) (steps : List Step) : ℤ :=
  ((stepsOf .issue steps).map fun s => supply x s.proposal.outputs).sum

def redeemed (x : Party) (steps : List Step) : ℤ :=
  ((stepsOf .redeem steps).map fun s => supply x s.proposal.inputs).sum

def issues (x : Party) (steps : List Step) : ℕ :=
  (stepsOf .issue steps).countP fun s => ∃ new ∈ s.proposal.outputs, new.issuer = x

def redemptions (x : Party) (steps : List Step) : ℕ :=
  (stepsOf .redeem steps).countP fun s => ∃ old ∈ s.proposal.inputs, old.issuer = x

section
variable (x : Party) (steps : List Step) (s : Step)

@[simp] theorem issued_append : issued x (steps ++ [s]) = issued x steps + issued x [s] := by
  simp [issued, stepsOf]

@[simp] theorem redeemed_append :
    redeemed x (steps ++ [s]) = redeemed x steps + redeemed x [s] := by
  simp [redeemed, stepsOf]

@[simp] theorem issues_append : issues x (steps ++ [s]) = issues x steps + issues x [s] := by
  simp [issues, stepsOf]

@[simp] theorem redemptions_append :
    redemptions x (steps ++ [s]) = redemptions x steps + redemptions x [s] := by
  simp [redemptions, stepsOf]

end

theorem Step.balance {s : Step} {i : Intent} (hi : s.proposal.parsedIntent? = some i)
    (hl : Legal s.proposal.signers i s.proposal.inputs s.proposal.outputs) (x : Party) :
    supply x s.proposal.outputs + redeemed x [s] = supply x s.proposal.inputs + issued x [s] ∧
      units x s.proposal.outputs + redemptions x [s] =
        units x s.proposal.inputs + issues x [s] := by
  cases i with
  | issue =>
    simp [issued, redeemed, issues, redemptions, stepsOf, hi, hl.inputs_of_issue, hl.units_of_issue]
  | move =>
    simp [issued, redeemed, issues, redemptions, stepsOf, hi, hl.balance_of_move x]
  | redeem =>
    simp [issued, redeemed, issues, redemptions, stepsOf, hi, hl.outputs_of_redeem,
      hl.units_of_redeem]

/-- Those whom the step concerns have signed it: the issuer whose supply changes, and the holder of
every record that leaves. -/
structure Step.Authorised (s : Step) : Prop where
  issuer : ∀ x, supply x s.after ≠ supply x s.before → x ∈ s.proposal.signers
  leaves : ∀ r, s.after.count r < s.before.count r → r ∈ s.proposal.inputs
  holder : ∀ old ∈ s.proposal.inputs, old.holder ∈ s.proposal.signers

theorem authorised_of_commit? {records after : Ledger} {p : Proposal}
    (h : records.commit? p = some after) : Step.Authorised ⟨records, p, after⟩ := by
  obtain ⟨ha, rest, rfl, rfl⟩ := commit?_eq_some_iff.mp h
  obtain ⟨i, _, hl⟩ := Proposal.verdict_eq_accepted_iff.mp ha
  constructor
  · intro x hx
    simp only [supply_add, ne_eq, add_right_inj] at hx
    exact hl.issuer_mem_signers hx
  · intro r hr
    rw [Multiset.count_add, Multiset.count_add] at hr
    have hpos : 0 < Multiset.count r (p.inputs : Ledger) := by omega
    exact Multiset.mem_coe.mp (Multiset.count_pos.mp hpos)
  · exact hl.holder_mem_signers

structure Balanced (steps : List Step) (records : Ledger) : Prop where
  positive : ∀ r ∈ records, 0 < r.quantity.toInt
  supply : ∀ x, supply x records = issued x steps - redeemed x steps
  units : ∀ x, (units x records : ℤ) = issues x steps - redemptions x steps

theorem Balanced.commit {steps : List Step} {records after : Ledger} {p : Proposal}
    (hb : Balanced steps records) (h : records.commit? p = some after) :
    Balanced (steps ++ [⟨records, p, after⟩]) after := by
  obtain ⟨ha, rest, rfl, rfl⟩ := commit?_eq_some_iff.mp h
  obtain ⟨i, hi, hl⟩ := Proposal.verdict_eq_accepted_iff.mp ha
  have hs := Step.balance (s := ⟨rest + p.inputs, p, rest + p.outputs⟩) hi hl
  constructor
  · intro r hr
    rcases Multiset.mem_add.mp hr with hr | hr
    · exact hb.positive r (Multiset.mem_add.mpr (.inl hr))
    · exact hl.output_positive r (Multiset.mem_coe.mp hr)
  · intro x
    have hx := hb.supply x
    have hsx := (hs x).1
    simp only [supply_add, issued_append, redeemed_append] at hx ⊢
    dsimp only at hsx
    omega
  · intro x
    have hx := hb.units x
    have hsx := (hs x).2
    simp only [units_add, issues_append, redemptions_append] at hx ⊢
    dsimp only at hsx
    omega

namespace History
variable {offered : List Proposal} {steps : List Step} {records : Ledger}

theorem balanced (h : History offered steps records) : Balanced steps records := by
  induction h with
  | start =>
    exact ⟨by simp, by simp [issued, redeemed, stepsOf], by simp [issues, redemptions, stepsOf]⟩
  | commit _ committed ih => exact ih.commit committed
  | pass _ _ ih => exact ih

/-- Every step of a history starts at a ledger that has a history of its own. -/
theorem exists_past (h : History offered steps records) :
    ∀ s ∈ steps, (∃ offered steps, History offered steps s.before) ∧
      s.before.commit? s.proposal = some s.after := by
  induction h with
  | start => simp
  | commit past committed ih =>
    intro s hs
    rcases List.mem_append.mp hs with hs | hs
    · exact ih s hs
    · rw [List.mem_singleton.mp hs]
      exact ⟨⟨_, _, past⟩, committed⟩
  | pass _ _ ih => exact ih

theorem authorised (h : History offered steps records) : ∀ s ∈ steps, s.Authorised := by
  intro s hs
  exact authorised_of_commit? (h.exists_past s hs).2

/-- In a history nothing negative is redeemed, and so supplies grow by issues only. -/
theorem growsByIssue (h : History offered steps records) :
    ∀ s ∈ steps, s.proposal.Nonneg ∧ s.proposal.GrowsByIssue := by
  intro s hs
  obtain ⟨⟨_, _, past⟩, committed⟩ := h.exists_past s hs
  obtain ⟨ha, rest, hb, _⟩ := commit?_eq_some_iff.mp committed
  obtain ⟨i, hi, hl⟩ := Proposal.verdict_eq_accepted_iff.mp ha
  have hr : s.proposal.RedeemsNonneg := by
    intro _ old ho
    -- The verifier does not look at this sign. The record was an output, or would not be there.
    have hm : old ∈ s.before := hb ▸ Multiset.mem_add.mpr (.inr ho)
    exact (past.balanced.positive old hm).le
  exact ⟨(Proposal.nonneg_iff_redeemsNonneg hi hl).mpr hr,
    (Proposal.growsByIssue_iff_redeemsNonneg hi hl).mpr hr⟩

end History

/-- In every ledger that a host can reach, the records are positive and name a present issuer and
holder, every supply and number of records is what issues and redemptions make it, and every step
on the way was signed by those whom it concerns. -/
theorem history_accounts {offered : List Proposal} {steps : List Step} {records : Ledger}
    (h : History offered steps records) :
    (∀ r ∈ records, 0 < r.quantity.toInt ∧ r.issuer ≠ .absent ∧ r.holder ≠ .absent) ∧
      (∀ x, supply x records = issued x steps - redeemed x steps ∧
        (units x records : ℤ) = issues x steps - redemptions x steps) ∧
      ∀ s ∈ steps, (∀ x, supply x s.after ≠ supply x s.before → x ∈ s.proposal.signers) ∧
        (∀ r, s.after.count r < s.before.count r → r ∈ s.proposal.inputs) ∧
          ∀ old ∈ s.proposal.inputs, old.holder ∈ s.proposal.signers := by
  have hb := h.balanced
  refine ⟨?_, fun x => ⟨hb.supply x, hb.units x⟩, ?_⟩
  · intro r hr
    exact ⟨hb.positive r hr, r.issuer_present, r.holder_present⟩
  · intro s hs
    have ha := h.authorised s hs
    exact ⟨ha.issuer, ha.leaves, ha.holder⟩

def mint (r : Record) : Proposal := .assemble [] [r] .issue [r.issuer]

theorem commit?_mint {records : Ledger} {r : Record} (hq : 0 < r.quantity) :
    records.commit? (mint r) = some (records + {r}) := by
  refine commit?_eq_some_iff.mpr ⟨?_, records, (add_zero records).symm, rfl⟩
  exact Proposal.verdict_eq_accepted_iff.mpr
    ⟨.issue, Proposal.parsedIntent?_assemble .., .issue hq (by simp [mint])⟩

def coins : Record := ⟨.ofByte 1, .ofByte 2, 5, by decide, by decide⟩

def change : Record := ⟨.ofByte 1, .ofByte 3, 3, by decide, by decide⟩

def lifecycle : List Step :=
  [⟨0, mint coins, {coins}⟩, ⟨{coins}, mint change, {coins} + {change}⟩,
    ⟨{coins} + {change}, .redeem coins, {change}⟩]

theorem history_accounts_lifecycle :
    History [mint coins, mint change, .redeem Proposal.debt, .redeem coins] lifecycle {change} ∧
      issued (.ofByte 1) lifecycle = 8 ∧ redeemed (.ofByte 1) lifecycle = 5 ∧
      supply (.ofByte 1) {change} = 8 - 5 := by
  have hr : Ledger.commit? ({coins} + {change}) (.redeem coins) = some {change} := by
    have ha := (Proposal.Constructed.redeem coins).verdict_eq_accepted
    exact commit?_eq_some_iff.mpr ⟨ha, {change}, add_comm _ _, (add_zero _).symm⟩
  have hs := (History.start.commit (commit?_mint (r := coins) (by decide))).commit
    (commit?_mint (r := change) (by decide))
  have h : History [mint coins, mint change, .redeem Proposal.debt, .redeem coins] lifecycle
    {change} := (hs.pass _).commit hr
  have hi : issued (.ofByte 1) lifecycle = 8 := by decide
  have ho : redeemed (.ofByte 1) lifecycle = 5 := by decide
  refine ⟨h, hi, ho, ?_⟩
  rw [← hi, ← ho]
  exact ((history_accounts h).2.1 (.ofByte 1)).1

end TokenLedger
