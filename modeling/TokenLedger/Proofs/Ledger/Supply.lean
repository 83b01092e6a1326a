import Mathlib.Algebra.BigOperators.Group.Multiset.Basic
import TokenLedger.Proofs.Proposal.Constructed

/-! # Supply

The supply of an issuer is the sum of the quantities of its records, as an integer, and its growth
through a proposal is the difference between outputs and inputs. A legal issue adds to the supply
of the issuer that signs it and a legal move to none. A legal redemption takes from the supply what
its input holds, whatever the sign of that quantity is.
-/
namespace TokenLedger

abbrev Ledger := Multiset Record

namespace Ledger

def supply (x : Party) (records : Ledger) : ℤ :=
  ((records.filter fun r => r.issuer = x).map fun r => r.quantity.toInt).sum

def units (x : Party) (records : Ledger) : ℕ := (records.filter fun r => r.issuer = x).card

@[simp] theorem supply_zero (x : Party) : supply x 0 = 0 := rfl

@[simp] theorem units_zero (x : Party) : units x 0 = 0 := rfl

@[simp] theorem supply_add (x : Party) (s t : Ledger) :
    supply x (s + t) = supply x s + supply x t := by
  simp [supply, Multiset.filter_add]

@[simp] theorem units_add (x : Party) (s t : Ledger) : units x (s + t) = units x s + units x t := by
  simp [units, Multiset.filter_add]

@[simp] theorem supply_singleton (x : Party) (r : Record) :
    supply x {r} = if r.issuer = x then r.quantity.toInt else 0 := by
  by_cases h : r.issuer = x <;> simp [supply, Multiset.filter_singleton, h]

@[simp] theorem units_singleton (x : Party) (r : Record) :
    units x {r} = if r.issuer = x then 1 else 0 := by
  by_cases h : r.issuer = x <;> simp [units, Multiset.filter_singleton, h]

end Ledger

open Ledger

def Proposal.growth (p : Proposal) (x : Party) : ℤ := supply x p.outputs - supply x p.inputs

namespace Legal
variable {signers : Signers} {i : Intent} {inputs outputs : List Record}

theorem output_positive (h : Legal signers i inputs outputs) :
    ∀ new ∈ outputs, 0 < new.quantity.toInt := by
  cases h with
  | issue hq => simpa [Int64.lt_iff_toInt_lt] using hq
  | move hq => simpa [Int64.lt_iff_toInt_lt] using hq
  | redeem => simp

theorem holder_mem_signers (h : Legal signers i inputs outputs) :
    ∀ old ∈ inputs, old.holder ∈ signers := by
  cases h with
  | issue => simp
  | move _ _ _ _ hs => simpa using hs
  | redeem _ hs => simpa using hs

/-- Whoever's supply changes signs. -/
theorem issuer_mem_signers (h : Legal signers i inputs outputs) {x : Party}
    (hx : supply x outputs ≠ supply x inputs) : x ∈ signers := by
  cases h with
  | @issue new _ hs =>
    by_cases hi : new.issuer = x
    · exact hi ▸ hs
    · simp [hi] at hx
  | move _ hi hk => simp [hi, hk] at hx
  | @redeem old hs =>
    by_cases hi : old.issuer = x
    · exact hi ▸ hs
    · simp [hi] at hx

theorem inputs_of_issue (h : Legal signers .issue inputs outputs) : inputs = [] := by
  cases h
  rfl

/-- The output of a move holds what the input held, for the same issuer. -/
theorem balance_of_move (h : Legal signers .move inputs outputs) (x : Party) :
    supply x outputs = supply x inputs ∧ units x outputs = units x inputs := by
  cases h with
  | move _ hi hk => simp [hi, hk]

theorem input_positive_of_move (h : Legal signers .move inputs outputs) :
    ∀ old ∈ inputs, 0 < old.quantity.toInt := by
  cases h with
  | move hq _ hk => simpa [hk, Int64.lt_iff_toInt_lt] using hq

theorem outputs_of_redeem (h : Legal signers .redeem inputs outputs) : outputs = [] := by
  cases h
  rfl

theorem units_of_issue (h : Legal signers .issue inputs outputs) (x : Party) :
    units x outputs = if ∃ new ∈ outputs, new.issuer = x then 1 else 0 := by
  cases h
  simp

theorem units_of_redeem (h : Legal signers .redeem inputs outputs) (x : Party) :
    units x inputs = if ∃ old ∈ inputs, old.issuer = x then 1 else 0 := by
  cases h
  simp

/-- A redemption takes the supply of its input away, which is an addition if that is negative. -/
theorem nonneg_iff_of_redeem (h : Legal signers .redeem inputs outputs) :
    (∀ old ∈ inputs, 0 ≤ old.quantity.toInt) ↔ ∀ x, 0 ≤ supply x inputs := by
  cases h with
  | @redeem old =>
    simp only [List.mem_singleton, forall_eq, Multiset.coe_singleton, supply_singleton]
    constructor
    · intro hq x
      split
      · exact hq
      · exact le_rfl
    · intro hx
      simpa using hx old.issuer

end Legal

namespace Proposal

def Nonneg (p : Proposal) : Prop := ∀ r ∈ p.inputs ++ p.outputs, 0 ≤ r.quantity.toInt

/-- Supplies grow by issues only: a move leaves them as they are, a redemption adds to none. -/
def GrowsByIssue (p : Proposal) : Prop :=
  ∀ x, (0 < p.growth x → p.parsedIntent? = some .issue) ∧
    (p.parsedIntent? = some .move → p.growth x = 0) ∧
    (p.parsedIntent? = some .redeem → p.growth x ≤ 0)

def RedeemsNonneg (p : Proposal) : Prop :=
  p.parsedIntent? = some .redeem → ∀ old ∈ p.inputs, 0 ≤ old.quantity.toInt

variable {p : Proposal} {i : Intent}

theorem nonneg_iff_redeemsNonneg (hi : p.parsedIntent? = some i)
    (hl : Legal p.signers i p.inputs p.outputs) : p.Nonneg ↔ p.RedeemsNonneg := by
  constructor
  · intro hn _ old ho
    exact hn old (List.mem_append_left _ ho)
  · intro hc r hr
    rcases List.mem_append.mp hr with ho | hn
    · cases i with
      | issue =>
        rw [hl.inputs_of_issue] at ho
        exact absurd ho List.not_mem_nil
      | move => exact (hl.input_positive_of_move r ho).le
      | redeem => exact hc hi r ho
    · exact (hl.output_positive r hn).le

theorem growsByIssue_iff_redeemsNonneg (hi : p.parsedIntent? = some i)
    (hl : Legal p.signers i p.inputs p.outputs) : p.GrowsByIssue ↔ p.RedeemsNonneg := by
  unfold GrowsByIssue RedeemsNonneg growth
  rw [hi]
  cases i with
  | issue => simp
  | move => simp [(hl.balance_of_move _).1]
  | redeem => simp [hl.outputs_of_redeem, hl.nonneg_iff_of_redeem]

/-- An accepted proposal names no negative quantity exactly if it does not redeem one, and adds to
supplies by issue only exactly under the same condition. The verifier looks at the sign of outputs
alone. A move hands the sign on to its input, but a redemption has no output. -/
theorem accepted_nonneg_iff (h : p.verdict = .accepted) :
    (p.Nonneg ↔ p.RedeemsNonneg) ∧ (p.GrowsByIssue ↔ p.RedeemsNonneg) ∧
      ∀ new ∈ p.outputs, 0 < new.quantity.toInt := by
  obtain ⟨i, hi, hl⟩ := verdict_eq_accepted_iff.mp h
  exact ⟨nonneg_iff_redeemsNonneg hi hl, growsByIssue_iff_redeemsNonneg hi hl, hl.output_positive⟩

def credit : Record := ⟨.ofByte 10, .ofByte 11, 5, by decide, by decide⟩

theorem accepted_nonneg_redeem :
    (redeem credit).verdict = .accepted ∧ (redeem credit).Nonneg ∧
      (redeem credit).GrowsByIssue := by
  have ha := (Constructed.redeem credit).verdict_eq_accepted
  obtain ⟨hn, hg, _⟩ := accepted_nonneg_iff ha
  have hr : (redeem credit).RedeemsNonneg := by
    intro _
    decide
  exact ⟨ha, hn.mpr hr, hg.mpr hr⟩

/-- A record of less than nothing, whose redemption the verifier accepts. -/
def debt : Record := ⟨.ofByte 10, .ofByte 11, -5, by decide, by decide⟩

theorem redeem_debt_grows :
    (redeem debt).verdict = .accepted ∧ (redeem debt).parsedIntent? = some .redeem ∧
      ¬ (redeem debt).Nonneg ∧ ¬ (redeem debt).GrowsByIssue ∧
      (redeem debt).growth debt.issuer = 5 := by
  have hg : (redeem debt).growth debt.issuer = 5 := by decide
  refine ⟨(Constructed.redeem debt).verdict_eq_accepted, by decide, ?_, ?_, hg⟩
  · intro hn
    exact absurd (hn debt (by decide)) (by decide)
  · intro h
    have hle := (h debt.issuer).2.2 (by decide)
    omega

end Proposal

end TokenLedger
