import TokenLedger.Event
import TokenLedger.Proofs.Judgement.Legal

/-! # Rulings

The table of rules that decides about a proposal, as a relation between proposals and outcomes.
Every proposal has exactly one ruling, and it is what the verifier returns.
-/
namespace TokenLedger

/-- The rows of the table. An outcome is a rejection, or nothing if the proposal is accepted. -/
inductive Ruling (p : Proposal) : Option Rejection → Prop
  /-- The tag names no intent. Nothing else counts. -/
  | unknownIntent (tag : ∀ i : Intent, ¬ i.SpelledBy p.intent) :
    Ruling p (some .unknownIntentOrInvalidQuantity)
  /-- The numbers of records are wrong, whatever the records and the signers. -/
  | cardinality {i : Intent} (tag : i.SpelledBy p.intent) (misfit : ¬ i.Fits p.inputs p.outputs) :
    Ruling p (some i.malformed)
  /-- An output holds nothing or less, whatever the parties and the signers. -/
  | quantity {i : Intent} (tag : i.SpelledBy p.intent) (fit : i.Fits p.inputs p.outputs)
    (nonpositive : ∃ new ∈ p.outputs, new.quantity ≤ 0) :
    Ruling p (some .unknownIntentOrInvalidQuantity)
  | permitted {i : Intent} (tag : i.SpelledBy p.intent) (fit : i.Fits p.inputs p.outputs)
    (positive : ∀ new ∈ p.outputs, 0 < new.quantity)
    (permit : i.Permits p.inputs p.outputs p.signers) : Ruling p none
  | forbidden {i : Intent} (tag : i.SpelledBy p.intent) (fit : i.Fits p.inputs p.outputs)
    (positive : ∀ new ∈ p.outputs, 0 < new.quantity)
    (forbid : ¬ i.Permits p.inputs p.outputs p.signers) : Ruling p (some i.malformed)

theorem rejection?_of_unknownIntent {p : Proposal} (h : ∀ i : Intent, ¬ i.SpelledBy p.intent) :
    p.judgement.rejection? = some .unknownIntentOrInvalidQuantity := by
  have hn : p.parsedIntent? = none := Intent.ofText?_eq_none_iff.mpr h
  simp [Proposal.judgement, hn, Judgement.rejection?]

theorem rejection?_of_spelledBy {p : Proposal} {i : Intent} (h : i.SpelledBy p.intent) :
    p.judgement.rejection? =
      (brokenRule? i p.inputs p.outputs p.signers).map fun rule => rule.rejection i := by
  have hi : p.parsedIntent? = some i := Intent.ofText?_eq_some_iff.mpr h
  simp only [Proposal.judgement, hi, Judgement.ofIntent]
  cases brokenRule? i p.inputs p.outputs p.signers <;> rfl

namespace Proposal
variable {p : Proposal} {i : Intent}

theorem verdict_of_unknownIntent (h : ∀ i : Intent, ¬ i.SpelledBy p.intent) :
    p.verdict = .rejected .unknownIntentOrInvalidQuantity := by
  rw [verdict, Judgement.verdict, rejection?_of_unknownIntent h]

theorem verdict_of_spelledBy (h : i.SpelledBy p.intent) :
    p.verdict = match brokenRule? i p.inputs p.outputs p.signers with
      | none => .accepted
      | some rule => .rejected (rule.rejection i) := by
  rw [verdict, Judgement.verdict, rejection?_of_spelledBy h]
  cases brokenRule? i p.inputs p.outputs p.signers <;> rfl

theorem event_of_unknownIntent (h : ∀ i : Intent, ¬ i.SpelledBy p.intent) :
    p.event = .unknownIntent p.intent .unknownIntentOrInvalidQuantity := by
  have hn : p.parsedIntent? = none := Intent.ofText?_eq_none_iff.mpr h
  rw [event, hn]

theorem event_of_spelledBy (h : i.SpelledBy p.intent) :
    p.event = match brokenRule? i p.inputs p.outputs p.signers with
      | none => .verified i p.inputs.length p.outputs.length
      | some rule => .ruleBroken i rule (rule.rejection i) := by
  have hi : p.parsedIntent? = some i := Intent.ofText?_eq_some_iff.mpr h
  rw [event, hi]
  rfl

end Proposal

theorem Ruling.rejection?_eq {p : Proposal} {outcome : Option Rejection} (h : Ruling p outcome) :
    p.judgement.rejection? = outcome := by
  cases h with
  | unknownIntent tag => exact rejection?_of_unknownIntent tag
  | cardinality tag misfit =>
    rw [rejection?_of_spelledBy tag, brokenRule?_of_not_fits misfit]
    rfl
  | quantity tag fit nonpositive =>
    rw [rejection?_of_spelledBy tag, brokenRule?_of_nonpositive fit nonpositive]
    rfl
  | permitted tag fit positive permit =>
    rw [rejection?_of_spelledBy tag, brokenRule?_eq_none_iff.mpr ⟨fit, positive, permit⟩]
    rfl
  | forbidden tag fit positive forbid =>
    obtain ⟨rule, hb, hr⟩ := exists_brokenRule?_of_forbidden fit positive forbid
    rw [rejection?_of_spelledBy tag, hb, Option.map_some, hr]

theorem exists_ruling (p : Proposal) : ∃ outcome, Ruling p outcome := by
  by_cases ht : ∃ i : Intent, i.SpelledBy p.intent
  · obtain ⟨i, tag⟩ := ht
    by_cases fit : i.Fits p.inputs p.outputs
    · by_cases hq : ∃ new ∈ p.outputs, new.quantity ≤ 0
      · exact ⟨_, .quantity tag fit hq⟩
      · have positive : ∀ new ∈ p.outputs, 0 < new.quantity := by
          simpa [Int64.not_le] using hq
        by_cases permit : i.Permits p.inputs p.outputs p.signers
        · exact ⟨_, .permitted tag fit positive permit⟩
        · exact ⟨_, .forbidden tag fit positive permit⟩
    · exact ⟨_, .cardinality tag fit⟩
  · exact ⟨_, .unknownIntent fun i hi => ht ⟨i, hi⟩⟩

theorem ruling_rejection? (p : Proposal) : Ruling p p.judgement.rejection? := by
  obtain ⟨outcome, h⟩ := exists_ruling p
  exact h.rejection?_eq ▸ h

theorem Intent.malformed_ne (i : Intent) : i.malformed ≠ .unknownIntentOrInvalidQuantity := by
  cases i <;> decide

theorem Intent.malformed_injective {i j : Intent} (h : i.malformed = j.malformed) : i = j := by
  revert h
  cases i <;> cases j <;> decide

/-- The reason that belongs to no intent is given for unknown intents and for outputs that are not
positive, and for nothing else. -/
theorem rejection?_eq_unknown_iff {p : Proposal} :
    p.judgement.rejection? = some .unknownIntentOrInvalidQuantity ↔
      (∀ i : Intent, ¬ i.SpelledBy p.intent) ∨
        ∃ i : Intent, i.SpelledBy p.intent ∧ i.Fits p.inputs p.outputs ∧
          ∃ new ∈ p.outputs, new.quantity ≤ 0 := by
  constructor
  · intro h
    have hr := ruling_rejection? p
    generalize p.judgement.rejection? = outcome at h hr
    cases hr with
    | unknownIntent tag => exact .inl tag
    | cardinality => exact absurd (Option.some.inj h) (Intent.malformed_ne _)
    | quantity tag fit nonpositive => exact .inr ⟨_, tag, fit, nonpositive⟩
    | permitted => cases h
    | forbidden => exact absurd (Option.some.inj h) (Intent.malformed_ne _)
  · rintro (tag | ⟨i, tag, fit, nonpositive⟩)
    · exact (Ruling.unknownIntent tag).rejection?_eq
    · exact (Ruling.quantity tag fit nonpositive).rejection?_eq

theorem eq_of_rejection?_eq_malformed {p : Proposal} {i j : Intent} (hi : i.SpelledBy p.intent)
    (h : p.judgement.rejection? = some j.malformed) : i = j := by
  have hr := ruling_rejection? p
  generalize p.judgement.rejection? = outcome at h hr
  cases hr with
  | unknownIntent tag => exact absurd hi (tag i)
  | cardinality tag =>
    exact (hi.unique tag).trans (Intent.malformed_injective (Option.some.inj h))
  | quantity => exact absurd (Option.some.inj h).symm (Intent.malformed_ne j)
  | permitted => cases h
  | forbidden tag =>
    exact (hi.unique tag).trans (Intent.malformed_injective (Option.some.inj h))

/-- The verifier returns the ruling of the table on every proposal. So the reason that belongs to
no intent is given in two rows only, and an intent reports no other intent as malformed. -/
theorem rejection?_eq_iff_ruling (p : Proposal) :
    [Intent.issue, .move, .redeem].map (fun i => (i.tag, i.cardinality, i.malformed)) =
      [("Issue", (0, 1), .issueMalformed), ("Move", (1, 1), .moveMalformed),
        ("Redeem", (1, 0), .redeemMalformed)] ∧
    (∀ outcome, p.judgement.rejection? = outcome ↔ Ruling p outcome) ∧
    (p.judgement.rejection? = some .unknownIntentOrInvalidQuantity ↔
      (∀ i : Intent, ¬ i.SpelledBy p.intent) ∨
        ∃ i : Intent, i.SpelledBy p.intent ∧ i.Fits p.inputs p.outputs ∧
          ∃ new ∈ p.outputs, new.quantity ≤ 0) ∧
    ∀ i j : Intent, i.SpelledBy p.intent → p.judgement.rejection? = some j.malformed → i = j := by
  refine ⟨rfl, fun outcome => ⟨?_, Ruling.rejection?_eq⟩, rejection?_eq_unknown_iff, ?_⟩
  · rintro rfl
    exact ruling_rejection? p
  · intro i j hi h
    exact eq_of_rejection?_eq_malformed hi h

end TokenLedger
