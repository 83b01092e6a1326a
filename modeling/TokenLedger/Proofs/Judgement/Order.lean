import TokenLedger.Proofs.Judgement.Legal

/-! # Order of the rules

What each rule says, and the order in which an intent asks for its rules. The verifier names the
first of them that does not hold, and nothing if all of them do.
-/
namespace TokenLedger

def Intent.rules : Intent → List Rule
  | .issue => [.cardinality, .outputPositive, .issuerSigns]
  | .move => [.cardinality, .outputPositive, .issuerPreserved, .quantityPreserved, .holderChanges,
      .currentHolderSigns]
  | .redeem => [.cardinality, .outputPositive, .issuerSigns, .holderSigns]

def Rule.Holds (i : Intent) (inputs outputs : List Record) (signers : Signers) : Rule → Prop
  | .cardinality => i.Fits inputs outputs
  | .outputPositive => ∀ new ∈ outputs, 0 < new.quantity
  | .issuerSigns => ∀ r ∈ inputs ++ outputs, r.issuer ∈ signers
  | .issuerPreserved => ∀ old ∈ inputs, ∀ new ∈ outputs, old.issuer = new.issuer
  | .quantityPreserved => ∀ old ∈ inputs, ∀ new ∈ outputs, old.quantity = new.quantity
  | .holderChanges => ∀ old ∈ inputs, ∀ new ∈ outputs, old.holder ≠ new.holder
  | .currentHolderSigns | .holderSigns => ∀ old ∈ inputs, old.holder ∈ signers

section
variable (i : Intent) (inputs outputs : List Record) (signers : Signers)

instance Rule.decidableHolds : (rule : Rule) → Decidable (rule.Holds i inputs outputs signers)
  | .cardinality => inferInstanceAs (Decidable ((inputs.length, outputs.length) = i.cardinality))
  | .outputPositive => inferInstanceAs (Decidable (∀ new ∈ outputs, 0 < new.quantity))
  | .issuerSigns => inferInstanceAs (Decidable (∀ r ∈ inputs ++ outputs, r.issuer ∈ signers))
  | .issuerPreserved =>
    inferInstanceAs (Decidable (∀ old ∈ inputs, ∀ new ∈ outputs, old.issuer = new.issuer))
  | .quantityPreserved =>
    inferInstanceAs (Decidable (∀ old ∈ inputs, ∀ new ∈ outputs, old.quantity = new.quantity))
  | .holderChanges =>
    inferInstanceAs (Decidable (∀ old ∈ inputs, ∀ new ∈ outputs, old.holder ≠ new.holder))
  | .currentHolderSigns => inferInstanceAs (Decidable (∀ old ∈ inputs, old.holder ∈ signers))
  | .holderSigns => inferInstanceAs (Decidable (∀ old ∈ inputs, old.holder ∈ signers))

/-- The rule does not hold, and all that are looked at before it do. -/
def FirstBroken (rule : Rule) : Prop :=
  ∃ earlier later, i.rules = earlier ++ rule :: later ∧
    (∀ r ∈ earlier, r.Holds i inputs outputs signers) ∧ ¬ rule.Holds i inputs outputs signers

end

section
variable {i : Intent} {inputs outputs : List Record} {signers : Signers}

theorem Shape.brokenRule?_eq_find? (shape : Shape) (hq : ∀ new ∈ shape.outputs, 0 < new.quantity) :
    shape.brokenRule? signers = shape.intent.rules.find? fun rule =>
      ¬ rule.Holds shape.intent shape.inputs shape.outputs signers := by
  have hc : Rule.cardinality.Holds shape.intent shape.inputs shape.outputs signers := shape.fits
  have ho : Rule.outputPositive.Holds shape.intent shape.inputs shape.outputs signers := hq
  cases shape with
  | issue new =>
    simp only [Shape.intent, Shape.inputs, Shape.outputs] at hc ho ⊢
    simp only [Intent.rules, List.find?_cons, hc, ho, not_true_eq_false, decide_false, brokenRule?]
    by_cases hs : new.issuer ∈ signers <;> simp [Rule.Holds, hs]
  | move old new =>
    simp only [Shape.intent, Shape.inputs, Shape.outputs] at hc ho ⊢
    simp only [Intent.rules, List.find?_cons, hc, ho, not_true_eq_false, decide_false, brokenRule?]
    by_cases hi : old.issuer = new.issuer
    · by_cases hk : old.quantity = new.quantity
      · by_cases hh : old.holder = new.holder
        · simp [Rule.Holds, hi, hk, hh]
        · by_cases hs : old.holder ∈ signers <;> simp [Rule.Holds, hi, hk, hh, hs]
      · simp [Rule.Holds, hi, hk]
    · simp [Rule.Holds, hi]
  | redeem old =>
    simp only [Shape.intent, Shape.inputs, Shape.outputs] at hc ho ⊢
    simp only [Intent.rules, List.find?_cons, hc, ho, not_true_eq_false, decide_false, brokenRule?]
    by_cases hi : old.issuer ∈ signers
    · by_cases hh : old.holder ∈ signers <;> simp [Rule.Holds, hi, hh]
    · simp [Rule.Holds, hi]

theorem brokenRule?_eq_find? :
    brokenRule? i inputs outputs signers =
      i.rules.find? fun rule => ¬ rule.Holds i inputs outputs signers := by
  by_cases hf : i.Fits inputs outputs
  · by_cases hq : ∀ new ∈ outputs, 0 < new.quantity
    · obtain ⟨shape, rfl, rfl, rfl⟩ := Shape.exists_of_fits hf
      rw [brokenRule?_of_positive shape hq, shape.brokenRule?_eq_find? hq]
    · have hn : ∃ new ∈ outputs, new.quantity ≤ 0 := by simpa [Int64.not_lt] using hq
      rw [brokenRule?_of_nonpositive hf hn]
      cases i <;> simp [Intent.rules, Rule.Holds, hf, hn]
  · rw [brokenRule?_of_not_fits hf]
    cases i <;> simp [Intent.rules, Rule.Holds, hf]

theorem brokenRule?_eq_some_iff {rule : Rule} :
    brokenRule? i inputs outputs signers = some rule ↔
      FirstBroken i inputs outputs signers rule := by
  rw [brokenRule?_eq_find?, List.find?_eq_some_iff_append]
  constructor
  · rintro ⟨hrule, earlier, later, heq, hearlier⟩
    refine ⟨earlier, later, heq, fun r hr => ?_, of_decide_eq_true hrule⟩
    simpa using hearlier r hr
  · rintro ⟨earlier, later, heq, hearlier, hrule⟩
    refine ⟨decide_eq_true hrule, earlier, later, heq, fun r hr => ?_⟩
    simpa using hearlier r hr

end

end TokenLedger
