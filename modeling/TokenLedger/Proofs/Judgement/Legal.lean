import TokenLedger.Proofs.Intent.Spelling
import TokenLedger.Verdict

/-! # Legal transactions

What the verifier asks of a transaction, in three parts that do not mention the order in which it
looks at them: the numbers of records, the outputs' quantities, and what the intent permits.
`brokenRule?` finds no broken rule exactly if all three hold, and `Legal` lists the forms that are
left then.
-/
namespace TokenLedger

def Intent.Fits (i : Intent) (inputs outputs : List Record) : Prop :=
  (inputs.length, outputs.length) = i.cardinality

/-- What an intent asks of the records once their numbers are right: an issuer signs what it
issues, a holder signs what it hands on unchanged to someone else, and both sign what they
redeem. -/
def Intent.Permits (i : Intent) (inputs outputs : List Record) (signers : Signers) : Prop :=
  match i with
  | .issue => ∀ new ∈ outputs, new.issuer ∈ signers
  | .move => ∀ old ∈ inputs, ∀ new ∈ outputs, old.issuer = new.issuer ∧
      old.quantity = new.quantity ∧ old.holder ≠ new.holder ∧ old.holder ∈ signers
  | .redeem => ∀ old ∈ inputs, old.issuer ∈ signers ∧ old.holder ∈ signers

namespace Shape

def intent : Shape → Intent
  | .issue _ => .issue
  | .move _ _ => .move
  | .redeem _ => .redeem

def inputs : Shape → List Record
  | .issue _ => []
  | .move old _ => [old]
  | .redeem old => [old]

def outputs : Shape → List Record
  | .issue new => [new]
  | .move _ new => [new]
  | .redeem _ => []

variable {i : Intent} {inputs outputs : List Record} {signers : Signers}

@[simp] theorem ofRecords?_records (shape : Shape) :
    ofRecords? shape.intent shape.inputs shape.outputs = some shape := by
  cases shape <;> rfl

theorem exists_of_fits (h : i.Fits inputs outputs) :
    ∃ shape : Shape, shape.intent = i ∧ shape.inputs = inputs ∧ shape.outputs = outputs := by
  obtain ⟨hi, ho⟩ := Prod.mk.inj h
  cases i with
  | issue =>
    obtain ⟨new, rfl⟩ := List.length_eq_one_iff.mp ho
    obtain rfl := List.length_eq_zero_iff.mp hi
    exact ⟨.issue new, rfl, rfl, rfl⟩
  | move =>
    obtain ⟨old, rfl⟩ := List.length_eq_one_iff.mp hi
    obtain ⟨new, rfl⟩ := List.length_eq_one_iff.mp ho
    exact ⟨.move old new, rfl, rfl, rfl⟩
  | redeem =>
    obtain ⟨old, rfl⟩ := List.length_eq_one_iff.mp hi
    obtain rfl := List.length_eq_zero_iff.mp ho
    exact ⟨.redeem old, rfl, rfl, rfl⟩

theorem fits (shape : Shape) : shape.intent.Fits shape.inputs shape.outputs := by
  cases shape <;> rfl

theorem ofRecords?_eq_none (h : ¬ i.Fits inputs outputs) : ofRecords? i inputs outputs = none := by
  unfold ofRecords?
  split
  · exact absurd rfl h
  · exact absurd rfl h
  · exact absurd rfl h
  · rfl

theorem brokenRule?_eq_none_iff {shape : Shape} :
    shape.brokenRule? signers = none ↔
      shape.intent.Permits shape.inputs shape.outputs signers := by
  cases shape with
  | issue new => simp [brokenRule?, intent, Shape.outputs, Intent.Permits]
  | move old new =>
    simp only [brokenRule?, intent, Shape.inputs, Shape.outputs, Intent.Permits,
      List.mem_singleton, forall_eq]
    grind
  | redeem old =>
    simp only [brokenRule?, intent, Shape.inputs, Intent.Permits, List.mem_singleton, forall_eq]
    grind

theorem brokenRule?_ne_outputPositive (shape : Shape) :
    shape.brokenRule? signers ≠ some .outputPositive := by
  cases shape with
  | issue new => grind [brokenRule?]
  | move old new => grind [brokenRule?]
  | redeem old => grind [brokenRule?]

theorem rejection_of_brokenRule? {shape : Shape} {rule : Rule}
    (h : shape.brokenRule? signers = some rule) : rule.rejection i = i.malformed := by
  refine Rule.rejection_eq_malformed ?_
  rintro rfl
  exact shape.brokenRule?_ne_outputPositive h

end Shape

section
variable {i : Intent} {inputs outputs : List Record} {signers : Signers}

theorem brokenRule?_of_not_fits (h : ¬ i.Fits inputs outputs) :
    brokenRule? i inputs outputs signers = some .cardinality := by
  rw [brokenRule?, Shape.ofRecords?_eq_none h]

/-- Outputs are looked at once the records fit, and before anything else. -/
theorem brokenRule?_of_nonpositive (h : i.Fits inputs outputs)
    (hq : ∃ new ∈ outputs, new.quantity ≤ 0) :
    brokenRule? i inputs outputs signers = some .outputPositive := by
  obtain ⟨shape, rfl, rfl, rfl⟩ := Shape.exists_of_fits h
  rw [brokenRule?, Shape.ofRecords?_records]
  exact if_pos (List.any_eq_true.mpr (by simpa using hq))

theorem brokenRule?_of_positive (shape : Shape) (hq : ∀ new ∈ shape.outputs, 0 < new.quantity) :
    brokenRule? shape.intent shape.inputs shape.outputs signers = shape.brokenRule? signers := by
  rw [brokenRule?, Shape.ofRecords?_records]
  refine if_neg fun h => ?_
  obtain ⟨new, hn, hle⟩ := List.any_eq_true.mp h
  exact Int64.not_le.mpr (hq new hn) (of_decide_eq_true hle)

theorem exists_brokenRule?_of_forbidden (h : i.Fits inputs outputs)
    (hq : ∀ new ∈ outputs, 0 < new.quantity) (hp : ¬ i.Permits inputs outputs signers) :
    ∃ rule, brokenRule? i inputs outputs signers = some rule ∧ rule.rejection i = i.malformed := by
  obtain ⟨shape, rfl, rfl, rfl⟩ := Shape.exists_of_fits h
  rw [brokenRule?_of_positive shape hq]
  cases hb : shape.brokenRule? signers with
  | none => exact absurd (Shape.brokenRule?_eq_none_iff.mp hb) hp
  | some rule => exact ⟨rule, rfl, Shape.rejection_of_brokenRule? hb⟩

/-- The verifier finds nothing wrong exactly with the transactions that fit their intent, produce
positive quantities only, and are permitted. -/
theorem brokenRule?_eq_none_iff :
    brokenRule? i inputs outputs signers = none ↔
      i.Fits inputs outputs ∧ (∀ new ∈ outputs, 0 < new.quantity) ∧
        i.Permits inputs outputs signers := by
  by_cases hf : i.Fits inputs outputs
  · by_cases hq : ∀ new ∈ outputs, 0 < new.quantity
    · obtain ⟨shape, rfl, rfl, rfl⟩ := Shape.exists_of_fits hf
      rw [brokenRule?_of_positive shape hq, Shape.brokenRule?_eq_none_iff]
      exact ⟨fun hp => ⟨hf, hq, hp⟩, fun h => h.2.2⟩
    · have hn : ∃ new ∈ outputs, new.quantity ≤ 0 := by simpa [Int64.not_lt] using hq
      rw [brokenRule?_of_nonpositive hf hn]
      exact ⟨fun h => (by cases h), fun h => absurd h.2.1 hq⟩
  · rw [brokenRule?_of_not_fits hf]
    exact ⟨fun h => (by cases h), fun h => absurd h.1 hf⟩

end

/-- The forms of legal transactions. -/
inductive Legal (signers : Signers) : Intent → List Record → List Record → Prop
  | issue {new : Record} (positive : 0 < new.quantity) (issuerSigns : new.issuer ∈ signers) :
    Legal signers .issue [] [new]
  | move {old new : Record} (positive : 0 < new.quantity) (issuer : old.issuer = new.issuer)
    (quantity : old.quantity = new.quantity) (holder : old.holder ≠ new.holder)
    (holderSigns : old.holder ∈ signers) : Legal signers .move [old] [new]
  | redeem {old : Record} (issuerSigns : old.issuer ∈ signers)
    (holderSigns : old.holder ∈ signers) : Legal signers .redeem [old] []

theorem legal_iff {i : Intent} {inputs outputs : List Record} {signers : Signers} :
    Legal signers i inputs outputs ↔ brokenRule? i inputs outputs signers = none := by
  rw [brokenRule?_eq_none_iff]
  constructor
  · intro h
    cases h with
    | issue hq hs => exact ⟨rfl, by simpa using hq, by simpa [Intent.Permits] using hs⟩
    | move hq hi hk hh hs =>
      exact ⟨rfl, by simpa using hq, by simpa [Intent.Permits] using ⟨hi, hk, hh, hs⟩⟩
    | redeem hi hh => exact ⟨rfl, by simp, by simpa [Intent.Permits] using ⟨hi, hh⟩⟩
  · rintro ⟨hf, hq, hp⟩
    obtain ⟨shape, rfl, rfl, rfl⟩ := Shape.exists_of_fits hf
    cases shape with
    | issue new =>
      exact .issue (hq new (by simp [Shape.outputs])) (hp new (by simp [Shape.outputs]))
    | move old new =>
      obtain ⟨hi, hk, hh, hs⟩ := hp old (by simp [Shape.inputs]) new (by simp [Shape.outputs])
      exact .move (hq new (by simp [Shape.outputs])) hi hk hh hs
    | redeem old =>
      obtain ⟨hi, hh⟩ := hp old (by simp [Shape.inputs])
      exact .redeem hi hh

/-- What is accepted: a spelling of an intent, with a legal transaction of that intent. -/
theorem Proposal.verdict_eq_accepted_iff {p : Proposal} :
    p.verdict = .accepted ↔
      ∃ i, p.parsedIntent? = some i ∧ Legal p.signers i p.inputs p.outputs := by
  simp only [Proposal.verdict, Proposal.judgement, Judgement.verdict]
  cases hi : p.parsedIntent? with
  | none => simp [Judgement.rejection?]
  | some i =>
    cases hb : brokenRule? i p.inputs p.outputs p.signers with
    | none => simp [Judgement.ofIntent, hb, Judgement.rejection?, legal_iff]
    | some rule => simp [Judgement.ofIntent, hb, Judgement.rejection?, legal_iff]

end TokenLedger
