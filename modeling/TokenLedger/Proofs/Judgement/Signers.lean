import TokenLedger.Event
import TokenLedger.Proofs.Judgement.Order

/-! # Signers that count

The rules ask for the signatures of issuers and of those whose records are consumed. Sets of signers
that agree on these are judged alike, whoever else has signed.
-/
namespace TokenLedger

/-- Either all of the parties that the rules can ask for have signed both or neither. -/
def Signers.Agree (inputs outputs : List Record) (signers others : Signers) : Prop :=
  (∀ r ∈ inputs ++ outputs, r.issuer ∈ signers ↔ r.issuer ∈ others) ∧
    ∀ old ∈ inputs, old.holder ∈ signers ↔ old.holder ∈ others

section
variable {i : Intent} {inputs outputs : List Record} {signers others : Signers}

theorem Rule.holds_congr (h : signers.Agree inputs outputs others) (rule : Rule) :
    rule.Holds i inputs outputs signers ↔ rule.Holds i inputs outputs others := by
  obtain ⟨hissuer, hholder⟩ := h
  cases rule with
  | issuerSigns => exact forall₂_congr hissuer
  | currentHolderSigns => exact forall₂_congr hholder
  | holderSigns => exact forall₂_congr hholder
  | _ => exact Iff.rfl

theorem brokenRule?_congr (h : signers.Agree inputs outputs others) :
    brokenRule? i inputs outputs signers = brokenRule? i inputs outputs others := by
  rw [brokenRule?_eq_find?, brokenRule?_eq_find?]
  congr 1
  funext rule
  simp only [Rule.holds_congr h rule]

end

namespace Proposal
variable {p : Proposal} {signers : Signers}

def JudgedAs (p q : Proposal) : Prop := p.verdict = q.verdict ∧ p.event = q.event

/-- A judgement knows the records by the first rule that they break and by their numbers. -/
theorem judgedAs_of_brokenRule?_eq {p q : Proposal} (hintent : p.intent = q.intent)
    (hin : p.inputs.length = q.inputs.length) (hout : p.outputs.length = q.outputs.length)
    (hbroken : ∀ i, p.parsedIntent? = some i → brokenRule? i p.inputs p.outputs p.signers =
      brokenRule? i q.inputs q.outputs q.signers) : JudgedAs p q := by
  have htag : p.parsedIntent? = q.parsedIntent? := congrArg Intent.ofText? hintent
  unfold JudgedAs verdict judgement event
  rw [← htag, ← hintent]
  cases hi : p.parsedIntent? with
  | none => exact ⟨rfl, rfl⟩
  | some i =>
    have hb := hbroken i hi
    simp only [Judgement.ofIntent, Event.ofIntent, hb, hin, hout, and_self]

theorem judgedAs_of_agree (h : signers.Agree p.inputs p.outputs p.signers) :
    JudgedAs { p with signers } p :=
  judgedAs_of_brokenRule?_eq rfl rfl rfl fun _ _ => brokenRule?_congr h

/-- A party that no record names signs in vain. -/
theorem agree_of_unnamed {x : Party}
    (hx : ∀ r ∈ p.inputs ++ p.outputs, r.issuer ≠ x ∧ r.holder ≠ x)
    (hs : ∀ y, y ≠ x → (y ∈ signers ↔ y ∈ p.signers)) :
    signers.Agree p.inputs p.outputs p.signers := by
  constructor
  · intro r hr
    exact hs r.issuer (hx r hr).1
  · intro old hold
    exact hs old.holder (hx old (List.mem_append_left _ hold)).2

theorem judgedAs_insert_of_unnamed {x : Party}
    (hx : ∀ r ∈ p.inputs ++ p.outputs, r.issuer ≠ x ∧ r.holder ≠ x) :
    JudgedAs { p with signers := p.signers.insert x } p := by
  refine judgedAs_of_agree (agree_of_unnamed hx fun y hy => ?_)
  rw [Signers.mem_insert]
  exact or_iff_right hy

theorem judgedAs_erase_of_unnamed {x : Party}
    (hx : ∀ r ∈ p.inputs ++ p.outputs, r.issuer ≠ x ∧ r.holder ≠ x) :
    JudgedAs { p with signers := p.signers.erase x } p := by
  refine judgedAs_of_agree (agree_of_unnamed hx fun y hy => ?_)
  rw [Signers.mem_erase]
  exact and_iff_right hy

end Proposal

end TokenLedger
