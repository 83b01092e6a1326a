import Mathlib.Data.List.Find
import TokenLedger.Proofs.Judgement.Ruling
import TokenLedger.Proofs.Judgement.Signers

/-! # Signatures

An intent asks for signatures last, when all that it asks of the records is in order. So a broken
rule on the records is the same whoever has signed, and it is the one that is left when everyone who
is named has signed. Otherwise signatures alone decide, and further ones can only help.
-/
namespace TokenLedger

def Rule.asksSignature : Rule → Bool
  | .issuerSigns | .currentHolderSigns | .holderSigns => true
  | .cardinality | .outputPositive | .issuerPreserved | .quantityPreserved | .holderChanges => false

namespace Intent

def recordRules (i : Intent) : List Rule := i.rules.filter fun rule => !rule.asksSignature

def signatureRules (i : Intent) : List Rule := i.rules.filter Rule.asksSignature

theorem rules_eq_append (i : Intent) : i.rules = i.recordRules ++ i.signatureRules := by
  cases i <;> rfl

end Intent

def Signers.named (inputs outputs : List Record) : Signers :=
  .ofList ((inputs ++ outputs).flatMap fun r => [r.issuer, r.holder])

theorem Signers.mem_named {inputs outputs : List Record} {x : Party} :
    x ∈ named inputs outputs ↔ ∃ r ∈ inputs ++ outputs, x = r.issuer ∨ x = r.holder := by
  simp only [named, mem_ofList, List.mem_flatMap, List.mem_cons, List.not_mem_nil, or_false]

namespace Rule
variable {rule : Rule} {i : Intent} {inputs outputs : List Record} {signers more : Signers}

theorem holds_iff_of_records (h : rule.asksSignature = false) (signers others : Signers) :
    rule.Holds i inputs outputs signers ↔ rule.Holds i inputs outputs others := by
  cases rule with
  | issuerSigns => cases h
  | currentHolderSigns => cases h
  | holderSigns => cases h
  | _ => exact Iff.rfl

theorem Holds.mono (h : rule.Holds i inputs outputs signers) (hs : ∀ x ∈ signers, x ∈ more) :
    rule.Holds i inputs outputs more := by
  cases rule with
  | issuerSigns => exact fun r hr => hs r.issuer (h r hr)
  | currentHolderSigns => exact fun old ho => hs old.holder (h old ho)
  | holderSigns => exact fun old ho => hs old.holder (h old ho)
  | _ => exact h

theorem holds_named (h : rule.asksSignature = true) :
    rule.Holds i inputs outputs (.named inputs outputs) := by
  have hissuer : ∀ r ∈ inputs ++ outputs, r.issuer ∈ Signers.named inputs outputs :=
    fun r hr => Signers.mem_named.mpr ⟨r, hr, .inl rfl⟩
  have hholder : ∀ old ∈ inputs, old.holder ∈ Signers.named inputs outputs :=
    fun old ho => Signers.mem_named.mpr ⟨old, List.mem_append_left _ ho, .inr rfl⟩
  cases rule with
  | issuerSigns => exact hissuer
  | currentHolderSigns => exact hholder
  | holderSigns => exact hholder
  | _ => cases h

end Rule

section
variable {i : Intent} {inputs outputs : List Record} {signers more : Signers}

def lackedSignature? (i : Intent) (inputs outputs : List Record) (signers : Signers) :
    Option Rule :=
  i.signatureRules.find? fun rule => ¬ rule.Holds i inputs outputs signers

theorem asksSignature_of_lackedSignature? {rule : Rule}
    (h : lackedSignature? i inputs outputs signers = some rule) : rule.asksSignature = true :=
  (List.mem_filter.mp (List.mem_of_find?_eq_some h)).2

theorem lackedSignature?_eq_none_iff :
    lackedSignature? i inputs outputs signers = none ↔
      ∀ rule ∈ i.signatureRules, rule.Holds i inputs outputs signers := by
  simp [lackedSignature?, List.find?_eq_none]

theorem lackedSignature?_named : lackedSignature? i inputs outputs (.named inputs outputs) = none :=
  lackedSignature?_eq_none_iff.mpr fun _ hrule => Rule.holds_named (List.mem_filter.mp hrule).2

theorem lackedSignature?_mono (hs : ∀ x ∈ signers, x ∈ more)
    (h : lackedSignature? i inputs outputs signers = none) :
    lackedSignature? i inputs outputs more = none := by
  rw [lackedSignature?_eq_none_iff] at h ⊢
  intro rule hrule
  exact (h rule hrule).mono hs

/-- Either a rule on the records is broken, whoever has signed, or signatures alone decide. -/
theorem brokenRule?_records_or_signatures (i : Intent) (inputs outputs : List Record) :
    (∃ rule, rule.asksSignature = false ∧
      ∀ signers, brokenRule? i inputs outputs signers = some rule) ∨
    ∀ signers,
      brokenRule? i inputs outputs signers = lackedSignature? i inputs outputs signers := by
  have hsplit : ∀ signers, brokenRule? i inputs outputs signers =
      (i.recordRules.find? fun rule => ¬ rule.Holds i inputs outputs signers).or
        (lackedSignature? i inputs outputs signers) := by
    intro signers
    rw [brokenRule?_eq_find?, i.rules_eq_append, List.find?_append]
    rfl
  have hrecords : ∀ rule ∈ i.recordRules, rule.asksSignature = false := by
    intro rule hrule
    simpa using (List.mem_filter.mp hrule).2
  -- Rules on records hold for all signers alike, so that those of nobody can stand for all.
  have hsame : ∀ signers,
      (i.recordRules.find? fun rule => ¬ rule.Holds i inputs outputs signers) =
        i.recordRules.find? fun rule => ¬ rule.Holds i inputs outputs .empty := by
    intro signers
    apply List.find?_congr
    intro rule hrule
    simp only [Rule.holds_iff_of_records (hrecords rule hrule) signers .empty]
  cases hb : i.recordRules.find? fun rule => ¬ rule.Holds i inputs outputs .empty with
  | none =>
    right
    intro signers
    rw [hsplit, hsame, hb, Option.none_or]
  | some rule =>
    left
    refine ⟨rule, hrecords rule (List.mem_of_find?_eq_some hb), fun signers => ?_⟩
    rw [hsplit, hsame, hb, Option.some_or]

end

namespace Proposal
variable {p : Proposal} {i : Intent} {signers more : Signers}

def signedBy (p : Proposal) (signers : Signers) : Proposal := { p with signers }

/-- The proposal is turned down for a signature that is missing: that rule is the first that does
not hold, and it is the one that is logged. -/
def LacksSignature (p : Proposal) (reason : Rejection) : Prop :=
  ∃ i rule, rule.asksSignature = true ∧ FirstBroken i p.inputs p.outputs p.signers rule ∧
    p.verdict = .rejected reason ∧ p.event = .ruleBroken i rule reason

section
variable (hi : p.parsedIntent? = some i)
include hi

theorem judgedAs_signedBy
    (h : brokenRule? i p.inputs p.outputs signers = brokenRule? i p.inputs p.outputs more) :
    (p.signedBy signers).JudgedAs (p.signedBy more) := by
  refine judgedAs_of_brokenRule?_eq rfl rfl rfl fun j hj => ?_
  obtain rfl : i = j := Option.some.inj (hi.symm.trans hj)
  exact h

theorem accepted_signedBy (h : brokenRule? i p.inputs p.outputs signers = none) :
    (p.signedBy signers).verdict = .accepted := by
  have tag : i.SpelledBy (p.signedBy signers).intent := Intent.ofText?_eq_some_iff.mp hi
  rw [verdict_of_spelledBy tag, signedBy, h]

theorem lacksSignature_signedBy {rule : Rule} (hasks : rule.asksSignature = true)
    (h : brokenRule? i p.inputs p.outputs signers = some rule) :
    (p.signedBy signers).LacksSignature i.malformed := by
  have tag : i.SpelledBy (p.signedBy signers).intent := Intent.ofText?_eq_some_iff.mp hi
  have hreason : rule.rejection i = i.malformed := by
    apply Rule.rejection_eq_malformed
    rintro rfl
    cases hasks
  have hv := verdict_of_spelledBy tag
  have he := event_of_spelledBy tag
  simp only [signedBy, h, hreason] at hv he
  exact ⟨i, rule, hasks, brokenRule?_eq_some_iff.mp h, hv, he⟩

end

theorem judgedAs_signedBy_of_unknownIntent (hi : p.parsedIntent? = none) :
    (p.signedBy signers).JudgedAs (p.signedBy more) := by
  refine judgedAs_of_brokenRule?_eq rfl rfl rfl fun i hi' => ?_
  cases hi.symm.trans hi'

/-- What is rejected although all who are named have signed is rejected alike whoever signs. -/
theorem judgedAs_named (h : (p.signedBy (.named p.inputs p.outputs)).verdict ≠ .accepted)
    (signers : Signers) :
    (p.signedBy signers).JudgedAs (p.signedBy (.named p.inputs p.outputs)) := by
  cases hi : p.parsedIntent? with
  | none => exact judgedAs_signedBy_of_unknownIntent hi
  | some i =>
    rcases brokenRule?_records_or_signatures i p.inputs p.outputs with ⟨rule, _, hall⟩ | hall
    · apply judgedAs_signedBy hi
      rw [hall, hall]
    · have hnone := (hall (.named p.inputs p.outputs)).trans lackedSignature?_named
      exact absurd (accepted_signedBy hi hnone) h

/-- Further signatures change nothing unless one was missing. Then they lead to acceptance, or the
rejection stays and another signature is missing. -/
theorem judgedAs_or_lacksSignature (p : Proposal) (hs : ∀ x ∈ signers, x ∈ more) :
    (p.signedBy more).JudgedAs (p.signedBy signers) ∨
      ∃ reason, (p.signedBy signers).LacksSignature reason ∧
        ((p.signedBy more).verdict = .accepted ∨ (p.signedBy more).LacksSignature reason) := by
  cases hi : p.parsedIntent? with
  | none => exact .inl (judgedAs_signedBy_of_unknownIntent hi)
  | some i =>
    rcases brokenRule?_records_or_signatures i p.inputs p.outputs with ⟨rule, _, hall⟩ | hall
    · left
      apply judgedAs_signedBy hi
      rw [hall, hall]
    · cases hl : lackedSignature? i p.inputs p.outputs signers with
      | none =>
        left
        apply judgedAs_signedBy hi
        rw [hall, hall, hl, lackedSignature?_mono hs hl]
      | some rule =>
        right
        have hasks := asksSignature_of_lackedSignature? hl
        refine ⟨i.malformed, lacksSignature_signedBy hi hasks ((hall signers).trans hl), ?_⟩
        cases hm : lackedSignature? i p.inputs p.outputs more with
        | none => exact .inl (accepted_signedBy hi ((hall more).trans hm))
        | some other =>
          have hasks' := asksSignature_of_lackedSignature? hm
          exact .inr (lacksSignature_signedBy hi hasks' ((hall more).trans hm))

theorem accepted_of_more_signers (p : Proposal) (hs : ∀ x ∈ signers, x ∈ more)
    (h : (p.signedBy signers).verdict = .accepted) : (p.signedBy more).verdict = .accepted := by
  rcases judgedAs_or_lacksSignature p hs with ⟨hv, _⟩ | ⟨reason, ⟨_, _, _, _, hv, _⟩, _⟩
  · exact hv.trans h
  · rw [h] at hv
    cases hv

/-- Signers count where the rules name them, and in favour of a proposal only. Sets that agree on
the issuers and on the holders of inputs are judged alike. A larger set is judged alike too, unless
the smaller one lacked a signature. And a rejection that is left when all who are named have signed
is there under every set. -/
theorem signatures_only_help (p : Proposal) :
    (∀ signers others : Signers, signers.Agree p.inputs p.outputs others →
      (p.signedBy signers).JudgedAs (p.signedBy others)) ∧
    (∀ signers more : Signers, (∀ x ∈ signers, x ∈ more) →
      ((p.signedBy more).JudgedAs (p.signedBy signers) ∨
        ∃ reason, (p.signedBy signers).LacksSignature reason ∧
          ((p.signedBy more).verdict = .accepted ∨ (p.signedBy more).LacksSignature reason)) ∧
      ((p.signedBy signers).verdict = .accepted → (p.signedBy more).verdict = .accepted)) ∧
    ((p.signedBy (.named p.inputs p.outputs)).verdict ≠ .accepted →
      ∀ signers : Signers,
        (p.signedBy signers).JudgedAs (p.signedBy (.named p.inputs p.outputs))) := by
  refine ⟨?agree, ?more, judgedAs_named⟩
  case agree =>
    intro signers others h
    exact judgedAs_of_agree (p := p.signedBy others) h
  case more =>
    intro signers more hs
    exact ⟨judgedAs_or_lacksSignature p hs, accepted_of_more_signers p hs⟩

def deposit : Record := ⟨.ofByte 70, .ofByte 71, 5, by decide, by decide⟩

def withdrawal : Record := ⟨.ofByte 70, .ofByte 72, 4, by decide, by decide⟩

/-- A redemption gets further with each signature that it lacks. A move that changes the quantity is
turned down for that before anyone's signature is looked at. -/
theorem signatures_only_help_deposit :
    let p : Proposal := ⟨[deposit], [], "redeem", .empty⟩
    let q : Proposal := ⟨[deposit], [withdrawal], "Move", .empty⟩
    let issuerAlone : Signers := .ofList [.ofByte 70]
    let both : Signers := .ofList [.ofByte 70, .ofByte 71]
    (p.signedBy issuerAlone).LacksSignature .redeemMalformed ∧
      (p.signedBy both).verdict = .accepted ∧
      (p.signedBy (both.insert (.ofByte 73))).JudgedAs (p.signedBy both) ∧
      ∀ signers, (q.signedBy signers).JudgedAs (q.signedBy (.named [deposit] [withdrawal])) := by
  intro p q issuerAlone both
  obtain ⟨hagree, hmore, _⟩ := signatures_only_help p
  obtain ⟨_, _, hnamed⟩ := signatures_only_help q
  have hlacking : (p.signedBy issuerAlone).verdict = .rejected .redeemMalformed := by decide +kernel
  have hboth : (p.signedBy both).verdict = .accepted := by decide +kernel
  have hsub : ∀ x ∈ issuerAlone, x ∈ both := by
    intro x hx
    rw [Signers.mem_ofList] at hx ⊢
    exact List.mem_cons.mpr (.inl (List.mem_singleton.mp hx))
  have hsame : Signers.Agree p.inputs p.outputs (both.insert (.ofByte 73)) both := by
    refine agree_of_unnamed (p := p.signedBy both) (x := .ofByte 73) ?_ fun y hy => ?_
    · intro r hr
      obtain rfl : r = deposit := List.mem_singleton.mp hr
      decide
    · exact Signers.mem_insert.trans (or_iff_right hy)
  refine ⟨?lacking, hboth, hagree _ _ hsame, hnamed (by decide +kernel)⟩
  case lacking =>
    rcases (hmore issuerAlone both hsub).1 with ⟨hv, _⟩ | ⟨reason, hl, _⟩
    · rw [hboth, hlacking] at hv
      cases hv
    · obtain ⟨_, _, _, _, hv, _⟩ := id hl
      rw [hlacking] at hv
      exact Verdict.rejected.inj hv ▸ hl

end Proposal

end TokenLedger
