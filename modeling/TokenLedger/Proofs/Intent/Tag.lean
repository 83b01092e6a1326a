import TokenLedger.Proofs.Judgement.Ruling
import TokenLedger.Proofs.Text.LetterCase
import TokenLedger.Proofs.Wire.Reason
import TokenLedger.Wire.Proposal

/-! # Intents by their tags

What a text must be to name an intent, letter by letter, and what becomes of it: a proposal is
judged by the intent that its tag names, however the tag is spelled, and a tag that names none is a
rejection of its own. On the wire an intent alone is spelled exactly, which is one of its spellings.
-/
namespace TokenLedger

open Json

namespace Intent

/-- The letters of the tag, each of them small or capital, are all that is left of the text without
the blanks around it. -/
def FitsTag (i : Intent) (text : String) : Prop :=
  List.Forall₂ Text.SameLetter (Text.trim text.toList) i.tag.toList

theorem spelledBy_iff_fitsTag {i : Intent} {text : String} : i.SpelledBy text ↔ i.FitsTag text := by
  rw [spelledBy_iff_map_trim, Text.map_toLower_eq_iff_forall₂, FitsTag]

theorem ofText?_eq_some_iff_fitsTag {i : Intent} {text : String} :
    ofText? text = some i ↔ i.FitsTag text := by
  rw [ofText?_eq_some_iff, spelledBy_iff_fitsTag]

theorem ofText?_eq_none_iff_fitsTag {text : String} :
    ofText? text = none ↔ ∀ i : Intent, ¬ i.FitsTag text := by
  simp only [ofText?_eq_none_iff, spelledBy_iff_fitsTag]

theorem FitsTag.unique {i j : Intent} {text : String} (hi : i.FitsTag text)
    (hj : j.FitsTag text) : i = j :=
  (spelledBy_iff_fitsTag.mpr hi).unique (spelledBy_iff_fitsTag.mpr hj)

theorem tag_injective {i j : Intent} (h : i.tag = j.tag) : i = j := by
  revert h
  cases i <;> cases j <;> decide

/-- A string is read as the intent of which it is the tag, letter for letter. -/
theorem ofNode_string_eq_ok_iff {s : StringToken} {i : Intent} :
    ofNode (.string s) = .ok i ↔ s.value = .ok i.tag := by
  have hchoice : ∀ name, chooseVariant (all.map fun i => (i.tag, i)) name = .ok i ↔ i.tag = name :=
    fun name => chooseVariant_map_eq_ok_iff tag_injective (mem_all i)
  simp only [ofNode, Node.readVariant, bind_eq_ok_iff, liftText, mapError_eq_ok_iff, hchoice]
  constructor
  · rintro ⟨name, hname, rfl⟩
    exact hname
  · intro h
    exact ⟨i.tag, h, rfl⟩

def JsonStringOf (text name : String) : Prop :=
  ∃ n : Node, n.WrittenAs text ∧ n.IsString name

theorem ofJson_eq_ok_iff {text name : String} (h : JsonStringOf text name) {i : Intent} :
    ofJson text = .ok i ↔ name = i.tag := by
  obtain ⟨_, ht, s, rfl, hs⟩ := h
  rw [ofJson, ht.readText_eq, ofNode_string_eq_ok_iff, hs, Except.ok.injEq]

theorem jsonStringOf_compact (name : String) : JsonStringOf (Value.string name).compact name :=
  ⟨_, Value.writtenAs_compact rfl, _, rfl, StringToken.value_ofString name⟩

/-- Each tag has a spelling in which it is not an intent on the wire. -/
theorem exists_other_spelling (i : Intent) : ∃ name, ofText? name = some i ∧ name ≠ i.tag := by
  cases i with
  | issue => exact ⟨" issue", by decide, by decide⟩
  | move => exact ⟨" move", by decide, by decide⟩
  | redeem => exact ⟨" redeem", by decide, by decide⟩

end Intent

namespace Proposal
variable {p : Proposal} {i : Intent}

theorem judgement_of_fitsTag (h : i.FitsTag p.intent) :
    p.judgement = .ofIntent i p.inputs p.outputs p.signers := by
  have hi : p.parsedIntent? = some i := Intent.ofText?_eq_some_iff_fitsTag.mpr h
  rw [judgement, hi]

theorem event_of_fitsTag (h : i.FitsTag p.intent) :
    p.event = .ofIntent i p.inputs p.outputs p.signers := by
  have hi : p.parsedIntent? = some i := Intent.ofText?_eq_some_iff_fitsTag.mpr h
  rw [event, hi]

end Proposal

/-- A text names the intent whose tag it is, up to blanks around it and the case of its letters, and
no other text names one. Nothing but the intent that it names counts of the tag of a proposal. A
JSON string is an intent only if it is a tag letter for letter, and is then read alike as a tag. -/
theorem tags_recognised :
    (∀ text i, Intent.ofText? text = some i ↔ Intent.FitsTag i text) ∧
    (∀ text i j, Intent.FitsTag i text → Intent.FitsTag j text → i = j) ∧
    (∀ inputs outputs tag signers i, Intent.FitsTag i tag →
      (Proposal.mk inputs outputs tag signers).judgement =
        .ofIntent i inputs outputs signers) ∧
    (∀ inputs outputs tag signers, (∀ i, ¬ Intent.FitsTag i tag) →
      (Proposal.mk inputs outputs tag signers).judgement.rejection? =
        some .unknownIntentOrInvalidQuantity) ∧
    (∀ p q : Proposal, p.inputs = q.inputs → p.outputs = q.outputs → p.signers = q.signers →
      ∀ i, Intent.FitsTag i p.intent → Intent.FitsTag i q.intent →
      p.verdict = q.verdict ∧ p.event = q.event) ∧
    (∀ text name, Intent.JsonStringOf text name → ∀ i,
      (Intent.ofJson text = .ok i ↔ name = i.tag) ∧
        (Intent.ofJson text = .ok i → Intent.ofText? name = some i)) ∧
    ∀ i, ∃ text name, Intent.JsonStringOf text name ∧ Intent.ofText? name = some i ∧
      ∀ j, Intent.ofJson text ≠ .ok j := by
  refine ⟨fun _ _ => Intent.ofText?_eq_some_iff_fitsTag, fun _ _ _ => Intent.FitsTag.unique,
    ?_, ?_, ?_, ?_, ?_⟩
  · intro inputs outputs tag signers i h
    exact Proposal.judgement_of_fitsTag (p := ⟨inputs, outputs, tag, signers⟩) h
  · intro inputs outputs tag signers h
    refine rejection?_of_unknownIntent (p := ⟨inputs, outputs, tag, signers⟩) fun i hi => h i ?_
    exact Intent.spelledBy_iff_fitsTag.mp hi
  · intro p q hin hout hsigners i hp hq
    rw [Proposal.verdict, Proposal.verdict, Proposal.judgement_of_fitsTag hp,
      Proposal.judgement_of_fitsTag hq, Proposal.event_of_fitsTag hp, Proposal.event_of_fitsTag hq,
      hin, hout, hsigners]
    exact ⟨rfl, rfl⟩
  · intro text name hname i
    have htag := Intent.ofJson_eq_ok_iff hname (i := i)
    refine ⟨htag, fun hi => ?_⟩
    rw [htag.mp hi]
    exact Intent.ofText?_tag i
  · intro i
    obtain ⟨name, hi, hne⟩ := i.exists_other_spelling
    refine ⟨_, name, Intent.jsonStringOf_compact name, hi, fun j hj => ?_⟩
    obtain rfl := (Intent.ofJson_eq_ok_iff (Intent.jsonStringOf_compact name)).mp hj
    rw [Intent.ofText?_tag] at hi
    exact hne (congrArg Intent.tag (Option.some.inj hi))

/-- A move in mixed case behind a blank of Unicode, and an issue with another kind of `s`. -/
theorem tags_recognised_shouted :
    Intent.FitsTag .move "\u00A0mOVE\t" ∧
      (Proposal.mk [] [] "\u00A0mOVE\t" .empty).judgement = .ofIntent .move [] [] .empty ∧
      (Proposal.mk [] [] "\u00A0mOVE\t" .empty).event = (Proposal.mk [] [] "Move" .empty).event ∧
      (∀ i, ¬ Intent.FitsTag i "Iſſue") ∧
      (Proposal.mk [] [] "Iſſue" .empty).judgement.rejection? =
        some .unknownIntentOrInvalidQuantity ∧
      Intent.ofJson (Value.string "Redeem").compact = .ok .redeem ∧
      Intent.ofText? "Redeem" = some .redeem := by
  obtain ⟨hfits, _, hjudged, hunknown, hsame, hjson, _⟩ := tags_recognised
  have hmove : Intent.FitsTag .move "\u00A0mOVE\t" := (hfits _ _).mp (by decide)
  have hplain : Intent.FitsTag .move "Move" := (hfits _ _).mp (by decide)
  have hlong : ∀ i, ¬ Intent.FitsTag i "Iſſue" :=
    Intent.ofText?_eq_none_iff_fitsTag.mp (by decide)
  have halike := hsame ⟨[], [], "\u00A0mOVE\t", .empty⟩ ⟨[], [], "Move", .empty⟩ rfl rfl rfl
    .move hmove hplain
  obtain ⟨hread, htag⟩ := hjson _ _ (Intent.jsonStringOf_compact "Redeem") .redeem
  exact ⟨hmove, hjudged _ _ _ _ _ hmove, halike.2, hlong,
    hunknown _ _ _ _ hlong, hread.mpr rfl, htag (hread.mpr rfl)⟩

end TokenLedger
