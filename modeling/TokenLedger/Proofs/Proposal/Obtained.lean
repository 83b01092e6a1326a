import TokenLedger.Proofs.Judgement.Signers
import TokenLedger.Proofs.Proposal.Refused
import TokenLedger.Proofs.Wire.Checked
import TokenLedger.Proofs.Wire.RoundTrip

/-! # Records that can be obtained

Records come from their parts, from other records, from the constructors of proposals and from
texts, one after the other and without end. None of these lets a record in that names the absent
party, so that the absent party's signature on a proposal changes nothing.
-/
namespace TokenLedger

open Json

mutual

/-- The record comes out of finitely many operations that make records. -/
inductive Record.Obtained : Record → Prop
  | ofParts {issuer holder : Party} {quantity : Quantity} {r : Record}
    (made : Record.ofParts issuer holder quantity = .ok r) : Record.Obtained r
  | supersede {old r : Record} {holder : Party} (obtained : Record.Obtained old)
    (made : old.supersede holder = .ok r) : Record.Obtained r
  | decoded {text : String} {r : Record} (read : Record.ofJson text = .ok r) : Record.Obtained r
  | input {p : Proposal} {r : Record} (obtained : Proposal.Obtained p) (here : r ∈ p.inputs) :
    Record.Obtained r
  | output {p : Proposal} {r : Record} (obtained : Proposal.Obtained p) (here : r ∈ p.outputs) :
    Record.Obtained r

/-- The proposal is put together from such records, by a constructor or by hand, or decoded. -/
inductive Proposal.Obtained : Proposal → Prop
  | issue {issuer holder : Party} {quantity : Quantity} {p : Proposal}
    (built : Proposal.issue issuer holder quantity = .ok p) : Proposal.Obtained p
  | issueMany {issuer : Party} {held : List (Party × Quantity)} {ps : List Proposal} {p : Proposal}
    (built : Proposal.issueMany issuer held = .ok ps) (here : p ∈ ps) : Proposal.Obtained p
  | transfer {old : Record} {holder : Party} {p : Proposal} (obtained : Record.Obtained old)
    (built : Proposal.transfer old holder = .ok p) : Proposal.Obtained p
  | redeem {old : Record} (obtained : Record.Obtained old) :
    Proposal.Obtained (Proposal.redeem old)
  | assembled {inputs outputs : List Record} {intent : String} {signers : Signers}
    (inputsObtained : ∀ r ∈ inputs, Record.Obtained r)
    (outputsObtained : ∀ r ∈ outputs, Record.Obtained r) :
    Proposal.Obtained ⟨inputs, outputs, intent, signers⟩
  | decoded {text : String} {p : Proposal} (read : Proposal.ofJson text = .ok p) :
    Proposal.Obtained p
  | member {text : String} {ps : List Proposal} {p : Proposal}
    (read : Proposal.batchOfJson text = .ok ps) (here : p ∈ ps) : Proposal.Obtained p

end

def Record.Present (r : Record) : Prop := r.issuer ≠ .absent ∧ r.holder ≠ .absent

namespace Record

/-- A record carries the proof of this, so that whoever makes one has to give it. -/
theorem present (r : Record) : r.Present := ⟨r.issuer_present, r.holder_present⟩

theorem ofParts_present {issuer holder : Party} {quantity : Quantity} {r : Record}
    (h : ofParts issuer holder quantity = .ok r) : issuer ≠ .absent ∧ holder ≠ .absent :=
  exists_ofParts_iff.mp ⟨r, h⟩

theorem supersede_absent (old r : Record) : old.supersede .absent ≠ .ok r := by
  intro h
  exact (ofParts_present h).2 rfl

theorem ofJson_of_namesAbsent {text : String} (h : (Document.ofText text).node.NamesAbsent)
    (r : Record) : ofJson text ≠ .ok r := by
  intro hr
  exact ofNode_of_namesAbsent h r (readText_eq_ok hr)

end Record

namespace Proposal

theorem issue_present {issuer holder : Party} {quantity : Quantity} {p : Proposal}
    (h : issue issuer holder quantity = .ok p) : issuer ≠ .absent ∧ holder ≠ .absent := by
  obtain ⟨_, new, ⟨rfl, rfl, _⟩, _⟩ := issue_eq_ok_iff.mp h
  exact new.present

theorem issueMany_present {issuer : Party} {held : List (Party × Quantity)} {ps : List Proposal}
    (h : issueMany issuer held = .ok ps) : issuer ≠ .absent ∧ ∀ x ∈ held, x.1 ≠ .absent := by
  obtain ⟨hne, hall⟩ := exists_issueMany_iff.mp ⟨ps, h⟩
  have hpresent : ∀ x ∈ held, issuer ≠ .absent ∧ x.1 ≠ .absent := by
    intro x hx
    obtain ⟨p, hp⟩ := hall x hx
    exact issue_present hp
  obtain ⟨x, hx⟩ := List.exists_mem_of_ne_nil held hne
  exact ⟨(hpresent x hx).1, fun y hy => (hpresent y hy).2⟩

theorem transfer_absent (old : Record) (p : Proposal) : transfer old .absent ≠ .ok p := by
  intro h
  obtain ⟨_, _, new, ⟨_, hholder, _⟩, _⟩ := transfer_eq_ok_iff.mp h
  exact new.holder_present hholder

theorem ofJson_of_namesAbsent {text : String} {n : Node} (h : n.NamesAbsent)
    (hn : n.RecordIn (Document.ofText text).node) (p : Proposal) : ofJson text ≠ .ok p := by
  intro hp
  exact ofNode_of_namesAbsent h hn p (readText_eq_ok hp)

theorem batchOfJson_of_namesAbsent {text : String} {items : List Node} {ending : Ending}
    (hitems : (Document.ofText text).node = .array items ending) {n m : Node} (hm : m ∈ items)
    (h : n.NamesAbsent) (hn : n.RecordIn m) (ps : List Proposal) : batchOfJson text ≠ .ok ps := by
  intro hps
  have hread := readText_eq_ok hps
  rw [hitems] at hread
  obtain ⟨p, hp⟩ := exists_read_of_mem hread hm
  exact ofNode_of_namesAbsent h hn p hp

/-- No record names the absent party, so its signature is not asked for. -/
theorem unnamed_absent (p : Proposal) :
    ∀ r ∈ p.inputs ++ p.outputs, r.issuer ≠ .absent ∧ r.holder ≠ .absent :=
  fun r _ => r.present

end Proposal

/-- Whatever is done, no record that is obtained names the absent party: parts, constructors and
texts with it are refused at every door. Its signature, which may be written on a proposal, changes
neither the verdict nor the rule that is logged. -/
theorem absent_never_named :
    (∀ r : Record, r.Obtained → r.Present) ∧
    (∀ p : Proposal, p.Obtained → ∀ r ∈ p.inputs ++ p.outputs, r.Obtained ∧ r.Present) ∧
    (∀ (issuer holder : Party) (quantity : Quantity), issuer = .absent ∨ holder = .absent →
      (∀ r, Record.ofParts issuer holder quantity ≠ .ok r) ∧
      (∀ p, Proposal.issue issuer holder quantity ≠ .ok p) ∧
      ∀ held ps, (holder, quantity) ∈ held → Proposal.issueMany issuer held ≠ .ok ps) ∧
    (∀ old : Record, (∀ r, old.supersede .absent ≠ .ok r) ∧
      ∀ p, Proposal.transfer old .absent ≠ .ok p) ∧
    (∀ (text : String) (n : Node), n.NamesAbsent →
      (n = (Document.ofText text).node → ∀ r, Record.ofJson text ≠ .ok r) ∧
      (n.RecordIn (Document.ofText text).node → ∀ p, Proposal.ofJson text ≠ .ok p) ∧
      ∀ m items ending, (Document.ofText text).node = .array items ending → m ∈ items →
        n.RecordIn m → ∀ ps, Proposal.batchOfJson text ≠ .ok ps) ∧
    ∀ p : Proposal, p.Obtained →
      let added : Proposal := { p with signers := p.signers.insert .absent }
      let removed : Proposal := { p with signers := p.signers.erase .absent }
      Proposal.ofJson added.toJson.compact = .ok added ∧ added.JudgedAs p ∧ removed.JudgedAs p := by
  refine ⟨fun r _ => r.present, fun p hp r hr => ⟨?obtained, r.present⟩,
    fun issuer holder quantity habsent => ⟨fun r hr => ?parts, fun p hp => ?issue,
      fun held ps hx hps => ?issueMany⟩,
    fun old => ⟨old.supersede_absent, Proposal.transfer_absent old⟩,
    fun text n hn => ⟨?record, fun hin p => Proposal.ofJson_of_namesAbsent hn hin p,
      fun m items ending hitems hm hin ps =>
        Proposal.batchOfJson_of_namesAbsent hitems hm hn hin ps⟩,
    fun p _ => ⟨Proposal.WrittenIn.ofJson_eq (Proposal.writtenIn_toJson _),
      Proposal.judgedAs_insert_of_unnamed p.unnamed_absent,
      Proposal.judgedAs_erase_of_unnamed p.unnamed_absent⟩⟩
  case obtained =>
    rcases List.mem_append.mp hr with hr | hr
    · exact .input hp hr
    · exact .output hp hr
  case parts =>
    obtain ⟨hi, hh⟩ := Record.ofParts_present hr
    exact habsent.elim hi hh
  case issue =>
    obtain ⟨hi, hh⟩ := Proposal.issue_present hp
    exact habsent.elim hi hh
  case issueMany =>
    obtain ⟨hi, hh⟩ := Proposal.issueMany_present hps
    exact habsent.elim hi (hh (holder, quantity) hx)
  case record =>
    rintro rfl
    exact Record.ofJson_of_namesAbsent hn

def keptRecord : Record := ⟨.ofByte 60, .ofByte 61, 5, by decide, by decide⟩

def lostRecord : Value :=
  .object [("issuer", (Party.ofByte 60).toJson),
    ("holder", .string (" " ++ Party.absent.display ++ "\n")), ("quantity", .ofInt 5)]

def lostRedemption : Value :=
  .object [("intent", .string "Redeem"), ("inputs", .array [lostRecord])]

theorem absent_never_named_redemption :
    (keptRecord.Obtained ∧ keptRecord.Present) ∧
    (∀ r, Record.ofJson lostRecord.compact ≠ .ok r) ∧
    (∀ p, Proposal.ofJson lostRedemption.compact ≠ .ok p) ∧
    (∀ ps, Proposal.batchOfJson (Value.array [lostRedemption]).compact ≠ .ok ps) ∧
    ({ Proposal.redeem keptRecord with
        signers := (Proposal.redeem keptRecord).signers.insert .absent } : Proposal).JudgedAs
      (Proposal.redeem keptRecord) := by
  obtain ⟨hrecord, _, _, _, htext, hsigned⟩ := absent_never_named
  have hkept : keptRecord.Obtained :=
    .ofParts (Record.ofParts_eq_ok_iff.mpr ⟨rfl, rfl, rfl⟩)
  have hlost : lostRecord.node.NamesAbsent :=
    ⟨.ofByte 60, .absent, 5, by decide +kernel, .inr rfl⟩
  have hin : lostRecord.node.RecordIn lostRedemption.node :=
    .member (StringToken.value_ofString "inputs") (.inl rfl) (.tail _ (.head _)) (.head _)
  have hnode : ∀ v : Value, v.node.Whole → (Document.ofText v.compact).node = v.node := by
    intro v hv
    rw [(Value.writtenAs_compact hv).ofText_eq]
  have hwhole : lostRecord.node.Whole := by
    simp [lostRecord, Party.toJson, Value.ofInt, Value.node, memberNodes, Node.Whole, WholeMembers,
      StringToken.ofString]
  have hredemption : lostRedemption.node.Whole := by
    simp [lostRedemption, Value.node, memberNodes, itemNodes, Node.Whole, WholeMembers, WholeItems,
      StringToken.ofString, hwhole]
  have hbatch : (Value.array [lostRedemption]).node.Whole := by
    simp [Value.node, itemNodes, Node.Whole, WholeItems, hredemption]
  have hrecordNode := hnode lostRecord hwhole
  have hproposalNode := hnode lostRedemption hredemption
  have hbatchNode := hnode (.array [lostRedemption]) hbatch
  refine ⟨⟨hkept, hrecord _ hkept⟩, (htext _ _ hlost).1 hrecordNode.symm,
    (htext _ _ hlost).2.1 (hproposalNode.symm ▸ hin),
    (htext _ _ hlost).2.2 _ _ _ hbatchNode (.head _) hin, (hsigned _ (.redeem hkept)).2.1⟩

end TokenLedger
