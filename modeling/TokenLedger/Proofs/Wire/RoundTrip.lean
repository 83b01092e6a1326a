import TokenLedger.Proofs.Json.Sequence
import TokenLedger.Verdict
import TokenLedger.Wire.Proposal

/-! # Written and read back

What is written of parties, records and proposals is read back as what it was. The signers of a
proposal may be written in any order, since those who read them want a set.
-/
namespace TokenLedger

open Json

section
variable {σ α : Type} {n : Node}

theorem once_none {read : Node → Read α} {v : α} (h : read n = .ok v) (name : String)
    (set : α → σ) : once name none read set n = .ok (set v) := by
  rw [once, h]
  rfl

/-- A member with a known key changes the draft as its value is read. -/
theorem readMembers_cons {field : σ → String → Option (Node → Read σ)} {draft next : σ}
    {name : String} {read : Node → Read σ} (known : field draft name = some read)
    (h : read n = .ok next) (rest : List (StringToken × Node)) :
    readMembers field draft ((.ofString name, n) :: rest) = readMembers field next rest := by
  simp [readMembers, liftText, Except.mapError, bind, Except.bind, known, h]

end

section
variable {α : Type} {write : α → Value}

theorem readList_map {read : Node → Read α} (h : ∀ x, read (write x).node = .ok x) (xs : List α) :
    (Value.array (xs.map write)).node.readList read = .ok xs := by
  rw [Value.node, Node.readList_closed_eq_ok_iff]
  induction xs with
  | nil => exact .nil
  | cons x xs ih => exact .cons (h x) ih

theorem wholeItems_map (h : ∀ x, (write x).node.Whole) (xs : List α) :
    WholeItems (itemNodes (xs.map write)) := by
  induction xs with
  | nil => trivial
  | cons x xs ih => exact ⟨h x, ih⟩

end

theorem Party.ofNode_toJson (p : Party) : Party.ofNode p.toJson.node = .ok p := by
  simp [Party.ofNode, Party.toJson, Value.node, Node.readString, liftText, bind, Except.bind,
    Party.parse_display, Except.mapError]

theorem Party.whole_toJson (p : Party) : p.toJson.node.Whole := rfl

theorem Quantity.ofNode_ofInt (q : Quantity) :
    Quantity.ofNode (Value.ofInt q.toInt).node = .ok q := by
  have low := q.le_toInt
  have high := q.toInt_lt
  have hv : (NumberToken.ofInt q.toInt).value = .ok (.integer q.toInt) :=
    NumberToken.value_ofInt (by omega) (by omega)
  have hrange : -0x8000000000000000 ≤ q.toInt ∧ q.toInt ≤ 0x7FFFFFFFFFFFFFFF := by omega
  simp only [Quantity.ofNode, Value.ofInt, Value.node, Node.readInteger, liftText, hv,
    Except.mapError, bind, Except.bind, if_pos hrange]
  exact congrArg Except.ok (Int64.ofInt_toInt q)

namespace Record

theorem partsOfNode_toJson (r : Record) :
    partsOfNode r.toJson.node = .ok (r.issuer, r.holder, r.quantity) := by
  have hi := once_none (Party.ofNode_toJson r.issuer) "issuer" fun p => Draft.mk (some p) none none
  have hh := once_none (Party.ofNode_toJson r.holder) "holder" fun p =>
    Draft.mk (some r.issuer) (some p) none
  have hq := once_none (Quantity.ofNode_ofInt r.quantity) "quantity" fun q =>
    Draft.mk (some r.issuer) (some r.holder) (some q)
  have hm : readMembers Draft.field .empty (memberNodes [("issuer", r.issuer.toJson),
      ("holder", r.holder.toJson), ("quantity", .ofInt r.quantity.toInt)]) =
      .ok ⟨some r.issuer, some r.holder, some r.quantity⟩ := by
    simp only [memberNodes]
    rw [readMembers_cons rfl hi, readMembers_cons rfl hh, readMembers_cons rfl hq]
    rfl
  rw [toJson, Value.node, partsOfNode, readObject, hm]
  rfl

theorem ofNode_toJson (r : Record) : ofNode r.toJson.node = .ok r := by
  have hr : ofParts r.issuer r.holder r.quantity = .ok r := ofParts_eq_ok_iff.mpr ⟨rfl, rfl, rfl⟩
  rw [ofNode, partsOfNode_toJson]
  simp only [bind, Except.bind, hr]

theorem whole_toJson (r : Record) : r.toJson.node.Whole := by
  simp [toJson, Party.toJson, Value.ofInt, Value.node, memberNodes, Node.Whole, WholeMembers,
    StringToken.ofString]

end Record

namespace Proposal

def toJsonSigned (p : Proposal) (order : List Party) : Value :=
  .object [("inputs", .array (p.inputs.map Record.toJson)),
    ("outputs", .array (p.outputs.map Record.toJson)),
    ("intent", .string p.intent),
    ("signers", .array (order.map Party.toJson))]

/-- The forms in which a proposal may be written: its signers have no order of their own. -/
def WrittenIn (p : Proposal) (v : Value) : Prop :=
  ∃ order : List Party, order.Perm p.signers.toList ∧ v = p.toJsonSigned order

theorem writtenIn_toJson (p : Proposal) : p.WrittenIn p.toJson :=
  ⟨p.signers.toList, .refl _, rfl⟩

theorem signersOfNode_toJson {signers : Signers} {order : List Party}
    (h : order.Perm signers.toList) :
    signersOfNode (Value.array (order.map Party.toJson)).node = .ok signers := by
  have hs : Signers.ofList order = signers :=
    Signers.ext_mem fun x => Signers.mem_ofList.trans h.mem_iff
  rw [signersOfNode, readList_map Party.ofNode_toJson]
  exact congrArg Except.ok hs

theorem intentOfNode_string (s : String) : intentOfNode (Value.string s).node = .ok s := by
  simp [intentOfNode, Value.node, Node.readString, liftText, Except.mapError]

variable {p : Proposal} {v : Value}

theorem WrittenIn.ofNode_eq (h : p.WrittenIn v) : ofNode v.node = .ok p := by
  obtain ⟨order, hp, rfl⟩ := h
  have hin : recordsOfNode (Value.array (p.inputs.map Record.toJson)).node = .ok p.inputs :=
    readList_map Record.ofNode_toJson p.inputs
  have hout : recordsOfNode (Value.array (p.outputs.map Record.toJson)).node = .ok p.outputs :=
    readList_map Record.ofNode_toJson p.outputs
  have h1 := once_none hin "inputs" fun v => Draft.mk (some v) none none none
  have h2 := once_none hout "outputs" fun v => Draft.mk (some p.inputs) (some v) none none
  have h3 := once_none (intentOfNode_string p.intent) "intent" fun v =>
    Draft.mk (some p.inputs) (some p.outputs) (some v) none
  have h4 := once_none (signersOfNode_toJson hp) "signers" fun v =>
    Draft.mk (some p.inputs) (some p.outputs) (some p.intent) (some v)
  have hm : readMembers Draft.field .empty (memberNodes
      [("inputs", .array (p.inputs.map Record.toJson)),
        ("outputs", .array (p.outputs.map Record.toJson)), ("intent", .string p.intent),
        ("signers", .array (order.map Party.toJson))]) =
      .ok ⟨some p.inputs, some p.outputs, some p.intent, some p.signers⟩ := by
    simp only [memberNodes]
    rw [readMembers_cons rfl h1, readMembers_cons rfl h2, readMembers_cons rfl h3,
      readMembers_cons rfl h4]
    rfl
  rw [toJsonSigned, Value.node, ofNode, readObject, hm]
  rfl

theorem WrittenIn.whole (h : p.WrittenIn v) : v.node.Whole := by
  obtain ⟨order, _, rfl⟩ := h
  have hin := wholeItems_map Record.whole_toJson p.inputs
  have hout := wholeItems_map Record.whole_toJson p.outputs
  have hs := wholeItems_map Party.whole_toJson order
  simp [toJsonSigned, Value.node, memberNodes, Node.Whole, WholeMembers, StringToken.ofString, hin,
    hout, hs]

theorem WrittenIn.isJson (h : p.WrittenIn v) : IsJson v.compact :=
  ⟨v.node, Value.writtenAs_compact h.whole⟩

theorem WrittenIn.ofJson_eq (h : p.WrittenIn v) : ofJson v.compact = .ok p := by
  rw [ofJson, (Value.writtenAs_compact h.whole).readText_eq, h.ofNode_eq]

theorem batchOfJson_eq {ps : List Proposal} {vs : List Value} (h : List.Forall₂ WrittenIn ps vs) :
    batchOfJson (Value.array vs).compact = .ok ps := by
  have hj : ∀ t ∈ vs.map Value.compact, IsJson t := by
    induction h with
    | nil => simp
    | cons hw _ ih => simpa using ⟨WrittenIn.isJson hw, by simpa using ih⟩
  have hr : List.Forall₂ (fun t p => ofJson t = .ok p) (vs.map Value.compact) ps :=
    List.forall₂_map_left_iff.mpr (h.flip.imp fun _ _ hw => WrittenIn.ofJson_eq hw)
  rw [Value.compact_array, batchOfJson, readText_arrayText_eq_ok_iff hj]
  exact hr

/-- Parties, records, proposals and batches of proposals are read back from what is written of them
as what they were, in whatever order the signers of each proposal are written. -/
theorem interchange_lossless :
    (∀ p : Party, Party.ofJson p.toJson.compact = .ok p) ∧
    (∀ r : Record, Record.ofJson r.toJson.compact = .ok r) ∧
    (∀ p : Proposal, p.WrittenIn p.toJson) ∧
    (∀ (p : Proposal) (v : Value), p.WrittenIn v →
      ofJson v.compact = .ok p ∧ (ofJson v.compact).map verdict = .ok p.verdict) ∧
    ∀ (ps : List Proposal) (vs : List Value), List.Forall₂ WrittenIn ps vs →
      batchOfJson (Value.array vs).compact = .ok ps := by
  refine ⟨fun p => ?_, fun r => ?_, writtenIn_toJson, fun p v h => ?_, fun ps vs h => ?_⟩
  · rw [Party.ofJson, (Value.writtenAs_compact p.whole_toJson).readText_eq, p.ofNode_toJson]
  · rw [Record.ofJson, (Value.writtenAs_compact r.whole_toJson).readText_eq, r.ofNode_toJson]
  · rw [h.ofJson_eq]
    exact ⟨rfl, rfl⟩
  · exact batchOfJson_eq h

def unusual : Proposal where
  inputs := [⟨.ofByte 20, .ofByte 21, -0x8000000000000000, by decide, by decide⟩]
  outputs := [⟨.ofByte 20, .ofByte 21, 0x7FFFFFFFFFFFFFFF, by decide, by decide⟩]
  intent := "\"Mo\\ve\"\n\x01é😀"
  signers := .ofList [.ofByte 20, .ofByte 21]

/-- It is read back with its signers in the order against that of display, alone and in a batch. -/
theorem unusual_lossless :
    unusual.WrittenIn (unusual.toJsonSigned [.ofByte 21, .ofByte 20]) ∧
      ofJson (unusual.toJsonSigned [.ofByte 21, .ofByte 20]).compact = .ok unusual ∧
      batchOfJson (Value.array [unusual.toJsonSigned [.ofByte 21, .ofByte 20],
        unusual.toJson]).compact = .ok [unusual, unusual] := by
  have hs : unusual.signers.toList = [.ofByte 20, .ofByte 21] := by decide
  have hw : unusual.WrittenIn (unusual.toJsonSigned [.ofByte 21, .ofByte 20]) :=
    ⟨_, by rw [hs]; exact .swap .., rfl⟩
  obtain ⟨_, _, ht, hp, hb⟩ := interchange_lossless
  exact ⟨hw, (hp _ _ hw).1, hb _ _ (.cons hw (.cons (ht unusual) .nil))⟩

end Proposal

end TokenLedger
