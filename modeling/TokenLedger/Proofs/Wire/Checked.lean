import TokenLedger.Proofs.Json.Sequence
import TokenLedger.Wire.Proposal

/-! # Records are checked where they stand

A record is read as its three parts and then checked, and wherever one stands among the inputs and
the outputs of a proposal, in either form, the proposal is read only if the record is. So a single
record that names the absent party makes a proposal, and a batch with it, fail.
-/
namespace TokenLedger

open Json

namespace Json
variable {σ α : Type}

theorem exists_read_of_mem {read : Node → Read α} {items : List Node} {ending : Ending}
    {values : List α} (h : (Node.array items ending).readList read = .ok values) {n : Node}
    (hn : n ∈ items) : ∃ v, read n = .ok v := by
  obtain ⟨vs, hvs, _⟩ := bind_eq_ok_iff.mp h
  exact exists_forall₂_iff.mp ⟨vs, mapM_eq_ok_iff.mp hvs⟩ n hn

/-- Every member of an object that is read has its key taken as a name, and if a draft knows the
name, its value is read. -/
theorem exists_field_of_mem {field : σ → String → Option (Node → Read σ)}
    {members : List (StringToken × Node)} {draft filled : σ}
    (h : readMembers field draft members = .ok filled) {key : StringToken} {value : Node}
    (hm : (key, value) ∈ members) :
    ∃ name before, key.value = .ok name ∧
      ∀ read, field before name = some read → ∃ next, read value = .ok next := by
  induction members generalizing draft with
  | nil => cases hm
  | cons m rest ih =>
    obtain ⟨k, v⟩ := m
    obtain ⟨name, hk, h⟩ := bind_eq_ok_iff.mp h
    split at h
    · rename_i read hf
      obtain ⟨next, hr, h⟩ := bind_eq_ok_iff.mp h
      rcases List.mem_cons.mp hm with heq | hm
      · cases heq
        refine ⟨name, draft, mapError_eq_ok_iff.mp hk, fun other hother => ⟨next, ?_⟩⟩
        rw [hf] at hother
        obtain rfl := Option.some.inj hother
        exact hr
      · exact ih h hm
    · rename_i hf
      obtain ⟨_, _, h⟩ := bind_eq_ok_iff.mp h
      rcases List.mem_cons.mp hm with heq | hm
      · cases heq
        refine ⟨name, draft, mapError_eq_ok_iff.mp hk, fun read hread => ?_⟩
        rw [hf] at hread
        cases hread
      · exact ih h hm

theorem exists_read_of_once {name : String} {old : Option α} {read : Node → Read α} {set : α → σ}
    {n : Node} {next : σ} (h : once name old read set n = .ok next) : ∃ v, read n = .ok v := by
  cases old with
  | some _ => cases h
  | none =>
    obtain ⟨v, hv, _⟩ := map_eq_ok_iff.mp h
    exact ⟨v, hv⟩

theorem readItemOr_cons {default : α} {read : Node → Read α} {n : Node} {rest left : List Node}
    {ending : Ending} {v : α} (h : readItemOr default read (n :: rest) ending = .ok (v, left)) :
    read n = .ok v ∧ left = rest := by
  obtain ⟨next, hnext, h⟩ := bind_eq_ok_iff.mp h
  obtain rfl : some (n, rest) = next := Except.ok.inj hnext
  obtain ⟨w, hw, heq⟩ := bind_eq_ok_iff.mp h
  cases heq
  exact ⟨hw, rfl⟩

theorem readText_eq_ok {read : Node → Read α} {text : String} {v : α}
    (h : readText read text = .ok v) : read (Document.ofText text).node = .ok v := by
  obtain ⟨w, hw, h⟩ := bind_eq_ok_iff.mp h
  split at h
  · cases h
  · exact hw.trans h

end Json

/-- The three parts of a record are written there, and one of its parties is the absent one. -/
def Json.Node.NamesAbsent (n : Node) : Prop :=
  ∃ issuer holder quantity, Record.partsOfNode n = .ok (issuer, holder, quantity) ∧
    (issuer = .absent ∨ holder = .absent)

namespace Record

/-- The parts of a record make one exactly if both of its parties exist. -/
theorem exists_ofParts_iff {issuer holder : Party} {quantity : Quantity} :
    (∃ r, ofParts issuer holder quantity = .ok r) ↔ issuer ≠ .absent ∧ holder ≠ .absent := by
  constructor
  · rintro ⟨r, hr⟩
    obtain ⟨rfl, rfl, _⟩ := ofParts_eq_ok_iff.mp hr
    exact ⟨r.issuer_present, r.holder_present⟩
  · rintro ⟨hi, hh⟩
    exact ⟨⟨issuer, holder, quantity, hi, hh⟩, ofParts_eq_ok_iff.mpr ⟨rfl, rfl, rfl⟩⟩

theorem ofNode_eq_ok_iff {n : Node} {r : Record} :
    ofNode n = .ok r ↔ partsOfNode n = .ok (r.issuer, r.holder, r.quantity) := by
  rw [ofNode, bind_eq_ok_iff]
  constructor
  · rintro ⟨⟨issuer, holder, quantity⟩, hparts, h⟩
    simp only at h
    split at h
    · rename_i r' hr'
      obtain rfl := Except.ok.inj h
      obtain ⟨rfl, rfl, rfl⟩ := ofParts_eq_ok_iff.mp hr'
      exact hparts
    · cases h
  · intro hparts
    have hr : ofParts r.issuer r.holder r.quantity = .ok r := ofParts_eq_ok_iff.mpr ⟨rfl, rfl, rfl⟩
    refine ⟨_, hparts, ?_⟩
    simp only [hr]

theorem ofNode_of_namesAbsent {n : Node} (h : n.NamesAbsent) (r : Record) : ofNode n ≠ .ok r := by
  intro hr
  obtain ⟨issuer, holder, quantity, hp, habsent⟩ := h
  rw [ofNode_eq_ok_iff.mp hr] at hp
  cases hp
  rcases habsent with hi | hh
  · exact r.issuer_present hi
  · exact r.holder_present hh

end Record

/-- The node stands among the inputs or the outputs of a proposal, which is an object with these
names or an array with these places. -/
inductive Json.Node.RecordIn (n : Node) : Node → Prop
  | member {members : List (StringToken × Node)} {ending itemsEnding : Ending} {key : StringToken}
    {name : String} {items : List Node} (named : key.value = .ok name)
    (list : name = "inputs" ∨ name = "outputs") (here : (key, .array items itemsEnding) ∈ members)
    (item : n ∈ items) : RecordIn n (.object members ending)
  | input {items rest : List Node} {ending itemsEnding : Ending} (item : n ∈ items) :
    RecordIn n (.array (.array items itemsEnding :: rest) ending)
  | output {first : Node} {items rest : List Node} {ending itemsEnding : Ending}
    (item : n ∈ items) : RecordIn n (.array (first :: .array items itemsEnding :: rest) ending)

namespace Proposal

theorem exists_record_of_recordIn {n m : Node} {p : Proposal} (h : ofNode m = .ok p)
    (hn : n.RecordIn m) : ∃ r, Record.ofNode n = .ok r := by
  cases hn with
  | member named list here item =>
    obtain ⟨d, hd, _⟩ := bind_eq_ok_iff.mp h
    obtain ⟨filled, hm, _⟩ := bind_eq_ok_iff.mp hd
    obtain ⟨name, before, hname, hread⟩ := exists_field_of_mem hm here
    obtain rfl := Except.ok.inj (named.symm.trans hname)
    rcases list with rfl | rfl
    · obtain ⟨next, hnext⟩ := hread _ rfl
      obtain ⟨records, hrecords⟩ := exists_read_of_once hnext
      exact exists_read_of_mem hrecords item
    · obtain ⟨next, hnext⟩ := hread _ rfl
      obtain ⟨records, hrecords⟩ := exists_read_of_once hnext
      exact exists_read_of_mem hrecords item
  | input item =>
    obtain ⟨⟨inputs, left⟩, hinputs, _⟩ := bind_eq_ok_iff.mp h
    exact exists_read_of_mem (readItemOr_cons hinputs).1 item
  | output item =>
    obtain ⟨⟨inputs, left⟩, hinputs, h⟩ := bind_eq_ok_iff.mp h
    obtain ⟨_, rfl⟩ := readItemOr_cons hinputs
    obtain ⟨⟨outputs, left⟩, houtputs, _⟩ := bind_eq_ok_iff.mp h
    exact exists_read_of_mem (readItemOr_cons houtputs).1 item

theorem ofNode_of_namesAbsent {n m : Node} (h : n.NamesAbsent) (hn : n.RecordIn m) (p : Proposal) :
    ofNode m ≠ .ok p := by
  intro hp
  obtain ⟨r, hr⟩ := exists_record_of_recordIn hp hn
  exact Record.ofNode_of_namesAbsent h r hr

end Proposal

end TokenLedger
