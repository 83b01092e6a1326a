import TokenLedger.Proofs.Wire.Grammar
import TokenLedger.Proofs.Wire.RoundTrip

/-! # The wire grammar

Texts of records and proposals are read exactly as the grammar says. What an object is read as
depends on the values under the known names alone: on neither the order of the members nor any other
member. An array of the values in the order of declaration is read like the object of them.
-/
namespace TokenLedger

open Json

namespace Json

/-- Both texts are read as the same value, or neither is read as any. -/
def ReadAlike {α : Type} (read : String → Read α) (text text' : String) : Prop :=
  ∀ x, read text = .ok x ↔ read text' = .ok x

theorem readAlike_of_writtenAs {α : Type} {read : Node → Read α} {n n' : Node}
    {text text' : String} (ht : n.WrittenAs text) (ht' : n'.WrittenAs text')
    (h : ∀ x, read n = .ok x ↔ read n' = .ok x) : ReadAlike (readText read) text text' := by
  intro x
  rw [ht.readText_eq, ht'.readText_eq]
  exact h x

section
variable {name : String} {P : Node → Prop} {absent : Prop} {n : Node} {values : List Node}
  {members : List (StringToken × Node)}

theorem occursOnce_of_valuesOf (h : valuesOf name members = [n]) :
    OccursOnce name P members ↔ P n := by
  simp [OccursOnce, h]

/-- Of one value there is no other order. -/
theorem occursOnce_perm {members' : List (StringToken × Node)}
    (h : (valuesOf name members).Perm (valuesOf name members')) :
    OccursOnce name P members ↔ OccursOnce name P members' := by
  have hfills : ∀ ms, OccursOnce name P ms ↔
      Fills (fun n (_ : Unit) => P n) none (valuesOf name ms) (some ()) := by
    intro ms
    rw [Fills.none_some_iff, OccursOnce]
  rw [hfills, hfills, Fills.perm h]

theorem mayOccur_perm {members' : List (StringToken × Node)}
    (h : (valuesOf name members).Perm (valuesOf name members')) :
    MayOccur name P absent members ↔ MayOccur name P absent members' := by
  have hnone : valuesOf name members = [] ↔ valuesOf name members' = [] := by
    rw [← List.length_eq_zero_iff, h.length_eq, List.length_eq_zero_iff]
  rw [MayOccur, MayOccur, occursOnce_perm h, hnone]

theorem mayOccur_of_valuesOf (h : valuesOf name members = values) :
    MayOccur name P absent members ↔ (∃ n, values = [n] ∧ P n) ∨ values = [] ∧ absent := by
  rw [MayOccur, OccursOnce, h]

end

def objectText (texts : List (List Char × String)) : String :=
  String.ofList ('\x7b' :: joined [','] (texts.map fun t => t.1 ++ ':' :: t.2.toList) ++ ['\x7d'])

/-- The key and the value of a member are written as this. -/
structure MemberWrittenAs (m : StringToken × Node) (text : List Char × String) : Prop where
  key : Token.SpelledBy (.string m.1) text.1
  value : m.2.WrittenAs text.2

theorem closed_of_spelledBy {s : StringToken} {w : List Char}
    (h : Token.SpelledBy (.string s) w) : s.ending = .closed := by
  cases h
  rfl

section
variable {members : List (StringToken × Node)} {texts : List (List Char × String)}

theorem wholeMembers_of_writtenAs (h : List.Forall₂ MemberWrittenAs members texts) :
    WholeMembers members := by
  induction h with
  | nil => trivial
  | cons hm _ ih => exact ⟨closed_of_spelledBy hm.key, hm.value.1, ih⟩

theorem memberTokens_spelledBy (h : List.Forall₂ MemberWrittenAs members texts) :
    List.Forall₂ TokensSpelledBy (memberTokens members)
      (texts.map fun t => t.1 ++ ':' :: t.2.toList) := by
  induction h with
  | nil => exact .nil
  | cons hm _ ih =>
    have hvalue : TokensSpelledBy _ ([':'] ++ _) := .token .colon nofun hm.value.2
    exact .cons (.token hm.key nofun hvalue) ih

theorem writtenAs_objectText (h : List.Forall₂ MemberWrittenAs members texts) :
    (Node.object members .closed).WrittenAs (objectText texts) := by
  refine ⟨⟨rfl, wholeMembers_of_writtenAs h⟩, ?_⟩
  rw [objectText, String.toList_ofList]
  exact (TokensSpelledBy.joined (List.forall_mem_nil _) (memberTokens_spelledBy h)).object

end

namespace Form
variable {σ α : Type} {field : σ → String → Option (Node → Read σ)} (F : Form field)
  {members members' : List (StringToken × Node)}

/-- Two objects have the same values under the names of the fields, in any order. Of their other
members nothing is asked but that the names are strings in both objects or in neither. -/
structure Agree (members members' : List (StringToken × Node)) : Prop where
  named : Named members ↔ Named members'
  values : ∀ k, (valuesOf (F.name k) members).Perm (valuesOf (F.name k) members')

theorem agree_of_perm (h : members.Perm members') : F.Agree members members' where
  named := named_perm h
  values _ := valuesOf_perm h

theorem readObject_eq_ok_iff (hw : WholeMembers members) {draft filled : σ} :
    readObject field draft members .closed = .ok filled ↔
      Named members ∧ F.FilledBy draft members filled := by
  rw [readObject_closed, F.readMembers_eq_ok_iff hw]

theorem readObject_of_agree (hw : WholeMembers members) (hw' : WholeMembers members')
    (h : F.Agree members members') {draft filled : σ} :
    readObject field draft members .closed = .ok filled ↔
      readObject field draft members' .closed = .ok filled := by
  have hfilled : F.FilledBy draft members filled ↔ F.FilledBy draft members' filled :=
    forall_congr' fun k => Fills.perm (h.values k)
  rw [F.readObject_eq_ok_iff hw, F.readObject_eq_ok_iff hw', h.named, hfilled]

/-- What is read of texts of objects depends on the values of the fields alone, and no field may
have two. -/
structure OrderFree (read : String → Read α) : Prop where
  agree : ∀ {members members' : List (StringToken × Node)} {text text' : String},
    (Node.object members .closed).WrittenAs text → (Node.object members' .closed).WrittenAs text' →
    F.Agree members members' → ReadAlike read text text'
  reordered : ∀ {members members' : List (StringToken × Node)} {text text' : String},
    (Node.object members .closed).WrittenAs text → (Node.object members' .closed).WrittenAs text' →
    members.Perm members' → ReadAlike read text text'
  once : ∀ {members : List (StringToken × Node)} {text : String},
    (Node.object members .closed).WrittenAs text → ∀ k, 1 < (valuesOf (F.name k) members).length →
    ∀ x, read text ≠ .ok x

/-- A reader that fills in a form and takes what it reads from that. -/
theorem orderFree {read : Node → Read α} (draft : σ) {taken : σ → α → Prop}
    (h : ∀ members x, read (.object members .closed) = .ok x ↔
      ∃ filled, readObject field draft members .closed = .ok filled ∧ taken filled x) :
    F.OrderFree (readText read) := by
  have hagree : ∀ {members members' : List (StringToken × Node)} {text text' : String},
      (Node.object members .closed).WrittenAs text →
      (Node.object members' .closed).WrittenAs text' → F.Agree members members' →
      ReadAlike (readText read) text text' := by
    intro members members' text text' ht ht' hagree
    refine readAlike_of_writtenAs ht ht' fun x => ?_
    simp only [h, F.readObject_of_agree ht.1.2 ht'.1.2 hagree]
  refine ⟨hagree, fun ht ht' hperm => hagree ht ht' (F.agree_of_perm hperm), ?_⟩
  intro members text ht k htwo x hx
  rw [ht.readText_eq, h] at hx
  obtain ⟨filled, hfilled, _⟩ := hx
  obtain ⟨_, hfills⟩ := (F.readObject_eq_ok_iff ht.1.2).mp hfilled
  have hle := (hfills k).length_le_one
  omega

end Form

end Json

theorem Party.spelledBy_toJson (p : Party) : p.SpelledBy p.toJson.node :=
  ofNode_eq_ok_iff.mp p.ofNode_toJson

namespace Record

theorem orderFree : form.OrderFree ofJson :=
  form.orderFree .empty fun members r => by
    rw [ofNode_eq_ok_iff, partsOfNode, bind_eq_ok_iff]

end Record

namespace Proposal

theorem orderFree : form.OrderFree ofJson :=
  form.orderFree .empty fun members p => by
    rw [ofNode, bind_eq_ok_iff]

end Proposal

theorem Record.spelledBy_object_perm {members members' : List (StringToken × Node)}
    (h : members.Perm members') {r : Record} :
    r.SpelledBy (.object members .closed) ↔ r.SpelledBy (.object members' .closed) := by
  have hvalues : ∀ name, (valuesOf name members).Perm (valuesOf name members') := fun _ =>
    valuesOf_perm h
  rw [spelledBy_object_iff, spelledBy_object_iff, named_perm h, occursOnce_perm (hvalues "issuer"),
    occursOnce_perm (hvalues "holder"), occursOnce_perm (hvalues "quantity")]

theorem Proposal.spelledBy_object_perm {members members' : List (StringToken × Node)}
    (h : members.Perm members') {p : Proposal} :
    p.SpelledBy (.object members .closed) ↔ p.SpelledBy (.object members' .closed) := by
  have hvalues : ∀ name, (valuesOf name members).Perm (valuesOf name members') := fun _ =>
    valuesOf_perm h
  rw [spelledBy_object_iff, spelledBy_object_iff, named_perm h, mayOccur_perm (hvalues "inputs"),
    mayOccur_perm (hvalues "outputs"), occursOnce_perm (hvalues "intent"),
    mayOccur_perm (hvalues "signers")]

/-- Three values in a row are read as those of an object. -/
theorem Record.readAlike_array {a b c : Node} {members : List (StringToken × Node)}
    {text text' : String} (ht : (Node.array [a, b, c] .closed).WrittenAs text)
    (ht' : (Node.object members .closed).WrittenAs text') (hnamed : Named members)
    (ha : valuesOf "issuer" members = [a]) (hb : valuesOf "holder" members = [b])
    (hc : valuesOf "quantity" members = [c]) : ReadAlike ofJson text text' := by
  refine readAlike_of_writtenAs ht ht' fun r => ?_
  rw [ofNode_eq_ok_iff_spelledBy _ ht.1, ofNode_eq_ok_iff_spelledBy _ ht'.1, spelledBy_array_iff,
    spelledBy_object_iff, occursOnce_of_valuesOf ha, occursOnce_of_valuesOf hb,
    occursOnce_of_valuesOf hc]
  simp [hnamed]

/-- Values in a row are read as those of an object, the signers being the last. -/
theorem Proposal.readAlike_array {a b c : Node} {rest : List Node}
    {members : List (StringToken × Node)} {text text' : String}
    (ht : (Node.array (a :: b :: c :: rest) .closed).WrittenAs text)
    (ht' : (Node.object members .closed).WrittenAs text') (hnamed : Named members)
    (ha : valuesOf "inputs" members = [a]) (hb : valuesOf "outputs" members = [b])
    (hc : valuesOf "intent" members = [c]) (hrest : valuesOf "signers" members = rest) :
    ReadAlike ofJson text text' := by
  refine readAlike_of_writtenAs ht ht' fun p => ?_
  rw [ofNode_eq_ok_iff_spelledBy ht.1, ofNode_eq_ok_iff_spelledBy ht'.1, spelledBy_array_iff,
    spelledBy_object_iff, mayOccur_of_valuesOf ha, mayOccur_of_valuesOf hb,
    occursOnce_of_valuesOf hc, mayOccur_of_valuesOf hrest]
  simp [hnamed]

/-- Records and proposals are read from the texts that spell them, and from no others. Their objects
are read by the values under the known names, whatever the order of the members and whatever the
others are, and no known name may come twice. An array of the values is read like the object. -/
theorem wire_grammar_exact :
    (∀ (n : Node) (text : String), n.WrittenAs text →
      (∀ r, Record.ofJson text = .ok r ↔ r.SpelledBy n) ∧
        ∀ p, Proposal.ofJson text = .ok p ↔ p.SpelledBy n) ∧
    Record.form.OrderFree Record.ofJson ∧ Proposal.form.OrderFree Proposal.ofJson ∧
    (∀ (a b c : Node) (members : List (StringToken × Node)) (text text' : String),
      (Node.array [a, b, c] .closed).WrittenAs text →
      (Node.object members .closed).WrittenAs text' → Named members →
      valuesOf "issuer" members = [a] → valuesOf "holder" members = [b] →
      valuesOf "quantity" members = [c] → ReadAlike Record.ofJson text text') ∧
    ∀ (a b c : Node) (rest : List Node) (members : List (StringToken × Node))
      (text text' : String), (Node.array (a :: b :: c :: rest) .closed).WrittenAs text →
      (Node.object members .closed).WrittenAs text' → Named members →
      valuesOf "inputs" members = [a] → valuesOf "outputs" members = [b] →
      valuesOf "intent" members = [c] → valuesOf "signers" members = rest →
      ReadAlike Proposal.ofJson text text' := by
  refine ⟨fun n text ht => ⟨fun r => ?_, fun p => ?_⟩, Record.orderFree, Proposal.orderFree, ?_, ?_⟩
  · rw [Record.ofJson, ht.readText_eq]
    exact Record.ofNode_eq_ok_iff_spelledBy n ht.1 r
  · rw [Proposal.ofJson, ht.readText_eq]
    exact Proposal.ofNode_eq_ok_iff_spelledBy ht.1 p
  · intro a b c members text text' ht ht' hnamed ha hb hc
    exact Record.readAlike_array ht ht' hnamed ha hb hc
  · intro a b c rest members text text' ht ht' hnamed ha hb hc hrest
    exact Proposal.readAlike_array ht ht' hnamed ha hb hc hrest

namespace Record

def deposit : Record := ⟨.ofByte 100, .ofByte 101, 7, by decide, by decide⟩

def scattered : Value :=
  .object [("note", .null), ("quantity", .ofInt 7), ("holder", (Party.ofByte 101).toJson),
    ("note", .array [.null]), ("issuer", (Party.ofByte 100).toJson)]

def twiceHeld : Value :=
  .object [("issuer", (Party.ofByte 100).toJson), ("holder", (Party.ofByte 101).toJson),
    ("quantity", .ofInt 7), ("holder", (Party.ofByte 101).toJson)]

def row : Value :=
  .array [(Party.ofByte 100).toJson, (Party.ofByte 101).toJson, .ofInt 7]

theorem whole_scattered : scattered.node.Whole := by
  simp [scattered, Party.toJson, Value.ofInt, Value.node, memberNodes, itemNodes, Node.Whole,
    WholeMembers, WholeItems, StringToken.ofString]

theorem whole_twiceHeld : twiceHeld.node.Whole := by
  simp [twiceHeld, Party.toJson, Value.ofInt, Value.node, memberNodes, Node.Whole, WholeMembers,
    StringToken.ofString]

theorem whole_row : row.node.Whole := by
  simp [row, Party.toJson, Value.ofInt, Value.node, itemNodes, Node.Whole, WholeItems,
    StringToken.ofString]

end Record

open Record in
/-- Another order with notes in between, and the mere values in a row, make no difference to the
record, but a second holder is one too many. -/
theorem wire_grammar_exact_deposit :
    deposit.SpelledBy scattered.node ∧ ofJson scattered.compact = .ok deposit ∧
      ReadAlike ofJson scattered.compact deposit.toJson.compact ∧
      (∀ r, ofJson twiceHeld.compact ≠ .ok r) ∧
      ReadAlike ofJson row.compact deposit.toJson.compact := by
  obtain ⟨hread, hrecord, _, hrow, _⟩ := wire_grammar_exact
  have hs := Value.writtenAs_compact whole_scattered
  have hd := Value.writtenAs_compact deposit.whole_toJson
  have hagree : form.Agree (memberNodes [("note", .null), ("quantity", .ofInt 7),
      ("holder", (Party.ofByte 101).toJson), ("note", .array [.null]),
      ("issuer", (Party.ofByte 100).toJson)]) (memberNodes [("issuer", deposit.issuer.toJson),
      ("holder", deposit.holder.toJson), ("quantity", .ofInt deposit.quantity.toInt)]) := by
    refine ⟨iff_of_true (named_memberNodes _) (named_memberNodes _), fun k => ?_⟩
    rw [valuesOf_memberNodes, valuesOf_memberNodes]
    cases k <;> exact .refl _
  have hdeposit : ofJson scattered.compact = .ok deposit := by
    refine (hrecord.agree hs hd hagree deposit).mpr ?_
    rw [ofJson, hd.readText_eq, ofNode_toJson]
  refine ⟨((hread _ _ hs).1 deposit).mp hdeposit, hdeposit, hrecord.agree hs hd hagree, ?_, ?_⟩
  · refine hrecord.once (Value.writtenAs_compact whole_twiceHeld) .holder ?_
    rw [valuesOf_memberNodes]
    decide
  · exact hrow _ _ _ _ _ _ (Value.writtenAs_compact whole_row) hd (named_memberNodes _) rfl rfl rfl

def halfPair : StringToken := ⟨[.code 0xD800], .closed⟩

def minusZero : NumberToken := ⟨true, ['0'], none, none⟩

theorem spelledBy_halfPair : Token.SpelledBy (.string halfPair) "\"\\ud800\"".toList :=
  .string (.cons (.digits rfl) .nil)

theorem spelledBy_minusZero : Token.SpelledBy (.number minusZero) "-0".toList := by
  refine .negative rfl ⟨⟨List.cons_ne_nil _ _, List.forall_mem_singleton.mpr rfl⟩, ?_, [], [],
    .absent, .absent, rfl⟩
  rintro rest ⟨⟩
  rfl

namespace Record

def oddlyNamed : List (StringToken × Node) :=
  memberNodes [("issuer", (Party.ofByte 100).toJson), ("holder", (Party.ofByte 101).toJson),
    ("quantity", .ofInt 1)] ++ [(halfPair, .null)]

def oddlyNamedText : String :=
  objectText [(quoted "issuer", (Party.ofByte 100).toJson.compact),
    (quoted "holder", (Party.ofByte 101).toJson.compact), (quoted "quantity", "1"),
    ("\"\\ud800\"".toList, "null")]

def minusNothing : List (StringToken × Node) :=
  memberNodes [("issuer", (Party.ofByte 100).toJson), ("holder", (Party.ofByte 101).toJson)] ++
    [(.ofString "quantity", .number minusZero)]

def minusNothingText : String :=
  objectText [(quoted "issuer", (Party.ofByte 100).toJson.compact),
    (quoted "holder", (Party.ofByte 101).toJson.compact), (quoted "quantity", "-0")]

theorem writtenAs_oddlyNamed : (Node.object oddlyNamed .closed).WrittenAs oddlyNamedText := by
  refine writtenAs_objectText (.cons ?_ (.cons ?_ (.cons ?_ (.cons ?_ .nil))))
  · exact ⟨Token.spelledBy_quoted _, Value.writtenAs_compact (Party.whole_toJson _)⟩
  · exact ⟨Token.spelledBy_quoted _, Value.writtenAs_compact (Party.whole_toJson _)⟩
  · exact ⟨Token.spelledBy_quoted _, trivial, (Token.spelledBy_ofInt 1).alone⟩
  · exact ⟨spelledBy_halfPair, trivial, Token.SpelledBy.null.alone⟩

theorem writtenAs_minusNothing : (Node.object minusNothing .closed).WrittenAs minusNothingText := by
  refine writtenAs_objectText (.cons ?_ (.cons ?_ (.cons ?_ .nil)))
  · exact ⟨Token.spelledBy_quoted _, Value.writtenAs_compact (Party.whole_toJson _)⟩
  · exact ⟨Token.spelledBy_quoted _, Value.writtenAs_compact (Party.whole_toJson _)⟩
  · exact ⟨Token.spelledBy_quoted _, trivial, spelledBy_minusZero.alone⟩

/-- Each known member occurs once with a value as it should be, and yet no record is read: of one
object for the name of another member, which is no string, and of the other for its quantity, which
as minus zero is a floating-point number. -/
theorem known_members_unread :
    ((Node.object oddlyNamed .closed).WrittenAs oddlyNamedText ∧
      OccursOnce "issuer" (Party.ofByte 100).SpelledBy oddlyNamed ∧
      OccursOnce "holder" (Party.ofByte 101).SpelledBy oddlyNamed ∧
      OccursOnce "quantity" (Quantity.SpelledBy 1) oddlyNamed ∧
      ∀ r, ofJson oddlyNamedText ≠ .ok r) ∧
    (Node.object minusNothing .closed).WrittenAs minusNothingText ∧
      OccursOnce "issuer" (Party.ofByte 100).SpelledBy minusNothing ∧
      OccursOnce "holder" (Party.ofByte 101).SpelledBy minusNothing ∧
      OccursOnce "quantity" (· = .number minusZero) minusNothing ∧
      ∀ r, ofJson minusNothingText ≠ .ok r := by
  have hi : (Party.ofByte 100).SpelledBy (Party.ofByte 100).toJson.node :=
    Party.ofNode_eq_ok_iff.mp (Party.ofNode_toJson _)
  have hh : (Party.ofByte 101).SpelledBy (Party.ofByte 101).toJson.node :=
    Party.ofNode_eq_ok_iff.mp (Party.ofNode_toJson _)
  have hq : Quantity.SpelledBy 1 (Value.ofInt 1).node :=
    Quantity.ofNode_eq_ok_iff.mp (Quantity.ofNode_ofInt 1)
  have hodd := writtenAs_oddlyNamed
  have hminus := writtenAs_minusNothing
  refine ⟨⟨hodd, ⟨_, rfl, hi⟩, ⟨_, rfl, hh⟩, ⟨_, rfl, hq⟩, fun r h => ?_⟩,
    hminus, ⟨_, rfl, hi⟩, ⟨_, rfl, hh⟩, ⟨_, rfl, rfl⟩, fun r h => ?_⟩
  · rw [ofJson, hodd.readText_eq, ofNode_eq_ok_iff_spelledBy _ hodd.1, spelledBy_object_iff] at h
    obtain ⟨_, hname⟩ := h.1 (halfPair, .null) (by simp [oddlyNamed])
    cases hname
  · rw [ofJson, hminus.readText_eq, ofNode_eq_ok_iff_spelledBy _ hminus.1,
      spelledBy_object_iff] at h
    obtain ⟨n, hn, t, rfl, ht⟩ := h.2.2.2
    cases hn
    exact ht.notMinusZero rfl ht.value

end Record

end TokenLedger
