import TokenLedger.Proofs.Json.Fields
import TokenLedger.Proofs.Json.Readers
import TokenLedger.Proofs.Wire.Checked

/-! # The grammar of records and proposals

Which trees spell a record or a proposal, said without a reader: objects with the right members in
any order and among any others, or arrays of their values in the order of declaration.
-/
namespace TokenLedger

open Json

namespace Json

def OccursOnce (name : String) (P : Node → Prop) (members : List (StringToken × Node)) : Prop :=
  ∃ n, valuesOf name members = [n] ∧ P n

/-- The name occurs once, with a value as it should be, or it does not occur and means as much as
something else. -/
def MayOccur (name : String) (P : Node → Prop) (absent : Prop)
    (members : List (StringToken × Node)) : Prop :=
  OccursOnce name P members ∨ valuesOf name members = [] ∧ absent

section
variable {α : Type} {read : Node → Read α} {name : String} {P : Node → Prop} {x default : α}
  {members : List (StringToken × Node)}

/-- A place that is filled once. -/
theorem occursOnce_iff_fills (hw : WholeMembers members)
    (hread : ∀ n, n.Whole → (read n = .ok x ↔ P n)) :
    OccursOnce name P members ↔ Fills (read · = .ok ·) none (valuesOf name members) (some x) := by
  rw [Fills.none_some_iff]
  refine exists_congr fun n => and_congr_right fun hn => ?_
  have hmem : n ∈ valuesOf name members := hn ▸ List.mem_singleton_self n
  exact (hread n (whole_of_mem_valuesOf hw hmem)).symm

/-- A place that is filled once, or else stands for a default. -/
theorem mayOccur_iff_fills (hw : WholeMembers members)
    (hread : ∀ n, n.Whole → (read n = .ok x ↔ P n)) :
    MayOccur name P (x = default) members ↔
      ∃ new, Fills (read · = .ok ·) none (valuesOf name members) new ∧ new.getD default = x := by
  rw [MayOccur, occursOnce_iff_fills hw hread]
  constructor
  · rintro (h | ⟨hnone, rfl⟩)
    · exact ⟨some x, h, rfl⟩
    · exact ⟨none, Fills.none_none_iff.mpr hnone, rfl⟩
  · rintro ⟨_ | y, hfills, rfl⟩
    · exact Or.inr ⟨Fills.none_none_iff.mp hfills, rfl⟩
    · exact Or.inl hfills

end

theorem readObject_closed {σ : Type} (field : σ → String → Option (Node → Read σ)) (draft : σ)
    (members : List (StringToken × Node)) :
    readObject field draft members .closed = readMembers field draft members := by
  rw [readObject]
  cases readMembers field draft members <;> rfl

theorem required_eq_ok_iff {α : Type} {name : String} {found : Option α} {v : α} :
    required name found = .ok v ↔ found = some v := by
  cases found <;> simp [required, refuse]

end Json

def Party.SpelledBy (p : Party) (n : Node) : Prop := ∃ text, n.IsString text ∧ parse text = .ok p

def Quantity.SpelledBy (q : Quantity) (n : Node) : Prop := n.IsInteger q.toInt

theorem Party.ofNode_eq_ok_iff {n : Node} {p : Party} : ofNode n = .ok p ↔ p.SpelledBy n := by
  rw [ofNode, bind_eq_ok_iff]
  refine exists_congr fun text => ?_
  rw [Node.readString_eq_ok_iff]
  cases parse text <;> simp [refuse]

theorem Party.SpelledBy.unique {p q : Party} {n : Node} (hp : p.SpelledBy n) (hq : q.SpelledBy n) :
    p = q := by
  rw [← Party.ofNode_eq_ok_iff] at hp hq
  exact Except.ok.inj (hp.symm.trans hq)

theorem Quantity.ofNode_eq_ok_iff {n : Node} {q : Quantity} :
    ofNode n = .ok q ↔ Quantity.SpelledBy q n := by
  have hlow := q.le_toInt
  have hhigh := q.toInt_lt
  rw [ofNode, map_eq_ok_iff]
  constructor
  · rintro ⟨z, hz, rfl⟩
    obtain ⟨hz, hl, hh⟩ := (Node.readInteger_eq_ok_iff (by decide) (by decide)).mp hz
    rw [SpelledBy, Int64.toInt_ofInt_of_le (by omega) (by omega)]
    exact hz
  · intro h
    refine ⟨q.toInt, ?_, Int64.ofInt_toInt q⟩
    exact (Node.readInteger_eq_ok_iff (by decide) (by decide)).mpr ⟨h, by omega, by omega⟩

namespace Record

/-- The parts of a record, in the order of declaration. -/
inductive Part
  | issuer
  | holder
  | quantity
  deriving DecidableEq

namespace Part

def Carrier : Part → Type
  | .issuer | .holder => Party
  | .quantity => Quantity

def name : Part → String
  | .issuer => "issuer"
  | .holder => "holder"
  | .quantity => "quantity"

def read : (k : Part) → Node → Read k.Carrier
  | .issuer | .holder => Party.ofNode
  | .quantity => Quantity.ofNode

theorem name_injective {j k : Part} (h : j.name = k.name) : j = k := by
  revert h
  cases j <;> cases k <;> decide

end Part

namespace Draft

def get (d : Draft) : (k : Part) → Option k.Carrier
  | .issuer => d.issuer
  | .holder => d.holder
  | .quantity => d.quantity

def put (d : Draft) : (k : Part) → k.Carrier → Draft
  | .issuer, p => ⟨some p, d.holder, d.quantity⟩
  | .holder, p => ⟨d.issuer, some p, d.quantity⟩
  | .quantity, q => ⟨d.issuer, d.holder, some q⟩

theorem ext_get {d e : Draft} (h : ∀ k, d.get k = e.get k) : d = e := by
  obtain ⟨issuer, holder, quantity⟩ := d
  obtain rfl : issuer = e.issuer := h .issuer
  obtain rfl : holder = e.holder := h .holder
  obtain rfl : quantity = e.quantity := h .quantity
  rfl

theorem get_put_self (d : Draft) (k : Part) (x : k.Carrier) : (d.put k x).get k = some x := by
  cases k <;> rfl

theorem get_put_of_ne (d : Draft) {j k : Part} (h : j ≠ k) (x : j.Carrier) :
    (d.put j x).get k = d.get k := by
  cases j <;> cases k <;> first | rfl | exact absurd rfl h

theorem field_name (d : Draft) (k : Part) :
    d.field k.name = some (once k.name (d.get k) k.read (d.put k)) := by
  cases k <;> rfl

theorem field_other (d : Draft) {s : String} (h : ∀ k : Part, k.name ≠ s) : d.field s = none := by
  unfold field
  split
  · exact absurd rfl (h .issuer)
  · exact absurd rfl (h .holder)
  · exact absurd rfl (h .quantity)
  · rfl

end Draft

def form : Form Draft.field where
  Field := Part
  Carrier := Part.Carrier
  name := Part.name
  read := Part.read
  get := Draft.get
  set := Draft.put
  name_injective := Part.name_injective
  ext := Draft.ext_get
  get_set_self := Draft.get_put_self
  get_set_of_ne d _ _ x h := d.get_put_of_ne h x
  field_name := Draft.field_name
  field_other d _ h := d.field_other h

/-- A record is spelled by an object in which each of its parts has a member, or by an array of its
parts. In the object there may be other members, as long as their names are strings. -/
inductive SpelledBy (r : Record) : Node → Prop
  | object {members : List (StringToken × Node)} (named : Named members)
    (issuer : OccursOnce "issuer" r.issuer.SpelledBy members)
    (holder : OccursOnce "holder" r.holder.SpelledBy members)
    (quantity : OccursOnce "quantity" (Quantity.SpelledBy r.quantity) members) :
    r.SpelledBy (.object members .closed)
  | array {i h q : Node} (issuer : r.issuer.SpelledBy i) (holder : r.holder.SpelledBy h)
    (quantity : Quantity.SpelledBy r.quantity q) : r.SpelledBy (.array [i, h, q] .closed)

/-- Three places are filled by what occurs once under their names. -/
theorem filledBy_empty_iff {members : List (StringToken × Node)} (hw : WholeMembers members)
    {i h : Party} {q : Quantity} :
    form.FilledBy .empty members ⟨some i, some h, some q⟩ ↔
      OccursOnce "issuer" i.SpelledBy members ∧ OccursOnce "holder" h.SpelledBy members ∧
        OccursOnce "quantity" (Quantity.SpelledBy q) members := by
  have hparty : ∀ (name : String) (p : Party), OccursOnce name p.SpelledBy members ↔
      Fills (Party.ofNode · = .ok ·) none (valuesOf name members) (some p) := fun _ _ =>
    occursOnce_iff_fills hw fun _ _ => Party.ofNode_eq_ok_iff
  have hquantity : OccursOnce "quantity" (Quantity.SpelledBy q) members ↔
      Fills (Quantity.ofNode · = .ok ·) none (valuesOf "quantity" members) (some q) :=
    occursOnce_iff_fills hw fun _ _ => Quantity.ofNode_eq_ok_iff
  rw [hparty, hparty, hquantity]
  constructor
  · intro hall
    exact ⟨hall .issuer, hall .holder, hall .quantity⟩
  · rintro ⟨hi, hh, hq⟩ (_ | _ | _)
    · exact hi
    · exact hh
    · exact hq

theorem partsOfNode_object_eq_ok_iff {members : List (StringToken × Node)}
    (hw : WholeMembers members) {i h : Party} {q : Quantity} :
    partsOfNode (.object members .closed) = .ok (i, h, q) ↔
      Named members ∧ OccursOnce "issuer" i.SpelledBy members ∧
        OccursOnce "holder" h.SpelledBy members ∧
        OccursOnce "quantity" (Quantity.SpelledBy q) members := by
  rw [← filledBy_empty_iff hw, ← form.readMembers_eq_ok_iff hw, partsOfNode, readObject_closed]
  simp only [bind_eq_ok_iff, required_eq_ok_iff, Except.ok.injEq, Prod.mk.injEq]
  constructor
  · rintro ⟨⟨_, _, _⟩, hd, _, rfl, _, rfl, _, rfl, rfl, rfl, rfl⟩
    exact hd
  · intro hd
    exact ⟨_, hd, _, rfl, _, rfl, _, rfl, rfl, rfl, rfl⟩

theorem partsOfNode_array_eq_ok_iff {items : List Node} {i h : Party} {q : Quantity} :
    partsOfNode (.array items .closed) = .ok (i, h, q) ↔
      ∃ a b c, items = [a, b, c] ∧ i.SpelledBy a ∧ h.SpelledBy b ∧ Quantity.SpelledBy q c := by
  simp only [partsOfNode, bind_eq_ok_iff, Prod.exists, readItem_eq_ok_iff, endOfItems_eq_ok_iff,
    Party.ofNode_eq_ok_iff, Quantity.ofNode_eq_ok_iff, Except.ok.injEq, Prod.mk.injEq]
  constructor
  · rintro ⟨_, _, ⟨a, rfl, ha⟩, _, _, ⟨b, rfl, hb⟩, _, _, ⟨c, rfl, hc⟩, _, rfl, rfl, rfl, rfl⟩
    exact ⟨a, b, c, rfl, ha, hb, hc⟩
  · rintro ⟨a, b, c, rfl, ha, hb, hc⟩
    exact ⟨_, _, ⟨a, rfl, ha⟩, _, _, ⟨b, rfl, hb⟩, _, _, ⟨c, rfl, hc⟩, (), rfl, rfl, rfl, rfl⟩

theorem spelledBy_object_iff {members : List (StringToken × Node)} {r : Record} :
    r.SpelledBy (.object members .closed) ↔
      Named members ∧ OccursOnce "issuer" r.issuer.SpelledBy members ∧
        OccursOnce "holder" r.holder.SpelledBy members ∧
        OccursOnce "quantity" (Quantity.SpelledBy r.quantity) members := by
  constructor
  · rintro (⟨hnamed, hi, hh, hq⟩ | _)
    exact ⟨hnamed, hi, hh, hq⟩
  · rintro ⟨hnamed, hi, hh, hq⟩
    exact .object hnamed hi hh hq

theorem spelledBy_array_iff {items : List Node} {r : Record} :
    r.SpelledBy (.array items .closed) ↔
      ∃ a b c, items = [a, b, c] ∧ r.issuer.SpelledBy a ∧ r.holder.SpelledBy b ∧
        Quantity.SpelledBy r.quantity c := by
  constructor
  · rintro (_ | ⟨hi, hh, hq⟩)
    exact ⟨_, _, _, rfl, hi, hh, hq⟩
  · rintro ⟨a, b, c, rfl, hi, hh, hq⟩
    exact .array hi hh hq

/-- A record is read from the trees that spell it, and from no others. -/
theorem ofNode_eq_ok_iff_spelledBy (n : Node) (hw : n.Whole) (r : Record) :
    ofNode n = .ok r ↔ r.SpelledBy n := by
  rw [ofNode_eq_ok_iff]
  cases n with
  | object members ending =>
    obtain ⟨rfl, hmembers⟩ := hw
    rw [partsOfNode_object_eq_ok_iff hmembers, spelledBy_object_iff]
  | array items ending =>
    obtain ⟨rfl, _⟩ := hw
    rw [partsOfNode_array_eq_ok_iff, spelledBy_array_iff]
  | _ =>
    unfold partsOfNode
    refine iff_of_false (Node.refuse_ne_ok _ _ _) fun h => ?_
    cases h

end Record

def Signers.SpelledBy (s : Signers) (n : Node) : Prop :=
  ∃ parties, n.IsListOf Party.SpelledBy parties ∧ ofList parties = s

namespace Proposal

/-- The parts of a proposal, in the order of declaration. -/
inductive Part
  | inputs
  | outputs
  | intent
  | signers
  deriving DecidableEq

namespace Part

def Carrier : Part → Type
  | .inputs | .outputs => List Record
  | .intent => String
  | .signers => Signers

def name : Part → String
  | .inputs => "inputs"
  | .outputs => "outputs"
  | .intent => "intent"
  | .signers => "signers"

def read : (k : Part) → Node → Read k.Carrier
  | .inputs | .outputs => recordsOfNode
  | .intent => intentOfNode
  | .signers => signersOfNode

theorem name_injective {j k : Part} (h : j.name = k.name) : j = k := by
  revert h
  cases j <;> cases k <;> decide

end Part

namespace Draft

def get (d : Draft) : (k : Part) → Option k.Carrier
  | .inputs => d.inputs
  | .outputs => d.outputs
  | .intent => d.intent
  | .signers => d.signers

def put (d : Draft) : (k : Part) → k.Carrier → Draft
  | .inputs, v => ⟨some v, d.outputs, d.intent, d.signers⟩
  | .outputs, v => ⟨d.inputs, some v, d.intent, d.signers⟩
  | .intent, v => ⟨d.inputs, d.outputs, some v, d.signers⟩
  | .signers, v => ⟨d.inputs, d.outputs, d.intent, some v⟩

theorem ext_get {d e : Draft} (h : ∀ k, d.get k = e.get k) : d = e := by
  obtain ⟨inputs, outputs, intent, signers⟩ := d
  obtain rfl : inputs = e.inputs := h .inputs
  obtain rfl : outputs = e.outputs := h .outputs
  obtain rfl : intent = e.intent := h .intent
  obtain rfl : signers = e.signers := h .signers
  rfl

theorem get_put_self (d : Draft) (k : Part) (x : k.Carrier) : (d.put k x).get k = some x := by
  cases k <;> rfl

theorem get_put_of_ne (d : Draft) {j k : Part} (h : j ≠ k) (x : j.Carrier) :
    (d.put j x).get k = d.get k := by
  cases j <;> cases k <;> first | rfl | exact absurd rfl h

theorem field_name (d : Draft) (k : Part) :
    d.field k.name = some (once k.name (d.get k) k.read (d.put k)) := by
  cases k <;> rfl

theorem field_other (d : Draft) {s : String} (h : ∀ k : Part, k.name ≠ s) : d.field s = none := by
  unfold field
  split
  · exact absurd rfl (h .inputs)
  · exact absurd rfl (h .outputs)
  · exact absurd rfl (h .intent)
  · exact absurd rfl (h .signers)
  · rfl

end Draft

def form : Form Draft.field where
  Field := Part
  Carrier := Part.Carrier
  name := Part.name
  read := Part.read
  get := Draft.get
  set := Draft.put
  name_injective := Part.name_injective
  ext := Draft.ext_get
  get_set_self := Draft.get_put_self
  get_set_of_ne d _ _ x h := d.get_put_of_ne h x
  field_name := Draft.field_name
  field_other d _ h := d.field_other h

/-- A proposal is spelled by an object in which its intent has a member and each of its lists has
one or is empty, or by an array of its parts, from which the signers may be left out. In the object
there may be other members, as long as their names are strings. -/
inductive SpelledBy (p : Proposal) : Node → Prop
  | object {members : List (StringToken × Node)} (named : Named members)
    (inputs : MayOccur "inputs" (·.IsListOf Record.SpelledBy p.inputs) (p.inputs = []) members)
    (outputs : MayOccur "outputs" (·.IsListOf Record.SpelledBy p.outputs) (p.outputs = []) members)
    (intent : OccursOnce "intent" (·.IsString p.intent) members)
    (signers : MayOccur "signers" p.signers.SpelledBy (p.signers = .empty) members) :
    p.SpelledBy (.object members .closed)
  | array {i o t s : Node} (inputs : i.IsListOf Record.SpelledBy p.inputs)
    (outputs : o.IsListOf Record.SpelledBy p.outputs) (intent : t.IsString p.intent)
    (signers : p.signers.SpelledBy s) : p.SpelledBy (.array [i, o, t, s] .closed)
  | unsigned {i o t : Node} (inputs : i.IsListOf Record.SpelledBy p.inputs)
    (outputs : o.IsListOf Record.SpelledBy p.outputs) (intent : t.IsString p.intent)
    (signers : p.signers = .empty) : p.SpelledBy (.array [i, o, t] .closed)

section
variable {n : Node}

theorem recordsOfNode_eq_ok_iff (hw : n.Whole) {rs : List Record} :
    recordsOfNode n = .ok rs ↔ n.IsListOf Record.SpelledBy rs :=
  Node.readList_eq_ok_iff Record.ofNode_eq_ok_iff_spelledBy hw

theorem signersOfNode_eq_ok_iff (hw : n.Whole) {s : Signers} :
    signersOfNode n = .ok s ↔ s.SpelledBy n := by
  rw [signersOfNode, map_eq_ok_iff]
  refine exists_congr fun parties => ?_
  rw [Node.readList_eq_ok_iff (fun _ _ _ => Party.ofNode_eq_ok_iff) hw]

theorem intentOfNode_eq_ok_iff {text : String} : intentOfNode n = .ok text ↔ n.IsString text :=
  Node.readString_eq_ok_iff

end

theorem filledBy_empty_iff {members : List (StringToken × Node)} {d : Draft} :
    form.FilledBy .empty members d ↔
      Fills (recordsOfNode · = .ok ·) none (valuesOf "inputs" members) d.inputs ∧
        Fills (recordsOfNode · = .ok ·) none (valuesOf "outputs" members) d.outputs ∧
        Fills (intentOfNode · = .ok ·) none (valuesOf "intent" members) d.intent ∧
        Fills (signersOfNode · = .ok ·) none (valuesOf "signers" members) d.signers := by
  constructor
  · intro hall
    exact ⟨hall .inputs, hall .outputs, hall .intent, hall .signers⟩
  · rintro ⟨hi, ho, ht, hs⟩ (_ | _ | _ | _)
    · exact hi
    · exact ho
    · exact ht
    · exact hs

theorem ofNode_object_eq_ok_iff {members : List (StringToken × Node)} (hw : WholeMembers members)
    {p : Proposal} :
    ofNode (.object members .closed) = .ok p ↔
      Named members ∧
        MayOccur "inputs" (·.IsListOf Record.SpelledBy p.inputs) (p.inputs = []) members ∧
        MayOccur "outputs" (·.IsListOf Record.SpelledBy p.outputs) (p.outputs = []) members ∧
        OccursOnce "intent" (·.IsString p.intent) members ∧
        MayOccur "signers" p.signers.SpelledBy (p.signers = .empty) members := by
  have hlist : ∀ (name : String) (rs : List Record),
      MayOccur name (·.IsListOf Record.SpelledBy rs) (rs = []) members ↔
        ∃ new, Fills (recordsOfNode · = .ok ·) none (valuesOf name members) new ∧
          new.getD [] = rs := fun _ _ =>
    mayOccur_iff_fills hw fun _ hn => recordsOfNode_eq_ok_iff hn
  have hsigners : MayOccur "signers" p.signers.SpelledBy (p.signers = .empty) members ↔
      ∃ new, Fills (signersOfNode · = .ok ·) none (valuesOf "signers" members) new ∧
        new.getD .empty = p.signers :=
    mayOccur_iff_fills hw fun _ hn => signersOfNode_eq_ok_iff hn
  have hintent : OccursOnce "intent" (·.IsString p.intent) members ↔
      Fills (intentOfNode · = .ok ·) none (valuesOf "intent" members) (some p.intent) :=
    occursOnce_iff_fills hw fun _ _ => intentOfNode_eq_ok_iff
  rw [hlist, hlist, hsigners, hintent]
  simp only [ofNode, readObject_closed, bind_eq_ok_iff, required_eq_ok_iff,
    form.readMembers_eq_ok_iff hw, filledBy_empty_iff, Except.ok.injEq]
  constructor
  · rintro ⟨d, ⟨hnamed, hi, ho, ht, hs⟩, intent, hd, rfl⟩
    rw [hd] at ht
    exact ⟨hnamed, ⟨_, hi, rfl⟩, ⟨_, ho, rfl⟩, ht, ⟨_, hs, rfl⟩⟩
  · rintro ⟨hnamed, ⟨inputs, hi, hip⟩, ⟨outputs, ho, hop⟩, ht, ⟨signers, hs, hsp⟩⟩
    refine ⟨⟨inputs, outputs, some p.intent, signers⟩, ⟨hnamed, hi, ho, ht, hs⟩, p.intent, rfl, ?_⟩
    rw [hip, hop, hsp]

/-- An array has three items, or four with the signers. -/
theorem ofNode_array_eq_ok_iff {items : List Node} (hw : ∀ n ∈ items, n.Whole) {p : Proposal} :
    ofNode (.array items .closed) = .ok p ↔
      ∃ i o t rest, items = i :: o :: t :: rest ∧ i.IsListOf Record.SpelledBy p.inputs ∧
        o.IsListOf Record.SpelledBy p.outputs ∧ t.IsString p.intent ∧
        ((∃ s, rest = [s] ∧ p.signers.SpelledBy s) ∨ rest = [] ∧ p.signers = .empty) := by
  simp only [ofNode, bind_eq_ok_iff, Prod.exists, readItem_eq_ok_iff, readItemOr_eq_ok_iff,
    endOfItems_eq_ok_iff, Except.ok.injEq, intentOfNode_eq_ok_iff]
  constructor
  · rintro ⟨rs, left, hin, os, left', hout, text, rest, ⟨t, rfl, ht⟩, signers, _, hs, _, rfl, rfl⟩
    obtain ⟨i, rfl, hi⟩ | ⟨rfl, rfl, rfl⟩ := hin
    · obtain ⟨o, rfl, ho⟩ | ⟨_, h, _⟩ := hout
      · simp only [List.forall_mem_cons] at hw
        obtain ⟨hwi, hwo, _, hwrest⟩ := hw
        refine ⟨i, o, t, rest, rfl, (recordsOfNode_eq_ok_iff hwi).mp hi,
          (recordsOfNode_eq_ok_iff hwo).mp ho, ht, ?_⟩
        obtain ⟨s, rfl, hs⟩ | ⟨rfl, _, rfl⟩ := hs
        · exact Or.inl ⟨s, rfl, (signersOfNode_eq_ok_iff (hwrest s List.mem_cons_self)).mp hs⟩
        · exact Or.inr ⟨rfl, rfl⟩
      · cases h
    · obtain ⟨_, h, _⟩ | ⟨_, h, _⟩ := hout <;> cases h
  · rintro ⟨i, o, t, rest, rfl, hi, ho, ht, hs⟩
    simp only [List.forall_mem_cons] at hw
    obtain ⟨hwi, hwo, _, hwrest⟩ := hw
    refine ⟨p.inputs, o :: t :: rest, Or.inl ⟨i, rfl, (recordsOfNode_eq_ok_iff hwi).mpr hi⟩,
      p.outputs, t :: rest, Or.inl ⟨o, rfl, (recordsOfNode_eq_ok_iff hwo).mpr ho⟩,
      p.intent, rest, ⟨t, rfl, ht⟩, p.signers, [], ?_, (), rfl, rfl⟩
    obtain ⟨s, rfl, hs⟩ | ⟨rfl, hs⟩ := hs
    · exact Or.inl ⟨s, rfl, (signersOfNode_eq_ok_iff (hwrest s List.mem_cons_self)).mpr hs⟩
    · exact Or.inr ⟨rfl, rfl, hs⟩

theorem spelledBy_object_iff {members : List (StringToken × Node)} {p : Proposal} :
    p.SpelledBy (.object members .closed) ↔
      Named members ∧
        MayOccur "inputs" (·.IsListOf Record.SpelledBy p.inputs) (p.inputs = []) members ∧
        MayOccur "outputs" (·.IsListOf Record.SpelledBy p.outputs) (p.outputs = []) members ∧
        OccursOnce "intent" (·.IsString p.intent) members ∧
        MayOccur "signers" p.signers.SpelledBy (p.signers = .empty) members := by
  constructor
  · rintro (⟨hnamed, hi, ho, ht, hs⟩ | _ | _)
    exact ⟨hnamed, hi, ho, ht, hs⟩
  · rintro ⟨hnamed, hi, ho, ht, hs⟩
    exact .object hnamed hi ho ht hs

theorem spelledBy_array_iff {items : List Node} {p : Proposal} :
    p.SpelledBy (.array items .closed) ↔
      ∃ i o t rest, items = i :: o :: t :: rest ∧ i.IsListOf Record.SpelledBy p.inputs ∧
        o.IsListOf Record.SpelledBy p.outputs ∧ t.IsString p.intent ∧
        ((∃ s, rest = [s] ∧ p.signers.SpelledBy s) ∨ rest = [] ∧ p.signers = .empty) := by
  constructor
  · rintro (_ | ⟨hi, ho, ht, hs⟩ | ⟨hi, ho, ht, hs⟩)
    · exact ⟨_, _, _, _, rfl, hi, ho, ht, Or.inl ⟨_, rfl, hs⟩⟩
    · exact ⟨_, _, _, _, rfl, hi, ho, ht, Or.inr ⟨rfl, hs⟩⟩
  · rintro ⟨i, o, t, rest, rfl, hi, ho, ht, ⟨s, rfl, hs⟩ | ⟨rfl, hs⟩⟩
    · exact .array hi ho ht hs
    · exact .unsigned hi ho ht hs

/-- A proposal is read from the trees that spell it, and from no others. -/
theorem ofNode_eq_ok_iff_spelledBy {n : Node} (hw : n.Whole) (p : Proposal) :
    ofNode n = .ok p ↔ p.SpelledBy n := by
  cases n with
  | object members ending =>
    obtain ⟨rfl, hmembers⟩ := hw
    rw [ofNode_object_eq_ok_iff hmembers, spelledBy_object_iff]
  | array items ending =>
    obtain ⟨rfl, hitems⟩ := hw
    rw [ofNode_array_eq_ok_iff (wholeItems_iff.mp hitems), spelledBy_array_iff]
  | _ =>
    unfold ofNode
    refine iff_of_false (Node.refuse_ne_ok _ _ _) fun h => ?_
    cases h

end Proposal

end TokenLedger
