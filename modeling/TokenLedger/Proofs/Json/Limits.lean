import TokenLedger.Proofs.Json.Readers
import TokenLedger.Proofs.Json.Fields

/-! # The limits of memory

What can be taken into memory as it is: a tree of which every string is text and every number is in
range, and which is not nested too deeply. A buffered list or object is read element by element.
-/
namespace TokenLedger.Json

mutual

/-- The tree has at most `room` levels of nesting, its strings and names are text, and its numbers
are in range. -/
def Node.FitsIn (room : Nat) : Node → Prop
  | .null | .bool _ => True
  | .number t => ∃ x, t.value = .ok x
  | .string s => ∃ text, s.value = .ok text
  | .array items _ =>
    match room with
    | 0 => False
    | room + 1 => ItemTreesFitIn room items
  | .object members _ =>
    match room with
    | 0 => False
    | room + 1 => MemberTreesFitIn room members
  | .broken _ => False
termination_by structural n => n

def ItemTreesFitIn (room : Nat) : List Node → Prop
  | [] => True
  | n :: rest => n.FitsIn room ∧ ItemTreesFitIn room rest
termination_by structural n => n

def MemberTreesFitIn (room : Nat) : List (StringToken × Node) → Prop
  | [] => True
  | (key, n) :: rest => (∃ name, key.value = .ok name) ∧ n.FitsIn room ∧ MemberTreesFitIn room rest
termination_by structural n => n

end

def ReadInto (room : Nat) (m : StringToken × Node) (v : String × Value) : Prop :=
  m.1.value = .ok v.1 ∧ m.2.readValue room = .ok v.2

section
variable {room : Nat} {items : List Node} {members : List (StringToken × Node)}

theorem readValues_eq_ok_iff {values : List Value} :
    readValues room items = .ok values ↔
      List.Forall₂ (fun n v => n.readValue room = .ok v) items values := by
  induction items generalizing values with
  | nil => cases values <;> simp [readValues]
  | cons n rest ih =>
    rw [readValues, List.forall₂_cons_left_iff]
    simp only [bind_eq_ok_iff, ih, Except.ok.injEq]
    constructor
    · rintro ⟨v, hv, vs, hvs, rfl⟩
      exact ⟨v, vs, hv, hvs, rfl⟩
    · rintro ⟨v, vs, hv, hvs, rfl⟩
      exact ⟨v, hv, vs, hvs, rfl⟩

theorem readMemberValues_eq_ok_iff {values : List (String × Value)} :
    readMemberValues room members = .ok values ↔ List.Forall₂ (ReadInto room) members values := by
  induction members generalizing values with
  | nil => cases values <;> simp [readMemberValues]
  | cons m rest ih =>
    obtain ⟨key, n⟩ := m
    rw [readMemberValues, List.forall₂_cons_left_iff]
    simp only [bind_eq_ok_iff, ih, Except.ok.injEq, liftText, mapError_eq_ok_iff, ReadInto]
    constructor
    · rintro ⟨name, hname, v, hv, vs, hvs, rfl⟩
      exact ⟨(name, v), vs, ⟨hname, hv⟩, hvs, rfl⟩
    · rintro ⟨⟨name, v⟩, vs, ⟨hname, hv⟩, hvs, rfl⟩
      exact ⟨name, hname, v, hv, vs, hvs, rfl⟩

theorem readValue_array_eq_ok_iff {v : Value} :
    (Node.array items .closed).readValue (room + 1) = .ok v ↔
      ∃ values, List.Forall₂ (fun n v => n.readValue room = .ok v) items values ∧
        .array values = v := by
  simp [Node.readValue, bind_eq_ok_iff, readValues_eq_ok_iff, require, Ending.itemFault?]

theorem readValue_object_eq_ok_iff {v : Value} :
    (Node.object members .closed).readValue (room + 1) = .ok v ↔
      ∃ values, List.Forall₂ (ReadInto room) members values ∧ .object values = v := by
  simp [Node.readValue, bind_eq_ok_iff, readMemberValues_eq_ok_iff, require, Ending.memberFault?]

/-- The values under a name go into memory one by one. -/
theorem forall₂_valuesOf {others : List (String × Value)}
    (h : List.Forall₂ (ReadInto room) members others) (name : String) :
    List.Forall₂ (fun n v => n.readValue room = .ok v) (valuesOf name members)
      ((others.filter fun o => o.1 = name).map Prod.snd) := by
  induction h with
  | nil => exact .nil
  | @cons m o members others hm _ ih =>
    obtain ⟨hkey, hv⟩ := hm
    by_cases hname : o.1 = name
    · rw [valuesOf_cons_self (hname ▸ hkey), List.filter_cons_of_pos (by simpa using hname)]
      exact .cons hv ih
    · rw [valuesOf_cons_of_ne hkey hname, List.filter_cons_of_neg (by simpa using hname)]
      exact ih

end

/-- What a whole tree has been taken into memory as. -/
inductive TakenAs : Nat → Node → Value → Prop
  | null {room : Nat} : TakenAs room .null .null
  | bool {room : Nat} {b : Bool} : TakenAs room (.bool b) (.bool b)
  | number {room : Nat} {t : NumberToken} {x : Number} (value : t.value = .ok x) :
    TakenAs room (.number t) (.number x)
  | string {room : Nat} {s : StringToken} {text : String} (value : s.value = .ok text) :
    TakenAs room (.string s) (.string text)
  | array {room : Nat} {items : List Node} {values : List Value}
    (each : List.Forall₂ (fun n v => n.readValue room = .ok v) items values) :
    TakenAs (room + 1) (.array items .closed) (.array values)
  | object {room : Nat} {members : List (StringToken × Node)} {values : List (String × Value)}
    (each : List.Forall₂ (ReadInto room) members values) :
    TakenAs (room + 1) (.object members .closed) (.object values)

theorem takenAs_of_readValue {n : Node} {room : Nat} {v : Value} (hw : n.Whole)
    (h : n.readValue room = .ok v) : TakenAs room n v := by
  cases n with
  | null =>
    obtain rfl := Except.ok.inj h
    exact .null
  | bool b =>
    obtain rfl := Except.ok.inj h
    exact .bool
  | number t =>
    obtain ⟨x, hx, rfl⟩ := map_eq_ok_iff.mp h
    exact .number (mapError_eq_ok_iff.mp hx)
  | string s =>
    obtain ⟨text, htext, rfl⟩ := map_eq_ok_iff.mp h
    exact .string (mapError_eq_ok_iff.mp htext)
  | array items ending =>
    obtain ⟨rfl, _⟩ := hw
    cases room with
    | zero => cases h
    | succ room =>
      obtain ⟨values, hvalues, rfl⟩ := readValue_array_eq_ok_iff.mp h
      exact .array hvalues
  | object members ending =>
    obtain ⟨rfl, _⟩ := hw
    cases room with
    | zero => cases h
    | succ room =>
      obtain ⟨values, hvalues, rfl⟩ := readValue_object_eq_ok_iff.mp h
      exact .object hvalues
  | broken => exact absurd hw id

namespace TakenAs
variable {room : Nat} {n : Node} {v : Value}

theorem eq_null_iff (h : TakenAs room n v) : v = .null ↔ n = .null := by
  cases h <;> simp

theorem eq_hollow_iff (h : TakenAs room n v) : v = .object [] ↔ n = .object [] .closed := by
  cases h with
  | object hmembers => cases hmembers <;> simp
  | _ => simp

end TakenAs

mutual

/-- A tree is taken into memory exactly if it is within the limits. -/
theorem Node.exists_readValue_iff : ∀ (n : Node) (room : Nat), n.Whole →
    ((∃ v, n.readValue room = .ok v) ↔ n.FitsIn room)
  | .null, _, _ => by simp [Node.readValue, Node.FitsIn]
  | .bool _, _, _ => by simp [Node.readValue, Node.FitsIn]
  | .number t, _, _ => by
    simp [Node.readValue, Node.FitsIn, map_eq_ok_iff, liftText, mapError_eq_ok_iff]
  | .string s, _, _ => by
    simp [Node.readValue, Node.FitsIn, map_eq_ok_iff, liftText, mapError_eq_ok_iff]
  | .array _ _, 0, _ => by simp [Node.readValue, Node.FitsIn, raise]
  | .object _ _, 0, _ => by simp [Node.readValue, Node.FitsIn, raise]
  | .array items _, room + 1, h => by
    obtain ⟨rfl, hitems⟩ := h
    rw [Node.FitsIn, ← exists_readValues_iff items room hitems]
    simp [readValue_array_eq_ok_iff]
  | .object members _, room + 1, h => by
    obtain ⟨rfl, hmembers⟩ := h
    rw [Node.FitsIn, ← exists_readMemberValues_iff members room hmembers]
    simp [readValue_object_eq_ok_iff]
  | .broken _, _, h => absurd h id
termination_by structural n => n

theorem exists_readValues_iff : ∀ (items : List Node) (room : Nat), WholeItems items →
    ((∃ values, List.Forall₂ (fun n v => n.readValue room = .ok v) items values) ↔
      ItemTreesFitIn room items)
  | [], _, _ => by simp [ItemTreesFitIn]
  | n :: rest, room, h => by
    rw [exists_forall₂_iff, List.forall_mem_cons, ← exists_forall₂_iff, ItemTreesFitIn,
      n.exists_readValue_iff room h.1, exists_readValues_iff rest room h.2]
termination_by structural items => items

theorem exists_readMemberValues_iff : ∀ (members : List (StringToken × Node)) (room : Nat),
    WholeMembers members →
    ((∃ values, List.Forall₂ (ReadInto room) members values) ↔ MemberTreesFitIn room members)
  | [], _, _ => by simp [MemberTreesFitIn]
  | (key, n) :: rest, room, h => by
    have hm : (∃ v, ReadInto room (key, n) v) ↔
        (∃ name, key.value = .ok name) ∧ ∃ v, n.readValue room = .ok v := by
      simp [ReadInto]
    rw [exists_forall₂_iff, List.forall_mem_cons, ← exists_forall₂_iff, MemberTreesFitIn, hm,
      n.exists_readValue_iff room h.2.1, exists_readMemberValues_iff rest room h.2.2, and_assoc]
termination_by structural members => members

end

theorem memberTreesFitIn_iff {room : Nat} {members : List (StringToken × Node)} :
    MemberTreesFitIn room members ↔
      ∀ m ∈ members, (∃ name, m.1.value = .ok name) ∧ m.2.FitsIn room := by
  induction members with
  | nil => simp [MemberTreesFitIn]
  | cons m rest ih => rw [MemberTreesFitIn, List.forall_mem_cons, ih, and_assoc]

theorem Node.IsString.fitsIn {n : Node} {text : String} (h : n.IsString text) {room : Nat} :
    n.FitsIn room := by
  obtain ⟨s, rfl, hs⟩ := h
  exact ⟨text, hs⟩

/-- The tree of a value that fits does so as well. -/
theorem Value.FitsIn.node {v : Value} {room : Nat} (h : v.FitsIn room) : v.node.FitsIn room :=
  (v.node.exists_readValue_iff room h.whole).mp ⟨v, h.readValue_eq⟩

end TokenLedger.Json
