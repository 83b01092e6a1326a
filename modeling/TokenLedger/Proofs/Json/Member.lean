import TokenLedger.Proofs.Json.Compact

/-! # Members and values of whole trees

What is skipped in a whole tree is skipped without a fault, so that one member of an object can be
read apart from the others. A tree that is not nested too deeply is taken into memory as the value
of which it is the tree.
-/
namespace TokenLedger.Json

mutual

theorem Node.skip_of_whole : ∀ n : Node, n.Whole → n.skip = .ok ()
  | .null, _ => rfl
  | .bool _, _ => rfl
  | .number _, _ => rfl
  | .string s, h => by
    have hs : s.ending = .closed := h
    rw [Node.skip, hs]
    rfl
  | .array items ending, h => by
    obtain ⟨rfl, hitems⟩ := h
    rw [Node.skip, skipItems_of_whole items hitems]
    rfl
  | .object members ending, h => by
    obtain ⟨rfl, hmembers⟩ := h
    rw [Node.skip, skipMembers_of_whole members hmembers]
    rfl
  | .broken _, h => absurd h id
termination_by structural n => n

theorem skipItems_of_whole : ∀ items : List Node, WholeItems items → skipItems items = .ok ()
  | [], _ => rfl
  | n :: rest, h => by
    rw [skipItems, n.skip_of_whole h.1]
    exact skipItems_of_whole rest h.2
termination_by structural items => items

theorem skipMembers_of_whole : ∀ members : List (StringToken × Node), WholeMembers members →
    skipMembers members = .ok ()
  | [], _ => rfl
  | (key, n) :: rest, h => by
    obtain ⟨hkey, hn, hrest⟩ := h
    rw [skipMembers, hkey]
    simp only [StringEnd.fault?, require, bind, Except.bind, n.skip_of_whole hn]
    exact skipMembers_of_whole rest hrest
termination_by structural members => members

end

section
variable {α : Type} {name : String} {read : Node → Read α}

def onlyField (name : String) (read : Node → Read α) (found : Option α) (key : String) :
    Option (Node → Read (Option α)) :=
  if key = name then some (once name found read some) else none

/-- The member of an object with the given name. It must be there, and only once. -/
def Node.readMember (name : String) (read : Node → Read α) : Node → Read α
  | .object members ending => do
    let found ← readObject (onlyField name read) none members ending
    required name found
  | n => n.refuse "a map"

theorem readMembers_skip {found : Option α} {members : List (String × Value)}
    (hw : WholeMembers (memberNodes members)) (hk : name ∉ members.map Prod.fst) :
    readMembers (onlyField name read) found (memberNodes members) = .ok found := by
  induction members with
  | nil => rfl
  | cons m rest ih =>
    obtain ⟨key, v⟩ := m
    obtain ⟨hne, hrest⟩ := not_or.mp (List.mem_cons.not.mp hk)
    have hother : onlyField name read found key = none := if_neg (Ne.symm hne)
    have hskip := v.node.skip_of_whole hw.2.1
    simp only [memberNodes, readMembers, StringToken.value_ofString, liftText, Except.mapError,
      bind, Except.bind, hother, hskip]
    exact ih hw.2.2 hrest

theorem readMembers_of_mem {members : List (String × Value)} {v : Value} {x : α}
    (hw : WholeMembers (memberNodes members)) (hk : (members.map Prod.fst).Nodup)
    (hm : (name, v) ∈ members) (hr : read v.node = .ok x) :
    readMembers (onlyField name read) none (memberNodes members) = .ok (some x) := by
  induction members with
  | nil => cases hm
  | cons m rest ih =>
    obtain ⟨key, w⟩ := m
    obtain ⟨hnot, hrest⟩ := List.nodup_cons.mp hk
    simp only [memberNodes, readMembers, StringToken.value_ofString, liftText, Except.mapError,
      bind, Except.bind]
    rcases List.mem_cons.mp hm with heq | hm
    · cases heq
      have hthis : onlyField name read none name = some (once name none read some) := if_pos rfl
      have honce : once name none read some v.node = .ok (some x) := by
        rw [once, hr]
        rfl
      simp only [hthis, honce]
      exact readMembers_skip hw.2.2 hnot
    · have hne : key ≠ name := by
        rintro rfl
        exact hnot (List.mem_map.mpr ⟨(key, v), hm, rfl⟩)
      have hother : onlyField name read none key = none := if_neg hne
      have hskip := w.node.skip_of_whole hw.2.1
      simp only [hother, hskip]
      exact ih hw.2.2 hrest hm

/-- A member is read as its value alone, whatever stands beside it. -/
theorem Node.readMember_of_mem {members : List (String × Value)} {v : Value} {x : α}
    (hw : (Value.object members).node.Whole) (hk : (members.map Prod.fst).Nodup)
    (hm : (name, v) ∈ members) (hr : read v.node = .ok x) :
    (Value.object members).node.readMember name read = .ok x := by
  rw [Value.node, readMember, readObject, readMembers_of_mem hw.2 hk hm hr]
  rfl

end

mutual

/-- The value has at most `room` levels of nesting, and its numbers are integers that are kept
exactly. -/
def Value.FitsIn (room : Nat) : Value → Prop
  | .null | .bool _ | .string _ => True
  | .number (.integer n) => -0x8000000000000000 ≤ n ∧ n < 0x10000000000000000
  | .number (.float _) => False
  | .array items =>
    match room with
    | 0 => False
    | room + 1 => ItemsFitIn room items
  | .object members =>
    match room with
    | 0 => False
    | room + 1 => MembersFitIn room members
termination_by structural v => v

def ItemsFitIn (room : Nat) : List Value → Prop
  | [] => True
  | v :: rest => v.FitsIn room ∧ ItemsFitIn room rest
termination_by structural items => items

def MembersFitIn (room : Nat) : List (String × Value) → Prop
  | [] => True
  | (_, v) :: rest => v.FitsIn room ∧ MembersFitIn room rest
termination_by structural members => members

end

mutual

theorem Value.FitsIn.whole : ∀ {v : Value} {room : Nat}, v.FitsIn room → v.node.Whole
  | .null, _, _ => trivial
  | .bool _, _, _ => trivial
  | .number (.integer _), _, _ => trivial
  | .number (.float _), _, h => absurd h id
  | .string _, _, _ => rfl
  | .array _, _ + 1, h => ⟨rfl, ItemsFitIn.whole h⟩
  | .object _, _ + 1, h => ⟨rfl, MembersFitIn.whole h⟩
termination_by structural v => v

theorem ItemsFitIn.whole : ∀ {items : List Value} {room : Nat}, ItemsFitIn room items →
    WholeItems (itemNodes items)
  | [], _, _ => trivial
  | _ :: _, _, h => ⟨h.1.whole, ItemsFitIn.whole h.2⟩
termination_by structural items => items

theorem MembersFitIn.whole : ∀ {members : List (String × Value)} {room : Nat},
    MembersFitIn room members → WholeMembers (memberNodes members)
  | [], _, _ => trivial
  | (_, _) :: _, _, h => ⟨rfl, h.1.whole, MembersFitIn.whole h.2⟩
termination_by structural members => members

end

mutual

/-- The tree of a value is taken into memory as that value. -/
theorem Value.FitsIn.readValue_eq : ∀ {v : Value} {room : Nat}, v.FitsIn room →
    v.node.readValue room = .ok v
  | .null, _, _ => rfl
  | .bool _, _, _ => rfl
  | .number (.integer n), _, h => by
    simp [Value.node, Node.readValue, NumberToken.value_ofInt h.1 h.2, liftText, Except.mapError]
  | .number (.float _), _, h => absurd h id
  | .string s, _, _ => by
    simp [Value.node, Node.readValue, liftText, Except.mapError]
  | .array items, room + 1, h => by
    have hitems := ItemsFitIn.readValues_eq h
    simp [Value.node, Node.readValue, hitems, bind, Except.bind, require, Ending.itemFault?]
  | .object members, room + 1, h => by
    have hmembers := MembersFitIn.readMemberValues_eq h
    simp [Value.node, Node.readValue, hmembers, bind, Except.bind, require, Ending.memberFault?]
termination_by structural v => v

theorem ItemsFitIn.readValues_eq : ∀ {items : List Value} {room : Nat}, ItemsFitIn room items →
    readValues room (itemNodes items) = .ok items
  | [], _, _ => rfl
  | _ :: _, _, h => by
    have hv := h.1.readValue_eq
    have hrest := ItemsFitIn.readValues_eq h.2
    simp [itemNodes, readValues, hv, hrest, bind, Except.bind]
termination_by structural items => items

theorem MembersFitIn.readMemberValues_eq : ∀ {members : List (String × Value)} {room : Nat},
    MembersFitIn room members → readMemberValues room (memberNodes members) = .ok members
  | [], _, _ => rfl
  | (_, _) :: _, _, h => by
    have hv := h.1.readValue_eq
    have hrest := MembersFitIn.readMemberValues_eq h.2
    simp [memberNodes, readMemberValues, hv, hrest, liftText, Except.mapError, bind, Except.bind]
termination_by structural members => members

end

end TokenLedger.Json
