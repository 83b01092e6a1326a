import TokenLedger.Proofs.Json.Limits
import TokenLedger.Proofs.Wire.Summary

/-! # The grammar of rejections

A rejection stands for itself as its name, which may also be the only key of an object. Alone the
value of that key must be null. In memory, where the reason of a verdict is looked for, an empty
object is taken for nothing as well.
-/
namespace TokenLedger

open Json

namespace Json
variable {α : Type}

theorem chooseVariant_eq_ok_iff {variants : List (String × α)} {name : String} {x : α} :
    chooseVariant variants name = .ok x ↔ variants.lookup name = some x := by
  unfold chooseVariant
  cases variants.lookup name <;> simp [refuse]

theorem name_of_lookup_map {f : α → String} {xs : List α} {name : String} {x : α}
    (h : (xs.map fun x => (f x, x)).lookup name = some x) : f x = name := by
  induction xs with
  | nil => cases h
  | cons y ys ih =>
    rw [List.map_cons, List.lookup_cons] at h
    split at h
    · rename_i heq
      obtain rfl := Option.some.inj h
      exact (beq_iff_eq.mp heq).symm
    · exact ih h

theorem lookup_map_of_mem {f : α → String} (hf : ∀ {x y}, f x = f y → x = y) {xs : List α} {x : α}
    (hx : x ∈ xs) : (xs.map fun x => (f x, x)).lookup (f x) = some x := by
  induction xs with
  | nil => cases hx
  | cons y ys ih =>
    rw [List.map_cons, List.lookup_cons]
    split
    · rename_i heq
      rw [hf (beq_iff_eq.mp heq)]
    · rename_i hne
      rcases List.mem_cons.mp hx with rfl | hx
      · exact absurd hne (by simp)
      · exact ih hx

/-- Where each choice stands under a name of its own, the name decides. -/
theorem chooseVariant_map_eq_ok_iff {f : α → String} (hf : ∀ {x y}, f x = f y → x = y)
    {xs : List α} {x : α} (hx : x ∈ xs) {name : String} :
    chooseVariant (xs.map fun x => (f x, x)) name = .ok x ↔ f x = name := by
  rw [chooseVariant_eq_ok_iff]
  constructor
  · exact name_of_lookup_map
  · rintro rfl
    exact lookup_map_of_mem hf hx

theorem Node.readUnit_eq_ok_iff {n : Node} {u : Unit} : n.readUnit = .ok u ↔ n = .null := by
  unfold readUnit
  cases n with
  | null => simp
  | _ =>
    refine iff_of_false (refuse_ne_ok _ _ _) fun h => ?_
    cases h

end Json

namespace Rejection

/-- A rejection is spelled by its name, or by an object with the name as its only key and nothing as
its value. -/
inductive SpelledBy (r : Rejection) : Node → Prop
  | name {n : Node} (name : n.IsString r.name) : r.SpelledBy n
  | key {key : StringToken} (name : key.value = .ok r.name) :
    r.SpelledBy (.object [(key, .null)] .closed)

/-- In memory an empty object is as good as nothing. -/
inductive GivenBy (r : Rejection) : Node → Prop
  | alone {n : Node} (spelled : r.SpelledBy n) : r.GivenBy n
  | hollow {key : StringToken} (name : key.value = .ok r.name) :
    r.GivenBy (.object [(key, .object [] .closed)] .closed)

variable {r : Rejection}

theorem chooseVariant_eq_ok_iff {name : String} :
    chooseVariant variants name = .ok r ↔ r.name = name :=
  chooseVariant_map_eq_ok_iff name_injective (mem_all r)

theorem spelledBy_string_iff {s : StringToken} :
    r.SpelledBy (.string s) ↔ s.value = .ok r.name := by
  rw [← Node.isString_string_iff]
  constructor
  · intro h
    cases h with
    | name hname => exact hname
  · exact .name

theorem spelledBy_object_iff {members : List (StringToken × Node)} :
    r.SpelledBy (.object members .closed) ↔
      ∃ key, members = [(key, .null)] ∧ key.value = .ok r.name := by
  constructor
  · rintro (⟨_, h, _⟩ | h)
    · cases h
    · exact ⟨_, rfl, h⟩
  · rintro ⟨key, rfl, h⟩
    exact .key h

/-- On its own a rejection is read from the trees that spell it, and from no others. -/
theorem ofNode_eq_ok_iff_spelledBy {n : Node} (hw : n.Whole) :
    ofNode n = .ok r ↔ r.SpelledBy n := by
  unfold ofNode
  cases n with
  | string s =>
    rw [spelledBy_string_iff]
    simp [Node.readVariant, bind_eq_ok_iff, liftText, mapError_eq_ok_iff, chooseVariant_eq_ok_iff]
  | object members ending =>
    obtain ⟨rfl, _⟩ := hw
    rw [spelledBy_object_iff]
    cases members with
    | nil => simp [Node.readVariant, raise]
    | cons m rest =>
      obtain ⟨key, n⟩ := m
      cases rest with
      | nil =>
        simp only [Node.readVariant, bind_eq_ok_iff, liftText, mapError_eq_ok_iff,
          chooseVariant_eq_ok_iff, Node.readUnit_eq_ok_iff]
        constructor
        · rintro ⟨_, hkey, choice, rfl, _, rfl, h⟩
          obtain rfl := Except.ok.inj h
          exact ⟨key, rfl, hkey⟩
        · rintro ⟨_, h, hkey⟩
          cases h
          exact ⟨_, hkey, r, rfl, (), rfl, rfl⟩
      | cons m rest =>
        simp only [Node.readVariant, bind_eq_ok_iff]
        exact iff_of_false (by simp [raise]) (by simp)
  | broken => exact absurd hw id
  | _ => exact iff_of_false (by simp [Node.readVariant, raise]) (by rintro ⟨_, h, _⟩; cases h)

theorem givenBy_string_iff {s : StringToken} : r.GivenBy (.string s) ↔ s.value = .ok r.name := by
  rw [← spelledBy_string_iff]
  constructor
  · intro h
    cases h with
    | alone hspelled => exact hspelled
  · exact .alone

theorem givenBy_object_iff {members : List (StringToken × Node)} :
    r.GivenBy (.object members .closed) ↔ ∃ key n, members = [(key, n)] ∧
      key.value = .ok r.name ∧ (n = .null ∨ n = .object [] .closed) := by
  constructor
  · rintro (hspelled | hname)
    · obtain ⟨key, rfl, hname⟩ := spelledBy_object_iff.mp hspelled
      exact ⟨key, .null, rfl, hname, Or.inl rfl⟩
    · exact ⟨_, _, rfl, hname, Or.inr rfl⟩
  · rintro ⟨key, n, rfl, h, rfl | rfl⟩
    · exact .alone (.key h)
    · exact .hollow h

theorem ofValue_single_eq_ok_iff {name : String} {v : Value} :
    ofValue (.object [(name, v)]) = .ok r ↔ r.name = name ∧ (v = .null ∨ v = .object []) := by
  rw [ofValue, bind_eq_ok_iff]
  simp only [chooseVariant_eq_ok_iff]
  constructor
  · rintro ⟨choice, rfl, h⟩
    split at h
    · obtain rfl := Except.ok.inj h
      exact ⟨rfl, Or.inl rfl⟩
    · obtain rfl := Except.ok.inj h
      exact ⟨rfl, Or.inr rfl⟩
    · cases h
  · rintro ⟨rfl, rfl | rfl⟩ <;> exact ⟨r, rfl, rfl⟩

/-- A reason that has been taken into memory is read if its tree gives it. -/
theorem ofValue_eq_ok_iff {n : Node} {room : Nat} {v : Value} (hw : n.Whole)
    (hv : n.readValue room = .ok v) : ofValue v = .ok r ↔ r.GivenBy n := by
  cases takenAs_of_readValue hw hv with
  | @string _ s text hs =>
    rw [givenBy_string_iff, hs, ofValue, chooseVariant_eq_ok_iff, Except.ok.injEq, eq_comm]
  | @object room members values hmembers =>
    rw [givenBy_object_iff]
    cases hmembers with
    | nil => simp [ofValue, refuse]
    | @cons m o members values hm hrest =>
      cases hrest with
      | cons _ _ => simp [ofValue, refuse]
      | nil =>
        obtain ⟨key, n⟩ := m
        obtain ⟨name, v⟩ := o
        obtain ⟨hkey, hn⟩ := hm
        have htaken := takenAs_of_readValue hw.2.2.1 hn
        rw [ofValue_single_eq_ok_iff, htaken.eq_null_iff, htaken.eq_hollow_iff]
        constructor
        · rintro ⟨rfl, hnothing⟩
          exact ⟨key, n, rfl, hkey, hnothing⟩
        · rintro ⟨_, _, h, hname, hnothing⟩
          cases h
          exact ⟨Except.ok.inj (hname.symm.trans hkey), hnothing⟩
  | _ =>
    refine iff_of_false (by simp [ofValue, refuse]) ?_
    rintro (⟨_, h, _⟩ | _)
    cases h

/-- A reason has at most two levels of nesting. -/
theorem GivenBy.fitsIn {n : Node} {room : Nat} (h : r.GivenBy n) : n.FitsIn (room + 2) := by
  rcases h with ⟨⟨s, rfl, hs⟩ | hname⟩ | hname
  · exact ⟨_, hs⟩
  · exact ⟨⟨_, hname⟩, trivial, trivial⟩
  · exact ⟨⟨_, hname⟩, trivial, trivial⟩

end Rejection

end TokenLedger
