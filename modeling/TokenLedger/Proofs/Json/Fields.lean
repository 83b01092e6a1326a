import TokenLedger.Proofs.Json.Member
import TokenLedger.Proofs.Result

/-! # Fields of an object

A reader of an object takes the members that it knows by their names, each of them at most once, and
skips the others. Of a whole object it therefore sees the values under the names that it knows, and
of all other members no more than that their names are strings.
-/
namespace TokenLedger.Json

/-- Every member has a string for its name. A name that escapes half of a pair is none. -/
def Named (members : List (StringToken × Node)) : Prop :=
  ∀ m ∈ members, ∃ name, m.1.value = .ok name

def valuesOf (name : String) (members : List (StringToken × Node)) : List Node :=
  (members.filter fun m => m.1.value = .ok name).map Prod.snd

section
variable {name other : String} {key : StringToken} {n : Node}
  {members members' rest : List (StringToken × Node)}

theorem named_cons_iff :
    Named ((key, n) :: rest) ↔ (∃ name, key.value = .ok name) ∧ Named rest :=
  List.forall_mem_cons

theorem named_perm (h : members.Perm members') : Named members ↔ Named members' :=
  forall_congr' fun _ => by rw [h.mem_iff]

theorem valuesOf_cons_self (h : key.value = .ok name) :
    valuesOf name ((key, n) :: rest) = n :: valuesOf name rest := by
  rw [valuesOf, List.filter_cons_of_pos (by simpa using h)]
  rfl

theorem valuesOf_cons_of_ne (h : key.value = .ok other) (hne : other ≠ name) :
    valuesOf name ((key, n) :: rest) = valuesOf name rest := by
  rw [valuesOf, List.filter_cons_of_neg (by simpa [h] using hne)]
  rfl

theorem mem_valuesOf_iff :
    n ∈ valuesOf name members ↔ ∃ key, (key, n) ∈ members ∧ key.value = .ok name := by
  simp [valuesOf, List.mem_map, List.mem_filter]

theorem valuesOf_perm (h : members.Perm members') :
    (valuesOf name members).Perm (valuesOf name members') :=
  (h.filter _).map Prod.snd

end

theorem named_memberNodes (members : List (String × Value)) : Named (memberNodes members) := by
  induction members with
  | nil => exact List.forall_mem_nil _
  | cons m rest ih => exact named_cons_iff.mpr ⟨⟨m.1, StringToken.value_ofString m.1⟩, ih⟩

theorem valuesOf_memberNodes (name : String) (members : List (String × Value)) :
    valuesOf name (memberNodes members) =
      (members.filter fun m => m.1 = name).map fun m => m.2.node := by
  induction members with
  | nil => rfl
  | cons m rest ih =>
    obtain ⟨key, v⟩ := m
    have hkey := StringToken.value_ofString key
    by_cases hname : key = name
    · subst hname
      rw [memberNodes, valuesOf_cons_self hkey, ih, List.filter_cons_of_pos (by simp)]
      rfl
    · rw [memberNodes, valuesOf_cons_of_ne hkey hname, ih,
        List.filter_cons_of_neg (by simp [hname])]

theorem wholeMembers_iff {members : List (StringToken × Node)} :
    WholeMembers members ↔ ∀ m ∈ members, m.1.ending = .closed ∧ m.2.Whole := by
  induction members with
  | nil => simp [WholeMembers]
  | cons m rest ih => rw [WholeMembers, List.forall_mem_cons, ih, and_assoc]

theorem whole_of_mem_valuesOf {name : String} {members : List (StringToken × Node)} {n : Node}
    (hw : WholeMembers members) (h : n ∈ valuesOf name members) : n.Whole := by
  obtain ⟨key, hm, _⟩ := mem_valuesOf_iff.mp h
  exact (wholeMembers_iff.mp hw _ hm).2

theorem valuesOf_filter_ne {name other : String} {members : List (StringToken × Node)}
    (hne : name ≠ other) :
    valuesOf name (members.filter fun m => m.1.value ≠ .ok other) = valuesOf name members := by
  rw [valuesOf, valuesOf, List.filter_filter]
  congr 1
  refine List.filter_congr fun m _ => ?_
  by_cases hm : m.1.value = .ok name <;> simp [hm, hne]

theorem wholeMembers_filter {members : List (StringToken × Node)} {p : StringToken × Node → Bool}
    (hw : WholeMembers members) :
    WholeMembers (members.filter p) :=
  wholeMembers_iff.mpr fun m hm => wholeMembers_iff.mp hw m (List.mem_of_mem_filter hm)

/-- A place before and after values have been put into it: an empty one takes one value. -/
inductive Fills {α β : Type} (reads : α → β → Prop) : Option β → List α → Option β → Prop
  | keep (old : Option β) : Fills reads old [] old
  | take {a : α} {b : β} (read : reads a b) : Fills reads none [a] (some b)

namespace Fills
variable {α β : Type} {reads : α → β → Prop} {old new : Option β} {a : α} {b : β} {as : List α}

theorem nil_iff : Fills reads old [] new ↔ old = new := by
  constructor
  · rintro ⟨⟩
    rfl
  · rintro rfl
    exact .keep old

theorem some_iff : Fills reads (some b) as new ↔ as = [] ∧ new = some b := by
  constructor
  · rintro ⟨⟩
    exact ⟨rfl, rfl⟩
  · rintro ⟨rfl, rfl⟩
    exact .keep _

/-- The first of several values goes into an empty place, and none may come behind it. -/
theorem cons_iff :
    Fills reads old (a :: as) new ↔ old = none ∧ ∃ b, reads a b ∧ Fills reads (some b) as new := by
  constructor
  · rintro (_ | h)
    exact ⟨rfl, _, h, .keep _⟩
  · rintro ⟨rfl, b, hb, h⟩
    obtain ⟨rfl, rfl⟩ := some_iff.mp h
    exact .take hb

theorem none_none_iff : Fills reads none as none ↔ as = [] := by
  constructor
  · rintro ⟨⟩
    rfl
  · rintro rfl
    exact .keep none

theorem none_some_iff : Fills reads none as (some b) ↔ ∃ a, as = [a] ∧ reads a b := by
  constructor
  · rintro (_ | h)
    exact ⟨_, rfl, h⟩
  · rintro ⟨a, rfl, h⟩
    exact .take h

theorem length_le_one (h : Fills reads old as new) : as.length ≤ 1 := by
  cases h <;> simp

/-- Only one value is ever taken, so the order of the values makes no difference. -/
theorem perm {bs : List α} (h : as.Perm bs) : Fills reads old as new ↔ Fills reads old bs new := by
  have key : ∀ {as bs : List α}, as.Perm bs → Fills reads old as new → Fills reads old bs new := by
    rintro as bs h (_ | hread)
    · obtain rfl := h.nil_eq
      exact .keep _
    · obtain rfl := List.singleton_perm.mp h
      exact .take hread
  exact ⟨key h, key h.symm⟩

end Fills

section
variable {σ : Type} {field : σ → String → Option (Node → Read σ)} {draft filled : σ} {name : String}
  {key : StringToken} {n : Node} {rest : List (StringToken × Node)}

theorem once_eq_ok_iff {α : Type} {old : Option α} {read : Node → Read α} {set : α → σ} :
    once name old read set n = .ok filled ↔
      old = none ∧ ∃ v, read n = .ok v ∧ set v = filled := by
  cases old with
  | none => simp [once, map_eq_ok_iff]
  | some _ => simp [once, refuse]

/-- A name that is no string is met by every reader. -/
theorem readMembers_ne_ok_of_unnamed (h : ∀ name, key.value ≠ .ok name) :
    readMembers field draft ((key, n) :: rest) ≠ .ok filled := by
  intro hread
  obtain ⟨name, hname, _⟩ := bind_eq_ok_iff.mp hread
  exact h name (mapError_eq_ok_iff.mp hname)

theorem readMembers_cons_known_iff (h : key.value = .ok name) {read : Node → Read σ}
    (known : field draft name = some read) :
    readMembers field draft ((key, n) :: rest) = .ok filled ↔
      ∃ next, read n = .ok next ∧ readMembers field next rest = .ok filled := by
  rw [← bind_eq_ok_iff]
  simp only [readMembers, h, liftText, Except.mapError, bind, Except.bind, known]

theorem readMembers_cons_unknown (h : key.value = .ok name) (unknown : field draft name = none)
    (hskip : n.skip = .ok ()) :
    readMembers field draft ((key, n) :: rest) = readMembers field draft rest := by
  simp only [readMembers, h, liftText, Except.mapError, bind, Except.bind, unknown, hskip]

end

/-- A draft as a form to be filled in: each field has a name, a reader of its value and a place of
its own. -/
structure Form {σ : Type} (field : σ → String → Option (Node → Read σ)) where
  Field : Type
  Carrier : Field → Type
  name : Field → String
  read : (k : Field) → Node → Read (Carrier k)
  get : σ → (k : Field) → Option (Carrier k)
  set : σ → (k : Field) → Carrier k → σ
  name_injective : ∀ {j k}, name j = name k → j = k
  ext : ∀ {d e}, (∀ k, get d k = get e k) → d = e
  get_set_self : ∀ d k x, get (set d k x) k = some x
  get_set_of_ne : ∀ d j k x, j ≠ k → get (set d j x) k = get d k
  field_name : ∀ d k, field d (name k) = some (once (name k) (get d k) (read k) (set d k))
  field_other : ∀ d s, (∀ k, name k ≠ s) → field d s = none

namespace Form
variable {σ : Type} {field : σ → String → Option (Node → Read σ)} (F : Form field)

/-- What the members of an object do to a draft: every field is filled by the values under its
name. -/
def FilledBy (draft : σ) (members : List (StringToken × Node)) (filled : σ) : Prop :=
  ∀ k, Fills (F.read k · = .ok ·) (F.get draft k) (valuesOf (F.name k) members) (F.get filled k)

section
variable {draft filled : σ} {key : StringToken} {n : Node} {rest : List (StringToken × Node)}

theorem filledBy_nil_iff : F.FilledBy draft [] filled ↔ draft = filled := by
  constructor
  · intro h
    exact F.ext fun k => Fills.nil_iff.mp (h k)
  · rintro rfl k
    exact .keep _

/-- A member of a known name goes into the place of its field. -/
theorem filledBy_cons_iff {k : F.Field} (h : key.value = .ok (F.name k)) :
    F.FilledBy draft ((key, n) :: rest) filled ↔
      F.get draft k = none ∧
        ∃ v, F.read k n = .ok v ∧ F.FilledBy (F.set draft k v) rest filled := by
  have hself : valuesOf (F.name k) ((key, n) :: rest) = n :: valuesOf (F.name k) rest :=
    valuesOf_cons_self h
  have hother : ∀ j, k ≠ j → valuesOf (F.name j) ((key, n) :: rest) = valuesOf (F.name j) rest :=
    fun j hj => valuesOf_cons_of_ne h fun he => hj (F.name_injective he)
  constructor
  · intro hall
    have hk := hall k
    rw [hself, Fills.cons_iff] at hk
    obtain ⟨hnone, v, hv, hfilled⟩ := hk
    refine ⟨hnone, v, hv, fun j => ?_⟩
    by_cases hj : k = j
    · subst hj
      rw [F.get_set_self]
      exact hfilled
    · have hall := hall j
      rw [hother j hj] at hall
      rw [F.get_set_of_ne draft k j v hj]
      exact hall
  · rintro ⟨hnone, v, hv, hall⟩ j
    have hall := hall j
    by_cases hj : k = j
    · subst hj
      rw [F.get_set_self] at hall
      rw [hself, Fills.cons_iff]
      exact ⟨hnone, v, hv, hall⟩
    · rw [F.get_set_of_ne draft k j v hj] at hall
      rw [hother j hj]
      exact hall

theorem filledBy_cons_other {name : String} (h : key.value = .ok name)
    (hname : ∀ k, F.name k ≠ name) :
    F.FilledBy draft ((key, n) :: rest) filled ↔ F.FilledBy draft rest filled := by
  refine forall_congr' fun k => ?_
  rw [valuesOf_cons_of_ne h (hname k).symm]

end

/-- A whole object is read exactly if its names are strings and every field is filled by the values
under its name. The other members are skipped, whatever their values are. -/
theorem readMembers_eq_ok_iff {members : List (StringToken × Node)} (hw : WholeMembers members)
    {draft filled : σ} :
    readMembers field draft members = .ok filled ↔
      Named members ∧ F.FilledBy draft members filled := by
  induction members generalizing draft with
  | nil =>
    rw [readMembers, Except.ok.injEq, F.filledBy_nil_iff]
    exact (and_iff_right (List.forall_mem_nil _)).symm
  | cons m rest ih =>
    obtain ⟨key, n⟩ := m
    obtain ⟨_, hn, hrest⟩ := hw
    rw [named_cons_iff]
    by_cases hkey : ∃ name, key.value = .ok name
    · rw [and_iff_right hkey]
      obtain ⟨name, hkey⟩ := hkey
      by_cases hname : ∃ k, F.name k = name
      · obtain ⟨k, rfl⟩ := hname
        rw [readMembers_cons_known_iff hkey (F.field_name draft k), F.filledBy_cons_iff hkey]
        constructor
        · rintro ⟨next, honce, h⟩
          obtain ⟨hnone, v, hv, rfl⟩ := once_eq_ok_iff.mp honce
          obtain ⟨hnamed, hfilled⟩ := (ih hrest).mp h
          exact ⟨hnamed, hnone, v, hv, hfilled⟩
        · rintro ⟨hnamed, hnone, v, hv, hfilled⟩
          exact ⟨_, once_eq_ok_iff.mpr ⟨hnone, v, hv, rfl⟩, (ih hrest).mpr ⟨hnamed, hfilled⟩⟩
      · have hne : ∀ k, F.name k ≠ name := fun k hk => hname ⟨k, hk⟩
        rw [readMembers_cons_unknown hkey (F.field_other draft name hne) (n.skip_of_whole hn),
          F.filledBy_cons_other hkey hne]
        exact ih hrest
    · have hbad : ∀ name, key.value ≠ .ok name := fun name h => hkey ⟨name, h⟩
      exact iff_of_false (readMembers_ne_ok_of_unnamed hbad) fun h => hkey h.1.1

end Form

end TokenLedger.Json
