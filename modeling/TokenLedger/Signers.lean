import TokenLedger.Party

/-! # Signers

A finite set of parties, kept as its members in ascending order. Two sets with the same members
are therefore equal, and the members have one order of display.
-/
namespace TokenLedger

namespace Party

theorem lt_irrefl (p : Party) : ¬ p < p := List.lt_irrefl p.bytes

theorem lt_trans {p q r : Party} (h : p < q) (h' : q < r) : p < r := List.lt_trans h h'

theorem ext_bytes {p q : Party} (h : p.bytes = q.bytes) : p = q := by
  cases p; cases q; cases h; rfl

theorem lt_of_not_lt_of_ne {p q : Party} (h : ¬ p < q) (hne : p ≠ q) : q < p :=
  Decidable.byContradiction fun h' =>
    hne (ext_bytes (List.le_antisymm (List.not_lt.mp h') (List.not_lt.mp h)))

end Party

structure Signers where
  toList : List Party
  ascending : toList.Pairwise (· < ·)
  deriving DecidableEq

namespace Signers

def place (p : Party) : List Party → List Party
  | [] => [p]
  | q :: rest =>
    if p < q then p :: q :: rest else if p = q then q :: rest else q :: place p rest

@[simp] theorem mem_place {p x : Party} {l : List Party} : x ∈ place p l ↔ x = p ∨ x ∈ l := by
  induction l with
  | nil => simp [place]
  | cons q rest ih =>
    unfold place
    split
    · simp
    · split
      · rename_i h; subst h; simp
      · simp only [List.mem_cons, ih]; grind

theorem pairwise_place {p : Party} {l : List Party} (h : l.Pairwise (· < ·)) :
    (place p l).Pairwise (· < ·) := by
  induction l with
  | nil => simp [place]
  | cons q rest ih =>
    obtain ⟨hq, hr⟩ := List.pairwise_cons.mp h
    unfold place
    split
    · rename_i hp
      refine List.pairwise_cons.mpr ⟨fun x hx => ?_, h⟩
      rcases List.mem_cons.mp hx with rfl | hx
      · exact hp
      · exact Party.lt_trans hp (hq x hx)
    · rename_i hp
      split
      · exact h
      · rename_i hne
        refine List.pairwise_cons.mpr ⟨fun x hx => ?_, ih hr⟩
        rcases mem_place.mp hx with rfl | hx
        · exact Party.lt_of_not_lt_of_ne hp hne
        · exact hq x hx

def empty : Signers := ⟨[], List.Pairwise.nil⟩

def insert (s : Signers) (p : Party) : Signers := ⟨place p s.toList, pairwise_place s.ascending⟩

def erase (s : Signers) (p : Party) : Signers :=
  ⟨s.toList.filter (· ≠ p), s.ascending.filter _⟩

def ofList (parties : List Party) : Signers := parties.foldl insert empty

def size (s : Signers) : Nat := s.toList.length

instance : Membership Party Signers := ⟨fun s p => p ∈ s.toList⟩

instance (p : Party) (s : Signers) : Decidable (p ∈ s) := inferInstanceAs (Decidable (p ∈ s.toList))

@[simp] theorem mem_insert {s : Signers} {p x : Party} : x ∈ s.insert p ↔ x = p ∨ x ∈ s :=
  mem_place

@[simp] theorem mem_erase {s : Signers} {p x : Party} : x ∈ s.erase p ↔ x ≠ p ∧ x ∈ s := by
  change x ∈ s.toList.filter (· ≠ p) ↔ x ≠ p ∧ x ∈ s.toList
  simp [List.mem_filter, and_comm]

@[simp] theorem mem_ofList {parties : List Party} {x : Party} :
    x ∈ ofList parties ↔ x ∈ parties := by
  suffices ∀ s : Signers, x ∈ parties.foldl insert s ↔ x ∈ parties ∨ x ∈ s by
    rw [ofList, this]
    exact or_iff_left (List.not_mem_nil (a := x))
  induction parties with
  | nil => simp
  | cons p rest ih => intro s; simp [ih]; grind

/-- A set is determined by its members. -/
theorem ext_mem {s t : Signers} (h : ∀ x, x ∈ s ↔ x ∈ t) : s = t := by
  have key : s.toList = t.toList := by
    have hs := s.ascending
    have ht := t.ascending
    replace h : ∀ x, x ∈ s.toList ↔ x ∈ t.toList := h
    generalize s.toList = l at *
    generalize t.toList = m at *
    induction l generalizing m with
    | nil => exact (List.eq_nil_iff_forall_not_mem.mpr fun x hx => by simpa using (h x).mpr hx).symm
    | cons p l ih =>
      cases m with
      | nil => simpa using h p
      | cons q m =>
        obtain ⟨hp, hl⟩ := List.pairwise_cons.mp hs
        obtain ⟨hq, hm⟩ := List.pairwise_cons.mp ht
        have hpq : p = q := by
          rcases List.mem_cons.mp ((h p).mp List.mem_cons_self) with e | e
          · exact e
          · rcases List.mem_cons.mp ((h q).mpr List.mem_cons_self) with e' | e'
            · exact e'.symm
            · exact absurd (Party.lt_trans (hq p e) (hp q e')) (Party.lt_irrefl q)
        subst hpq
        rw [ih hl m hm fun x => ?_]
        have hx := h x
        simp only [List.mem_cons] at hx
        constructor
        · intro e
          rcases hx.mp (Or.inr e) with rfl | e'
          · exact absurd (hp _ e) (Party.lt_irrefl _)
          · exact e'
        · intro e
          rcases hx.mpr (Or.inr e) with rfl | e'
          · exact absurd (hq _ e) (Party.lt_irrefl _)
          · exact e'
  cases s; cases t; cases key; rfl

end Signers

end TokenLedger
