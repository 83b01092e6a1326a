import Mathlib.Data.List.Forall2

/-! # Results

When a computation that can fail comes to a value: a sequence of steps if each step does, and a pass
over a list if it does for each element. If one fails, an element has failed.
-/
namespace TokenLedger
variable {α β ε : Type}

theorem bind_eq_ok_iff {x : Except ε α} {f : α → Except ε β} {b : β} :
    x >>= f = .ok b ↔ ∃ a, x = .ok a ∧ f a = .ok b := by
  cases x <;> simp [bind, Except.bind]

theorem map_eq_ok_iff {x : Except ε α} {f : α → β} {b : β} :
    f <$> x = .ok b ↔ ∃ a, x = .ok a ∧ f a = b := by
  cases x <;> simp [Functor.map, Except.map]

theorem mapError_eq_ok_iff {δ : Type} {x : Except ε α} {f : ε → δ} {a : α} :
    x.mapError f = .ok a ↔ x = .ok a := by
  cases x <;> simp [Except.mapError]

theorem exists_forall₂_iff {R : α → β → Prop} {xs : List α} :
    (∃ ys, List.Forall₂ R xs ys) ↔ ∀ x ∈ xs, ∃ y, R x y := by
  induction xs with
  | nil => simp
  | cons x xs ih =>
    rw [List.forall_mem_cons, ← ih]
    constructor
    · rintro ⟨_, hys⟩
      cases hys with
      | cons hy hys => exact ⟨⟨_, hy⟩, _, hys⟩
    · rintro ⟨⟨y, hy⟩, ys, hys⟩
      exact ⟨y :: ys, .cons hy hys⟩

theorem mapM_eq_ok_iff {f : α → Except ε β} {xs : List α} {ys : List β} :
    xs.mapM f = .ok ys ↔ List.Forall₂ (fun x y => f x = .ok y) xs ys := by
  induction xs generalizing ys with
  | nil => cases ys <;> simp [pure, Except.pure]
  | cons x xs ih =>
    rw [List.mapM_cons, bind_eq_ok_iff, List.forall₂_cons_left_iff]
    simp only [bind_eq_ok_iff, ih, pure, Except.pure, Except.ok.injEq]
    constructor
    · rintro ⟨y, hy, zs, hzs, rfl⟩
      exact ⟨y, zs, hy, hzs, rfl⟩
    · rintro ⟨y, zs, hy, hzs, rfl⟩
      exact ⟨y, hy, zs, hzs, rfl⟩

theorem exists_error_of_mapM_eq_error {f : α → Except ε β} {xs : List α} {e : ε}
    (h : xs.mapM f = .error e) : ∃ x ∈ xs, f x = .error e := by
  induction xs with
  | nil => cases h
  | cons x xs ih =>
    rw [List.mapM_cons] at h
    cases hx : f x with
    | error e' =>
      rw [hx] at h
      cases h
      exact ⟨x, List.mem_cons_self, hx⟩
    | ok y =>
      rw [hx] at h
      cases hxs : xs.mapM f with
      | error e' =>
        obtain ⟨z, hz, hfz⟩ := ih (by simpa [hxs, bind, Except.bind] using h)
        exact ⟨z, List.mem_cons_of_mem x hz, hfz⟩
      | ok ys =>
        rw [hxs] at h
        cases h

/-- Where all elements that fail do so in the same way, it makes no difference which is the
first. -/
theorem mapM_eq_error_of_same {f : α → Except ε β} {xs : List α} {e : ε}
    (hfails : ∃ x ∈ xs, f x = .error e) (hsame : ∀ x ∈ xs, ∀ e', f x = .error e' → e' = e) :
    xs.mapM f = .error e := by
  cases hm : xs.mapM f with
  | ok ys =>
    obtain ⟨x, hx, hfx⟩ := hfails
    obtain ⟨y, hy⟩ := exists_forall₂_iff.mp ⟨ys, mapM_eq_ok_iff.mp hm⟩ x hx
    rw [hfx] at hy
    cases hy
  | error e' =>
    obtain ⟨x, hx, hfx⟩ := exists_error_of_mapM_eq_error hm
    rw [hsame x hx e' hfx]

end TokenLedger
