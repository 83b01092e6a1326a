import TokenLedger.Toml.Document

/-! # Sameness of values

Values without floating-point numbers are compared by a computation, so that what a document holds
can be checked. A floating-point number is not the same as anything.
-/
namespace TokenLedger.Toml

mutual

def Value.same : Value → Value → Bool
  | .string s, .string t => s == t
  | .integer m, .integer n => m == n
  | .bool a, .bool b => a == b
  | .date s, .date t => s == t
  | .array xs, .array ys => sameItems xs ys
  | .tables xs, .tables ys => sameItems xs ys
  | .table xs, .table ys => sameEntries xs ys
  | _, _ => false

def sameItems : List Value → List Value → Bool
  | [], [] => true
  | v :: xs, w :: ys => v.same w && sameItems xs ys
  | _, _ => false

def sameEntries : List (String × Value) → List (String × Value) → Bool
  | [], [] => true
  | (name, v) :: xs, (other, w) :: ys => name == other && v.same w && sameEntries xs ys
  | _, _ => false

end

mutual

theorem Value.eq_of_same {v w : Value} (h : v.same w = true) : v = w := by
  cases v <;> cases w <;> simp only [Value.same, Bool.false_eq_true, beq_iff_eq] at h
  case string.string => rw [h]
  case integer.integer => rw [h]
  case bool.bool => rw [h]
  case date.date => rw [h]
  case array.array => rw [eq_of_sameItems h]
  case tables.tables => rw [eq_of_sameItems h]
  case table.table => rw [eq_of_sameEntries h]

theorem eq_of_sameItems : ∀ {xs ys : List Value}, sameItems xs ys = true → xs = ys
  | [], [], _ => rfl
  | v :: xs, w :: ys, h => by
    simp only [sameItems, Bool.and_eq_true] at h
    obtain ⟨hvalue, hrest⟩ := h
    rw [Value.eq_of_same hvalue, eq_of_sameItems hrest]
  | [], _ :: _, h => by cases h
  | _ :: _, [], h => by cases h

theorem eq_of_sameEntries : ∀ {xs ys : List (String × Value)}, sameEntries xs ys = true → xs = ys
  | [], [], _ => rfl
  | (name, v) :: xs, (other, w) :: ys, h => by
    simp only [sameEntries, Bool.and_eq_true, beq_iff_eq] at h
    obtain ⟨⟨rfl, hvalue⟩, hrest⟩ := h
    rw [Value.eq_of_same hvalue, eq_of_sameEntries hrest]
  | [], _ :: _, h => by cases h
  | _ :: _, [], h => by cases h

end

theorem parse_of_same {text : String} {entries : List (String × Value)}
    (h : (parse text).any (sameEntries entries) = true) : parse text = some entries := by
  cases hp : parse text with
  | none =>
    rw [hp] at h
    cases h
  | some found =>
    rw [hp, Option.any_some] at h
    rw [eq_of_sameEntries h]

end TokenLedger.Toml
