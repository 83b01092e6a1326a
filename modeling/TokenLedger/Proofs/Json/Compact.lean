import TokenLedger.Proofs.Json.Tree

/-! # Compact texts

The text of a value without floating-point numbers is JSON. Its tree has the integers by their
digits and the strings by the units that their escapes leave, so that reading gives them back.
-/
namespace TokenLedger.Json

theorem isDigits_toDigits (n : Nat) : IsDigits (Nat.toDigits 10 n) := by
  refine ⟨?_, fun c hc => Nat.isDigit_of_mem_toDigits (by decide) (by decide) hc⟩
  rw [Nat.toDigits_eq_if (by decide)]
  split <;> simp

/-- No number but zero begins with a zero. -/
theorem toDigits_zero_cons {n : Nat} {rest : List Char} (h : Nat.toDigits 10 n = '0' :: rest) :
    rest = [] := by
  induction n using Nat.strongRecOn generalizing rest with
  | _ n ih =>
    rw [Nat.toDigits_eq_if (by decide)] at h
    split at h
    · exact (List.cons.inj h).2.symm
    · rename_i hn
      obtain ⟨c, front, hc⟩ := List.exists_cons_of_ne_nil (isDigits_toDigits (n / 10)).1
      rw [hc, List.cons_append] at h
      obtain ⟨rfl, _⟩ := List.cons.inj h
      obtain rfl := ih (n / 10) (by omega) hc
      have hzero : n / 10 = 0 := by
        have hback := Nat.ofDigitChars_ten_toDigits (n := n / 10)
        rw [hc] at hback
        exact hback.symm
      omega

def NumberToken.ofInt (n : Int) : NumberToken :=
  ⟨decide (n < 0), Nat.toDigits 10 n.natAbs, none, none⟩

theorem NumberToken.magnitude_ofInt (n : Int) :
    (ofInt n).MagnitudeSpelledBy (Nat.toDigits 10 n.natAbs) where
  whole := isDigits_toDigits n.natAbs
  zero := fun _ h => toDigits_zero_cons h
  parts := ⟨[], [], .absent, .absent, by simp [ofInt]⟩

theorem Token.spelledBy_ofInt (n : Int) :
    Token.SpelledBy (.number (.ofInt n)) (toString n).toList := by
  have hm := NumberToken.magnitude_ofInt n
  cases n with
  | ofNat m =>
    have ht : (toString (Int.ofNat m)).toList = Nat.toDigits 10 m := by simp [toString, Int.repr]
    rw [ht]
    exact .positive rfl hm
  | negSucc m =>
    have ht : (toString (Int.negSucc m)).toList = '-' :: Nat.toDigits 10 (m + 1) := by
      simp [toString, Int.repr]
    rw [ht]
    exact .negative (decide_eq_true (Int.negSucc_lt_zero m)) hm

/-- An integer of 64 bits, signed or not, is read as itself. -/
theorem NumberToken.value_ofInt {n : Int} (low : -0x8000000000000000 ≤ n)
    (high : n < 0x10000000000000000) : (ofInt n).value = .ok (.integer n) := by
  by_cases hn : n < 0
  · obtain ⟨m, rfl, hm⟩ : ∃ m : Nat, n = -m ∧ 0 < m := ⟨n.natAbs, by omega, by omega⟩
    have hlow : m ≤ 0x8000000000000000 := by omega
    simp [value, ofInt, isPlain, Nat.ofDigitChars_ten_toDigits, hm, hlow]
  · obtain ⟨m, rfl⟩ : ∃ m : Nat, n = m := ⟨n.natAbs, by omega⟩
    have hhigh : m < 0x10000000000000000 := by omega
    simp [value, ofInt, isPlain, Nat.ofDigitChars_ten_toDigits, hhigh]

def StringUnit.ofChar (c : Char) : StringUnit :=
  if c ∈ ['\x08', '\x0c', '\n', '\r', '\t'] then .char c
  else if c.toNat < 0x20 then .code c.toNat
  else .char c

theorem StringUnit.spelledBy_escaped (c : Char) : (ofChar c).SpelledBy (escaped c) := by
  by_cases hl : c ∈ ['"', '\\', '\x08', '\x0c', '\n', '\r', '\t']
  · simp only [List.mem_cons, List.not_mem_nil, or_false] at hl
    rcases hl with rfl | rfl | rfl | rfl | rfl | rfl | rfl <;> exact .letter rfl
  · simp only [List.mem_cons, List.not_mem_nil, or_false, not_or] at hl
    obtain ⟨hq, hb, h1, h2, h3, h4, h5⟩ := hl
    simp only [escaped, ofChar, beq_iff_eq, hq, hb, h1, h2, h3, h4, h5, if_false, List.mem_cons,
      List.not_mem_nil, or_false]
    by_cases hc : c.toNat < 0x20
    · have key : ∀ n < 0x20,
          codeUnit? '0' '0' (Nat.digitChar (n / 16)) (Nat.digitChar (n % 16)) = some n := by
        decide
      rw [if_pos hc, if_pos hc]
      exact .digits (key _ hc)
    · rw [if_neg hc, if_neg hc]
      exact .plain hq hb (Nat.not_lt.mp hc)

def StringToken.ofString (s : String) : StringToken := ⟨s.toList.map .ofChar, .closed⟩

theorem unitsSpelledBy_escaped (s : List Char) :
    UnitsSpelledBy (s.map .ofChar) (s.flatMap escaped) := by
  induction s with
  | nil => exact .nil
  | cons c s ih => exact .cons (StringUnit.spelledBy_escaped c) ih

theorem Token.spelledBy_quoted (s : String) : Token.SpelledBy (.string (.ofString s)) (quoted s) :=
  .string (unitsSpelledBy_escaped s.toList)

theorem readUnits_ofChar (ending : StringEnd) (c : Char) (units : List StringUnit) :
    readUnits ending (.ofChar c :: units) = (c :: ·) <$> readUnits ending units := by
  unfold StringUnit.ofChar
  split
  · rfl
  · split
    · rename_i h
      have low : ¬ (0xDC00 ≤ c.toNat ∧ c.toNat ≤ 0xDFFF) := by omega
      have high : ¬ (0xD800 ≤ c.toNat ∧ c.toNat ≤ 0xDBFF) := by omega
      rw [readUnits.eq_def]
      simp only [if_neg low, if_neg high, Char.ofNat_toNat]
    · rfl

/-- A string is read as itself, whatever characters it has. -/
@[simp] theorem StringToken.value_ofString (s : String) : (ofString s).value = .ok s := by
  have key : ∀ cs : List Char, readUnits .closed (cs.map .ofChar) = .ok cs := by
    intro cs
    induction cs with
    | nil => rfl
    | cons c cs ih =>
      rw [List.map_cons, readUnits_ofChar, ih]
      rfl
  rw [value, ofString, key]
  exact congrArg Except.ok String.ofList_toList

mutual

/-- The tree of the text of a value. That of a floating-point number is left open. -/
def Value.node : Value → Node
  | .null => .null
  | .bool b => .bool b
  | .number (.integer n) => .number (.ofInt n)
  | .number (.float _) => .broken (.number false)
  | .string s => .string (.ofString s)
  | .array items => .array (itemNodes items) .closed
  | .object members => .object (memberNodes members) .closed
termination_by structural v => v

def itemNodes : List Value → List Node
  | [] => []
  | v :: rest => v.node :: itemNodes rest
termination_by structural v => v

def memberNodes : List (String × Value) → List (StringToken × Node)
  | [] => []
  | (key, v) :: rest => (.ofString key, v.node) :: memberNodes rest
termination_by structural v => v

end

mutual

/-- The compact text of a value spells its tree. -/
theorem Value.spelledBy_compactChars : ∀ v : Value, v.node.Whole →
    TokensSpelledBy v.node.tokens v.compactChars
  | .null, _ => Token.SpelledBy.null.alone
  | .bool _, _ => Token.SpelledBy.bool.alone
  | .number (.integer n), _ => (Token.spelledBy_ofInt n).alone
  | .number (.float _), h => absurd h id
  | .string s, _ => (Token.spelledBy_quoted s).alone
  | .array items, h =>
    (TokensSpelledBy.joined (List.forall_mem_nil _) (forall₂_compactItems items h.2)).array
  | .object members, h =>
    (TokensSpelledBy.joined (List.forall_mem_nil _) (forall₂_compactMembers members h.2)).object
termination_by structural v => v

theorem forall₂_compactItems : ∀ items : List Value, WholeItems (itemNodes items) →
    List.Forall₂ TokensSpelledBy (itemTokens (itemNodes items)) (compactItems items)
  | [], _ => .nil
  | v :: rest, h => .cons (v.spelledBy_compactChars h.1) (forall₂_compactItems rest h.2)
termination_by structural items => items

theorem forall₂_compactMembers : ∀ members : List (String × Value),
    WholeMembers (memberNodes members) →
    List.Forall₂ TokensSpelledBy (memberTokens (memberNodes members)) (compactMembers members)
  | [], _ => .nil
  | (key, v) :: rest, h =>
    .cons (.token (Token.spelledBy_quoted key) nofun
      (.token .colon nofun (v.spelledBy_compactChars h.2.1))) (forall₂_compactMembers rest h.2.2)
termination_by structural members => members

end

/-- The compact text of a value is JSON, if no number of it is a floating-point one. -/
theorem Value.writtenAs_compact {v : Value} (h : v.node.Whole) : v.node.WrittenAs v.compact := by
  refine ⟨h, ?_⟩
  rw [Value.compact, String.toList_ofList]
  exact v.spelledBy_compactChars h

end TokenLedger.Json
