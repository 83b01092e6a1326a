import TokenLedger.Proofs.Json.Grammar

/-! # Scanning spelled tokens

The scanner finds the tokens that a text spells. Only a number depends on what stands behind it,
and only on whether that continues it.
-/
namespace TokenLedger.Json

def NoDigit (s : List Char) : Prop := ∀ c ∈ s.head?, c.isDigit = false

theorem Apart.noDigit {s : List Char} (h : Apart s) : NoDigit s := by
  intro c hc
  have hn := h c hc
  simp only [continuesNumber, Bool.or_eq_false_iff] at hn
  exact hn.1.1.1

theorem takeWhile_isDigit {s : List Char} (h : NoDigit s) : s.takeWhile Char.isDigit = [] := by
  cases s with
  | nil => rfl
  | cons c s => simp [h c rfl]

theorem scanDigits_append {digits s : List Char} (h : IsDigits digits) (hs : NoDigit s) :
    scanDigits (digits ++ s) = .ok (digits, digits.length) := by
  have ht : (digits ++ s).takeWhile Char.isDigit = digits := by
    rw [List.takeWhile_append_of_pos h.2, takeWhile_isDigit hs, List.append_nil]
  unfold scanDigits
  rw [ht]
  cases digits with
  | nil => exact absurd rfl h.1
  | cons c digits => rfl

theorem scanWhole_append {digits s : List Char} (h : IsDigits digits)
    (hz : ∀ rest, digits = '0' :: rest → rest = []) (hs : NoDigit s) :
    scanWhole (digits ++ s) = .ok (digits, digits.length) := by
  unfold scanWhole
  rw [scanDigits_append h hs]
  split
  · rename_i c rest n he
    cases he
    exact absurd (hz _ rfl) (by simp)
  · rfl

theorem scanFraction_of_ne {s : List Char} (h : ∀ c ∈ s.head?, c ≠ '.') :
    scanFraction s = .ok (none, 0) := by
  unfold scanFraction
  split
  · exact absurd rfl (h _ rfl)
  · rfl

theorem scanExponent_of_apart {s : List Char} (h : Apart s) : scanExponent s = .ok (none, 0) := by
  cases s with
  | nil => rfl
  | cons c s =>
    have hn := h c rfl
    simp only [continuesNumber, Bool.or_eq_false_iff] at hn
    simp [scanExponent, hn.1.2, hn.2]

namespace NumberToken

theorem scanFraction_append {fraction : Option (List Char)} {w s : List Char}
    (h : FractionSpelledBy fraction w) (hs : NoDigit s) (hp : ∀ c ∈ s.head?, c ≠ '.') :
    scanFraction (w ++ s) = .ok (fraction, w.length) := by
  cases h with
  | absent => exact scanFraction_of_ne hp
  | places hd =>
    rw [List.cons_append, scanFraction, scanDigits_append hd hs]
    rfl

theorem scanExponent_append {exponent : Option (Bool × List Char)} {w s : List Char}
    (h : ExponentSpelledBy exponent w) (hs : Apart s) :
    scanExponent (w ++ s) = .ok (exponent, w.length) := by
  have marked : ∀ {c : Char}, c = 'e' ∨ c = 'E' → (c == 'e' || c == 'E') = true := by
    intro c hc
    simpa using hc
  cases h with
  | absent => exact scanExponent_of_apart hs
  | @unsigned e digits he hd =>
    have hscan := scanDigits_append hd hs.noDigit
    unfold scanExponent
    simp only [List.cons_append, if_pos (marked he)]
    split
    · rename_i heq
      obtain ⟨c, rest, rfl⟩ := List.exists_cons_of_ne_nil hd.1
      cases heq
      exact absurd (hd.2 _ List.mem_cons_self) (by decide)
    · rename_i heq
      obtain ⟨c, rest, rfl⟩ := List.exists_cons_of_ne_nil hd.1
      cases heq
      exact absurd (hd.2 _ List.mem_cons_self) (by decide)
    · rw [hscan]
      rfl
  | plus he hd =>
    unfold scanExponent
    simp only [List.cons_append, if_pos (marked he), scanDigits_append hd hs.noDigit]
    rfl
  | minus he hd =>
    unfold scanExponent
    simp only [List.cons_append, if_pos (marked he), scanDigits_append hd hs.noDigit]
    rfl

theorem FractionSpelledBy.noDigit {fraction : Option (List Char)} {w s : List Char}
    (h : FractionSpelledBy fraction w) (hs : NoDigit s) : NoDigit (w ++ s) := by
  cases h with
  | absent => exact hs
  | places =>
    intro c hc
    cases hc
    decide

/-- An exponent does not begin as digits or as a fraction do. -/
theorem ExponentSpelledBy.front {exponent : Option (Bool × List Char)} {w s : List Char}
    (h : ExponentSpelledBy exponent w) (hs : Apart s) :
    ∀ c ∈ (w ++ s).head?, c.isDigit = false ∧ c ≠ '.' := by
  have mark : ∀ c, c = 'e' ∨ c = 'E' → c.isDigit = false ∧ c ≠ '.' := by
    rintro c (rfl | rfl) <;> decide
  intro c hc
  cases h with
  | absent =>
    have hn := hs c hc
    simp only [continuesNumber, Bool.or_eq_false_iff, beq_eq_false_iff_ne] at hn
    exact ⟨hn.1.1.1, hn.1.1.2⟩
  | unsigned he | plus he | minus he =>
    cases hc
    exact mark _ he

theorem scan_append {n : NumberToken} {w s : List Char} (h : n.MagnitudeSpelledBy w)
    (hs : Apart s) : NumberToken.scan n.negative (w ++ s) = .ok (n, w.length) := by
  obtain ⟨f, e, hf, he, rfl⟩ := h.parts
  have front := he.front hs
  have hd : NoDigit (e ++ s) := fun c hc => (front c hc).1
  have hwhole := scanWhole_append h.whole h.zero (hf.noDigit hd)
  have hfraction := scanFraction_append hf hd fun c hc => (front c hc).2
  have hexponent := scanExponent_append he hs
  have hdrop : (n.whole ++ (f ++ (e ++ s))).drop (n.whole.length + f.length) = e ++ s := by
    rw [← List.append_assoc, ← List.length_append, List.drop_left]
  unfold NumberToken.scan
  simp only [List.append_assoc, hwhole, bind, Except.bind, List.drop_left, hfraction, hdrop,
    hexponent, List.length_append]
  rw [Nat.add_assoc]

end NumberToken

namespace StringToken

theorem scan_unit {u : StringUnit} {w : List Char} (h : u.SpelledBy w) (s : List Char) :
    scan (w ++ s) = cons u w.length (scan s) := by
  cases h with
  | @plain c quote backslash control =>
    rw [List.singleton_append, scan]
    · exact if_neg (Nat.not_lt.mpr control)
    all_goals intros; simp_all
  | @letter c e escape =>
    have hu : c ≠ 'u' := by
      rintro rfl
      cases escape
    rw [List.cons_append, List.singleton_append, scan, escape]
    · rfl
    all_goals intros; simp_all
  | digits escape =>
    simp only [List.cons_append, List.nil_append]
    rw [scan, escape]
    rfl

theorem scan_append {units : List StringUnit} {w : List Char} (h : UnitsSpelledBy units w)
    (s : List Char) : scan (w ++ '"' :: s) = (⟨units, .closed⟩, w.length + 1) := by
  induction h with
  | nil => rfl
  | @cons u units v w hu _ ih =>
    rw [List.append_assoc, scan_unit hu, ih, List.length_append, cons]
    simp only [Prod.mk.injEq, true_and]
    omega

end StringToken

theorem lexeme_of_isDigit {c : Char} (h : c.isDigit = true) (s : List Char) :
    lexeme c s = scanNumber false (c :: s) 1 := by
  have hne : ∀ d : Char, d.isDigit = false → c ≠ d := by
    rintro d hd rfl
    rw [h] at hd
    cases hd
  have hspace : isSpace c = false := by
    simp only [isSpace, Bool.or_eq_false_iff, beq_eq_false_iff_ne]
    exact ⟨⟨⟨hne _ (by decide), hne _ (by decide)⟩, hne _ (by decide)⟩, hne _ (by decide)⟩
  unfold lexeme
  rw [hspace]
  simp only [Bool.false_eq_true, if_false]
  split
  case h_12 => exact if_pos h
  all_goals exact absurd h (by decide)

/-- The lexeme at the front of a spelled token is the token. -/
theorem Token.SpelledBy.lexeme_eq {t : Token} {w s : List Char} (h : t.SpelledBy w)
    (hs : ∀ n, t = .number n → Apart s) :
    ∃ c rest, w = c :: rest ∧ lexeme c (rest ++ s) = .token t rest.length := by
  cases h with
  | openArray => exact ⟨_, _, rfl, rfl⟩
  | closeArray => exact ⟨_, _, rfl, rfl⟩
  | openObject => exact ⟨_, _, rfl, rfl⟩
  | closeObject => exact ⟨_, _, rfl, rfl⟩
  | comma => exact ⟨_, _, rfl, rfl⟩
  | colon => exact ⟨_, _, rfl, rfl⟩
  | null => exact ⟨'n', _, rfl, rfl⟩
  | @bool b =>
    cases b with
    | false => exact ⟨'f', _, rfl, rfl⟩
    | true => exact ⟨'t', _, rfl, rfl⟩
  | @positive n _ sign magnitude =>
    have hscan := NumberToken.scan_append magnitude (hs n rfl)
    rw [sign] at hscan
    obtain ⟨f, e, _, _, rfl⟩ := magnitude.parts
    obtain ⟨c, digits, hw⟩ := List.exists_cons_of_ne_nil magnitude.whole.1
    refine ⟨c, digits ++ f ++ e, by simp [hw], ?_⟩
    rw [lexeme_of_isDigit (magnitude.whole.2 c (by simp [hw])), scanNumber]
    have hc : c :: (digits ++ f ++ e ++ s) = n.whole ++ f ++ e ++ s := by simp [hw]
    rw [hc, hscan]
    simp only [Lexeme.token.injEq, true_and, List.length_append, hw, List.length_cons]
    omega
  | @negative n w sign magnitude =>
    refine ⟨'-', w, rfl, ?_⟩
    have hscan := NumberToken.scan_append magnitude (hs n rfl)
    rw [sign] at hscan
    simp [lexeme, isSpace, scanNumber, hscan]
  | @string units w body =>
    refine ⟨'"', w ++ ['"'], rfl, ?_⟩
    rw [List.append_assoc, List.singleton_append]
    simp [lexeme, isSpace, StringToken.scan_append body]

theorem scanFrom_append (w s : List Char) : scanFrom w.length (w ++ s) = scanFrom 0 s := by
  induction w with
  | nil => rfl
  | cons c w ih => rw [List.cons_append, List.length_cons, scanFrom, ih]

/-- The scanner finds the tokens that a text spells, and nothing else. -/
theorem scan_of_tokensSpelledBy {ts : List Token} {s : List Char} (h : TokensSpelledBy ts s) :
    scan s = ts := by
  induction h with
  | nil => rfl
  | @space c ts s hc _ ih =>
    have hl : lexeme c s = .space := if_pos hc
    rw [scan, scanFrom, hl]
    exact ih
  | @token t ts w s ht hs _ ih =>
    obtain ⟨c, rest, rfl, hl⟩ := ht.lexeme_eq hs
    rw [scan, List.cons_append, scanFrom, hl]
    simp only
    rw [scanFrom_append, ← scan, ih]

end TokenLedger.Json
