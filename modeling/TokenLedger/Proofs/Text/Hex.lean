import TokenLedger.Proofs.Party.Spelling

/-! # Hexadecimal digits

Which rows of bytes are hexadecimal, said without a reader: two digits for every byte, in either
letter case. An even row that is not hexadecimal has a first byte that is no digit, and this is the
byte that the reader complains about. Texts of the same bytes differ in the case of letters alone.
-/
namespace TokenLedger.Hex

/-- The byte is the digit of a number below sixteen, in either letter case. -/
def DigitOf (n : Nat) (byte : UInt8) : Prop :=
  n < 16 ∧ (Char.ofNat byte.toNat).toLower = Nat.digitChar n

/-- Digits are characters of ASCII. -/
theorem digit?_bounds {n : Nat} {byte : UInt8} (h : digit? byte = some n) :
    n < 16 ∧ byte.toNat < 0x80 := by
  simp only [digit?] at h
  split at h
  · have hn := Option.some.inj h
    omega
  · split at h
    · have hn := Option.some.inj h
      omega
    · split at h
      · have hn := Option.some.inj h
        omega
      · cases h

theorem digit?_eq_some_iff {n : Nat} {byte : UInt8} :
    digit? byte = some n ↔ DigitOf n byte := by
  have key : ∀ b < 256, ∀ n < 16,
      digit? (UInt8.ofNat b) = some n ↔ (Char.ofNat b).toLower = Nat.digitChar n := by
    decide +kernel
  have hbyte := key byte.toNat byte.toNat_lt
  rw [UInt8.ofNat_toNat] at hbyte
  constructor
  · intro h
    obtain ⟨hn, _⟩ := digit?_bounds h
    exact ⟨hn, (hbyte n hn).mp h⟩
  · rintro ⟨hn, h⟩
    exact (hbyte n hn).mpr h

/-- The row spells the bytes: byte `j` has the value of the digits at `2 * j` and behind that. -/
structure Spells (text bytes : List UInt8) : Prop where
  length : text.length = 2 * bytes.length
  pairs : ∀ (j : Nat) (byte : UInt8), bytes[j]? = some byte →
    ∃ high low h l, text[2 * j]? = some high ∧ text[2 * j + 1]? = some low ∧
      DigitOf h high ∧ DigitOf l low ∧ byte.toNat = 16 * h + l

theorem spells_nil_iff {bytes : List UInt8} : Spells [] bytes ↔ bytes = [] := by
  constructor
  · intro h
    have hlength := h.length
    simp only [List.length_nil] at hlength
    exact List.length_eq_zero_iff.mp (by omega)
  · rintro rfl
    exact ⟨rfl, fun _ _ h => by simp at h⟩

theorem spells_cons_iff {high low : UInt8} {text bytes : List UInt8} :
    Spells (high :: low :: text) bytes ↔
      ∃ h l tail, DigitOf h high ∧ DigitOf l low ∧ Spells text tail ∧
        bytes = UInt8.ofNat (16 * h + l) :: tail := by
  constructor
  · intro hs
    have hlength := hs.length
    cases bytes with
    | nil => simp at hlength
    | cons byte tail =>
      obtain ⟨_, _, h, l, hh, hl, hhigh, hlow, hbyte⟩ := hs.pairs 0 byte rfl
      obtain rfl := Option.some.inj hh
      obtain rfl := Option.some.inj hl
      refine ⟨h, l, tail, hhigh, hlow, ⟨?_, fun j b hb => hs.pairs (j + 1) b hb⟩, ?_⟩
      · simp only [List.length_cons] at hlength
        omega
      · rw [← hbyte, UInt8.ofNat_toNat]
  · rintro ⟨h, l, tail, hhigh, hlow, htail, rfl⟩
    refine ⟨?_, ?_⟩
    · have hlength := htail.length
      simp only [List.length_cons]
      omega
    · intro j byte hj
      cases j with
      | zero =>
        obtain rfl := Option.some.inj hj
        have hh := hhigh.1
        have hl := hlow.1
        exact ⟨high, low, h, l, rfl, rfl, hhigh, hlow, UInt8.toNat_ofNat_of_lt' (by
          simp only [UInt8.size]
          omega)⟩
      | succ j => exact htail.pairs j byte hj

/-- A row of whole pairs is read as the bytes that it spells, wherever it stands. -/
theorem decodePairs_eq_ok_iff : ∀ {text bytes : List UInt8}, text.length % 2 = 0 →
    ∀ position : Nat, decodePairs position text = .ok bytes ↔ Spells text bytes
  | [], bytes, _, position => by
    rw [spells_nil_iff, decodePairs]
    · rw [Except.ok.injEq, eq_comm]
    · simp
  | [_], _, heven, _ => by simp at heven
  | high :: low :: rest, bytes, heven, position => by
    have hlength : rest.length % 2 = 0 := by
      simp only [List.length_cons] at heven
      omega
    rw [spells_cons_iff, decodePairs]
    simp only [bind_eq_ok_iff, digitAt_eq_ok_iff, digit?_eq_some_iff,
      decodePairs_eq_ok_iff hlength (position + 2), Except.ok.injEq]
    constructor
    · rintro ⟨h, hhigh, l, hlow, tail, htail, rfl⟩
      exact ⟨h, l, tail, hhigh, hlow, htail, rfl⟩
    · rintro ⟨h, l, tail, hhigh, hlow, htail, rfl⟩
      exact ⟨h, hhigh, l, hlow, tail, htail, rfl⟩

section
variable {text bytes : List UInt8}

theorem decode_of_odd (h : text.length % 2 = 1) : decode text = .error .oddLength := by
  unfold decode
  rw [h]
  rfl

theorem decode_of_even (h : text.length % 2 = 0) : decode text = decodePairs 0 text := by
  unfold decode
  rw [h]
  rfl

/-- A row of bytes is read as the bytes that it spells and as no others. -/
theorem decode_eq_ok_iff : decode text = .ok bytes ↔ Spells text bytes := by
  by_cases heven : text.length % 2 = 0
  · rw [decode_of_even heven, decodePairs_eq_ok_iff heven]
  · rw [decode_of_odd (by omega)]
    refine iff_of_false (by simp) fun h => heven ?_
    rw [h.length]
    omega

end

def nibbles (bytes : List UInt8) : List Nat :=
  bytes.flatMap fun b => [b.toNat / 16, b.toNat % 16]

theorem encode_eq_map_nibbles (bytes : List UInt8) :
    encode bytes = (nibbles bytes).map Nat.digitChar := by
  rw [nibbles, List.map_flatMap]
  rfl

theorem Spells.forall₂_nibbles : ∀ {text bytes : List UInt8}, Spells text bytes →
    List.Forall₂ DigitOf (nibbles bytes) text
  | [], _, hs => by
    obtain rfl := spells_nil_iff.mp hs
    exact .nil
  | [_], _, hs => by
    have hlength := hs.length
    simp only [List.length_cons, List.length_nil] at hlength
    omega
  | high :: low :: text, _, hs => by
    obtain ⟨h, l, tail, hhigh, hlow, htail, rfl⟩ := spells_cons_iff.mp hs
    have hh := hhigh.1
    have hl := hlow.1
    have hbyte : (UInt8.ofNat (16 * h + l)).toNat = 16 * h + l :=
      UInt8.toNat_ofNat_of_lt' (by simp only [UInt8.size]; omega)
    have hdiv : (16 * h + l) / 16 = h := by omega
    have hmod : (16 * h + l) % 16 = l := by omega
    rw [nibbles, List.flatMap_cons, hbyte, hdiv, hmod]
    exact .cons hhigh (.cons hlow htail.forall₂_nibbles)

/-- A character that begins with the byte of a digit is that digit. Those beyond ASCII begin with
greater bytes. -/
theorem utf8EncodeChar_of_digitOf {c : Char} {n : Nat} {byte : UInt8} {rest : List UInt8}
    (h : String.utf8EncodeChar c = byte :: rest) (hd : DigitOf n byte) :
    rest = [] ∧ c.toLower = Nat.digitChar n := by
  obtain ⟨_, hbyte⟩ := digit?_bounds (digit?_eq_some_iff.mpr hd)
  have hfirst : ∀ m : Nat, 0x80 ≤ m → m < 0x100 → byte ≠ UInt8.ofNat m := by
    rintro m hlow hhigh rfl
    rw [UInt8.toNat_ofNat_of_lt' hhigh] at hbyte
    omega
  simp only [String.utf8EncodeChar] at h
  split at h
  · rename_i hascii
    obtain ⟨rfl, rfl⟩ := List.cons.inj h
    refine ⟨rfl, ?_⟩
    have hc : Char.ofNat (UInt8.ofNat c.toNat).toNat = c := by
      have hlt : c.toNat < 256 := by
        have hle : c.toNat ≤ 127 := hascii
        omega
      rw [UInt8.toNat_ofNat_of_lt' hlt, Char.ofNat_toNat]
    rw [← hd.2]
    exact congrArg Char.toLower hc.symm
  · split at h
    · exact absurd (List.cons.inj h).1.symm (hfirst _ (by omega) (by omega))
    · split at h
      · exact absurd (List.cons.inj h).1.symm (hfirst _ (by omega) (by omega))
      · exact absurd (List.cons.inj h).1.symm (hfirst _ (by omega) (by omega))

/-- Digits in lower case are those of the display. -/
theorem map_toLower_of_digits {s : List Char} {ns : List Nat}
    (h : List.Forall₂ DigitOf ns (Text.utf8 s)) : s.map Char.toLower = ns.map Nat.digitChar := by
  induction s generalizing ns with
  | nil =>
    cases h
    rfl
  | cons c s ih =>
    rw [Text.utf8, List.flatMap_cons] at h
    cases hc : String.utf8EncodeChar c with
    | nil => exact absurd hc String.utf8EncodeChar_ne_nil
    | cons byte rest =>
      rw [hc] at h
      cases h with
      | cons hd hrest =>
        obtain ⟨rfl, hlower⟩ := utf8EncodeChar_of_digitOf hc hd
        rw [List.map_cons, List.map_cons, hlower, ih hrest]

/-- A text of bytes is their display, up to the case of letters. -/
theorem map_toLower_of_spells {s : List Char} {bytes : List UInt8}
    (h : Spells (Text.utf8 s) bytes) : s.map Char.toLower = encode bytes := by
  rw [encode_eq_map_nibbles, map_toLower_of_digits h.forall₂_nibbles]

end TokenLedger.Hex
