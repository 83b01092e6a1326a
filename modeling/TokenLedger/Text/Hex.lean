import TokenLedger.Text.Blank
import TokenLedger.Text.Quoted
import TokenLedger.Text.Utf8

/-! # Hexadecimal text

Bytes are written with two lower-case digits each and read in either case. A text that cannot be
read has an odd number of bytes or else a first byte that is no digit. Main statement:
`decode_encode`.
-/
namespace TokenLedger.Hex

/-- Why a text is not hexadecimal. Parity is looked at before any digit. -/
inductive Fault
  | oddLength
  | badDigit (byte : UInt8) (position : Nat)
  deriving DecidableEq

def Fault.message : Fault → String
  | .oddLength => "Odd number of digits"
  | .badDigit byte position =>
    "Invalid character " ++ String.ofList (Text.quotedChar (Char.ofNat byte.toNat)) ++
      " at position " ++ toString position

def encode (bytes : List UInt8) : List Char :=
  bytes.flatMap fun b => [Nat.digitChar (b.toNat / 16), Nat.digitChar (b.toNat % 16)]

def digit? (byte : UInt8) : Option Nat :=
  let n := byte.toNat
  if 0x30 ≤ n ∧ n ≤ 0x39 then some (n - 0x30)
  else if 0x41 ≤ n ∧ n ≤ 0x46 then some (n - 0x41 + 10)
  else if 0x61 ≤ n ∧ n ≤ 0x66 then some (n - 0x61 + 10)
  else none

def digitAt (position : Nat) (byte : UInt8) : Except Fault Nat :=
  match digit? byte with
  | some n => .ok n
  | none => .error (.badDigit byte position)

/-- Reads the digits in pairs, the first of them at `position`. -/
def decodePairs (position : Nat) : List UInt8 → Except Fault (List UInt8)
  | high :: low :: rest => do
    let h ← digitAt position high
    let l ← digitAt (position + 1) low
    let tail ← decodePairs (position + 2) rest
    .ok (UInt8.ofNat (16 * h + l) :: tail)
  | _ => .ok []

def decode (text : List UInt8) : Except Fault (List UInt8) :=
  if text.length % 2 == 1 then .error .oddLength else decodePairs 0 text

theorem encode_cons (b : UInt8) (bytes : List UInt8) : encode (b :: bytes) =
    Nat.digitChar (b.toNat / 16) :: Nat.digitChar (b.toNat % 16) :: encode bytes := rfl

/-- The digit of a number below sixteen is one byte, which spells that number. -/
theorem digit_digitChar {n : Nat} (h : n < 16) :
    String.utf8EncodeChar (Nat.digitChar n) = [UInt8.ofNat (Nat.digitChar n).toNat] ∧
      digit? (UInt8.ofNat (Nat.digitChar n).toNat) = some n := by
  have key : ∀ n ∈ List.range 16,
      String.utf8EncodeChar (Nat.digitChar n) = [UInt8.ofNat (Nat.digitChar n).toNat] ∧
        digit? (UInt8.ofNat (Nat.digitChar n).toNat) = some n := by decide
  exact key n (List.mem_range.mpr h)

theorem isBlank_digitChar {n : Nat} (h : n < 16) : Text.isBlank (Nat.digitChar n) = false := by
  have key : ∀ n ∈ List.range 16, Text.isBlank (Nat.digitChar n) = false := by decide
  exact key n (List.mem_range.mpr h)

theorem mem_encode {bytes : List UInt8} {c : Char} (h : c ∈ encode bytes) :
    ∃ n < 16, c = Nat.digitChar n := by
  obtain ⟨b, _, hc⟩ := List.mem_flatMap.mp h
  have hb := b.toNat_lt
  rcases List.mem_cons.mp hc with rfl | hc
  · exact ⟨b.toNat / 16, by omega, rfl⟩
  · exact ⟨b.toNat % 16, by omega, List.mem_singleton.mp hc⟩

/-- A byte is written as two bytes, which are the digits of its halves. -/
theorem exists_utf8_encode_cons (b : UInt8) (bytes : List UInt8) : ∃ high low,
    Text.utf8 (encode (b :: bytes)) = high :: low :: Text.utf8 (encode bytes) ∧
      digit? high = some (b.toNat / 16) ∧ digit? low = some (b.toNat % 16) := by
  have hb := b.toNat_lt
  obtain ⟨hhigh, hdigit⟩ := digit_digitChar (n := b.toNat / 16) (by omega)
  obtain ⟨hlow, hdigit'⟩ := digit_digitChar (n := b.toNat % 16) (by omega)
  refine ⟨_, _, ?_, hdigit, hdigit'⟩
  rw [encode_cons, Text.utf8, List.flatMap_cons, List.flatMap_cons, hhigh, hlow]
  rfl

theorem decodePairs_utf8_encode (position : Nat) (bytes : List UInt8) :
    decodePairs position (Text.utf8 (encode bytes)) = .ok bytes := by
  induction bytes generalizing position with
  | nil => rfl
  | cons b bytes ih =>
    obtain ⟨high, low, htext, hhigh, hlow⟩ := exists_utf8_encode_cons b bytes
    have hb : UInt8.ofNat (16 * (b.toNat / 16) + b.toNat % 16) = b := by
      rw [Nat.div_add_mod]; exact UInt8.ofNat_toNat
    simp [htext, decodePairs, digitAt, hhigh, hlow, ih, bind, Except.bind, hb]

@[simp] theorem length_utf8_encode (bytes : List UInt8) :
    (Text.utf8 (encode bytes)).length = 2 * bytes.length := by
  induction bytes with
  | nil => rfl
  | cons b bytes ih =>
    obtain ⟨high, low, htext, _⟩ := exists_utf8_encode_cons b bytes
    rw [htext, List.length_cons, List.length_cons, List.length_cons, ih]
    omega

/-- Reading what was written gives the bytes back. -/
theorem decode_encode (bytes : List UInt8) : decode (Text.utf8 (encode bytes)) = .ok bytes := by
  simp [decode, decodePairs_utf8_encode]

theorem trim_encode (bytes : List UInt8) : Text.trim (encode bytes) = encode bytes :=
  Text.trim_eq_self fun _ h => by
    obtain ⟨n, hn, rfl⟩ := mem_encode h
    exact isBlank_digitChar hn

end TokenLedger.Hex
