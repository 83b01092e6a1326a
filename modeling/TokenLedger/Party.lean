import TokenLedger.Digest.Blake3
import TokenLedger.Text.Blank
import TokenLedger.Text.Hex
import TokenLedger.Text.Utf8

/-! # Parties

A party is known by a handle of 32 bytes, derived from its public key and written in hexadecimal.
The handle of zeros is reserved: it stands for nobody.
-/
namespace TokenLedger

structure Party where
  bytes : List UInt8
  size : bytes.length = 32
  deriving DecidableEq

namespace Party

inductive Fault
  | hex (fault : Hex.Fault)
  | size (bytes : Nat)
  deriving DecidableEq

def Fault.message : Fault → String
  | .hex fault => "Invalid hex: " ++ fault.message
  | .size bytes => "Invalid length: expected 32 bytes, got " ++ toString bytes

/-- The handle of zeros, which names nobody. -/
def absent : Party := ⟨List.replicate 32 0, by simp⟩

def ofByte (byte : UInt8) : Party := ⟨List.replicate 32 byte, by simp⟩

/-- The handle that belongs to a public key. The key itself is not examined. -/
def ofPublicKey (key : List UInt8) : Party := ⟨Blake3.digest key, by simp⟩

def parse (text : String) : Except Fault Party :=
  match Hex.decode (Text.utf8 (Text.trim text.toList)) with
  | .error fault => .error (.hex fault)
  | .ok bytes => if h : bytes.length = 32 then .ok ⟨bytes, h⟩ else .error (.size bytes.length)

def display (p : Party) : String := String.ofList (Hex.encode p.bytes)

def shortForm (p : Party) : String :=
  "PartyId(" ++ String.ofList (Hex.encode (p.bytes.take 8)) ++ ")"

/-- The display of a handle reads back as the handle. -/
theorem parse_display (p : Party) : parse p.display = .ok p := by
  simp [parse, display, Hex.trim_encode, Hex.decode_encode, p.size]

/-- Handles are ordered by their bytes, the first byte counting most. -/
instance : LE Party := ⟨fun p q => p.bytes ≤ q.bytes⟩

instance : LT Party := ⟨fun p q => p.bytes < q.bytes⟩

instance (p q : Party) : Decidable (p ≤ q) := inferInstanceAs (Decidable (p.bytes ≤ q.bytes))

instance (p q : Party) : Decidable (p < q) := inferInstanceAs (Decidable (p.bytes < q.bytes))

instance : Ord Party := ⟨fun p q => compareOfLessAndEq p q⟩

def sort (parties : List Party) : List Party := parties.mergeSort fun p q => decide (p ≤ q)

end Party

end TokenLedger
