import TokenLedger.Proofs.Text.Hex
import TokenLedger.Proofs.Text.LetterCase

/-! # Handles and their texts

A text is read as a handle by its bytes once the blanks around it are gone. Every text has exactly
one outcome: the handle that its digits spell, or the first of three faults. A handle has one text
in lower case, its display, and the other texts of it differ in the case of letters and in blanks.
-/
namespace TokenLedger.Party

def trimmedBytes (text : String) : List UInt8 := Text.utf8 (Text.trim text.toList)

theorem parse_of_spells {text : String} {bytes : List UInt8}
    (h : Hex.Spells (trimmedBytes text) bytes) :
    parse text = if size : bytes.length = 32 then .ok ⟨bytes, size⟩
      else .error (.size bytes.length) := by
  have hdecode : Hex.decode (Text.utf8 (Text.trim text.toList)) = .ok bytes :=
    Hex.decode_eq_ok_iff.mpr h
  rw [parse, hdecode]

end TokenLedger.Party
