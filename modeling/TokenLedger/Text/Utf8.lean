/-! # Bytes of a text

The bytes that encode a text, and its length counted in them.
-/
namespace TokenLedger.Text

def utf8 (s : List Char) : List UInt8 := s.flatMap String.utf8EncodeChar

def utf8Size : List Char → Nat
  | [] => 0
  | c :: s => c.utf8Size + utf8Size s

end TokenLedger.Text
