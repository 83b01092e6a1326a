import TokenLedger.Text.Plain

/-! # Quoted text

Text shown inside quotes in a message: the quote and the backslash are escaped, the common control
characters have a letter, and every other character that is not plain appears as its code point.
-/
namespace TokenLedger.Text

def escaped (quote c : Char) : List Char :=
  if c == quote || c == '\\' then ['\\', c]
  else if c == '\x00' then ['\\', '0']
  else if c == '\t' then ['\\', 't']
  else if c == '\r' then ['\\', 'r']
  else if c == '\n' then ['\\', 'n']
  else if isPlain c then [c]
  else ['\\', 'u', '\x7b'] ++ Nat.toDigits 16 c.toNat ++ ['\x7d']

def quoted (s : List Char) : List Char :=
  '"' :: s.flatMap (escaped '"') ++ ['"']

def quotedChar (c : Char) : List Char :=
  '\'' :: escaped '\'' c ++ ['\'']

end TokenLedger.Text
