import TokenLedger.Text.Utf8

/-! # JSON tokens

A text is cut into brackets, separators, words, numbers and strings. What breaks off or begins no
token is kept as a token of its own, so that a reader can say what is wrong when, and only when, it
gets there. Nothing is read behind a broken token.
-/
namespace TokenLedger.Json

/-- One element of a string: a character, or a 16-bit unit from a numeric escape. -/
inductive StringUnit
  | char (c : Char)
  | code (unit : Nat)
  deriving DecidableEq

/-- How a string ends: with its quote, with the text, or at a fault. -/
inductive StringEnd
  | closed
  | unclosed
  | badEscape
  | badHex
  | control
  deriving DecidableEq

structure StringToken where
  units : List StringUnit
  ending : StringEnd
  deriving DecidableEq

/-- A number as it is spelled: the digits of its whole part, of its fraction and of its exponent. -/
structure NumberToken where
  negative : Bool
  whole : List Char
  fraction : Option (List Char)
  exponent : Option (Bool × List Char)
  deriving DecidableEq

inductive Token
  | openArray
  | closeArray
  | openObject
  | closeObject
  | comma
  | colon
  | null
  | bool (value : Bool)
  | number (value : NumberToken)
  | string (value : StringToken)
  /-- A number that is not completed; `atEnd` if only because the text ends. -/
  | brokenNumber (atEnd : Bool)
  /-- A word that is not `true`, `false` or `null`; `atEnd` if it only breaks off. -/
  | brokenWord (atEnd : Bool)
  /-- A character that begins no token. -/
  | stray
  deriving DecidableEq

def isSpace (c : Char) : Bool := c == ' ' || c == '\n' || c == '\t' || c == '\r'

def hexDigit? (c : Char) : Option Nat :=
  let n := c.toNat
  if 0x30 ≤ n ∧ n ≤ 0x39 then some (n - 0x30)
  else if 0x41 ≤ n ∧ n ≤ 0x46 then some (n - 0x41 + 10)
  else if 0x61 ≤ n ∧ n ≤ 0x66 then some (n - 0x61 + 10)
  else none

def codeUnit? (a b c d : Char) : Option Nat :=
  match hexDigit? a, hexDigit? b, hexDigit? c, hexDigit? d with
  | some a, some b, some c, some d => some (((a * 16 + b) * 16 + c) * 16 + d)
  | _, _, _, _ => none

def simpleEscape? : Char → Option Char
  | '"' => some '"'
  | '\\' => some '\\'
  | '/' => some '/'
  | 'b' => some '\x08'
  | 'f' => some '\x0c'
  | 'n' => some '\n'
  | 'r' => some '\r'
  | 't' => some '\t'
  | _ => none

def shorterThanFour (s : List Char) : Bool := Text.utf8Size (s.take 4) < 4

def StringToken.cons (u : StringUnit) (n : Nat) (r : StringToken × Nat) : StringToken × Nat :=
  (⟨u :: r.1.units, r.1.ending⟩, r.2 + n)

def StringToken.scan : List Char → StringToken × Nat
  | [] => (⟨[], .unclosed⟩, 0)
  | '"' :: _ => (⟨[], .closed⟩, 1)
  | ['\\'] => (⟨[], .unclosed⟩, 1)
  | '\\' :: 'u' :: a :: b :: c :: d :: rest =>
    match codeUnit? a b c d with
    | some unit => StringToken.cons (.code unit) 6 (scan rest)
    | none => (⟨[], .badHex⟩, 2)
  | '\\' :: 'u' :: rest => (⟨[], if shorterThanFour rest then .unclosed else .badHex⟩, 2)
  | '\\' :: c :: rest =>
    match simpleEscape? c with
    | some e => StringToken.cons (.char e) 2 (scan rest)
    | none => (⟨[], .badEscape⟩, 2)
  | c :: rest => if c.toNat < 0x20 then (⟨[], .control⟩, 1) else StringToken.cons (.char c) 1 (scan rest)

def scanDigits (s : List Char) : Except Token (List Char × Nat) :=
  match s.takeWhile Char.isDigit with
  | [] => .error (.brokenNumber s.isEmpty)
  | digits => .ok (digits, digits.length)

def scanWhole (s : List Char) : Except Token (List Char × Nat) :=
  match scanDigits s with
  | .ok ('0' :: _ :: _, _) => .error (.brokenNumber false)
  | r => r

def scanFraction : List Char → Except Token (Option (List Char) × Nat)
  | '.' :: s => (scanDigits s).map fun r => (some r.1, r.2 + 1)
  | _ => .ok (none, 0)

def scanExponent : List Char → Except Token (Option (Bool × List Char) × Nat)
  | c :: s =>
    if c == 'e' || c == 'E' then
      match s with
      | '+' :: s => (scanDigits s).map fun r => (some (false, r.1), r.2 + 2)
      | '-' :: s => (scanDigits s).map fun r => (some (true, r.1), r.2 + 2)
      | s => (scanDigits s).map fun r => (some (false, r.1), r.2 + 1)
    else .ok (none, 0)
  | [] => .ok (none, 0)

def NumberToken.scan (negative : Bool) (s : List Char) : Except Token (NumberToken × Nat) := do
  let (whole, m) ← scanWhole s
  let (fraction, n) ← scanFraction (s.drop m)
  let (exponent, k) ← scanExponent (s.drop (m + n))
  .ok (⟨negative, whole, fraction, exponent⟩, m + n + k)

/-- What stands at some place of a text: a space, a token of which `more` characters are still to
come, or a broken token. -/
inductive Lexeme
  | space
  | token (t : Token) (more : Nat)
  | last (t : Token)

def scanWord (rest : List Char) (word : String) (t : Token) : Lexeme :=
  let letters := word.toList
  if letters.isPrefixOf rest then .token t letters.length
  else .last (.brokenWord (rest.isPrefixOf letters))

def scanNumber (negative : Bool) (s : List Char) (read : Nat) : Lexeme :=
  match NumberToken.scan negative s with
  | .ok (n, size) => .token (.number n) (size - read)
  | .error t => .last t

def lexeme (c : Char) (rest : List Char) : Lexeme :=
  if isSpace c then .space
  else match c with
    | '[' => .token .openArray 0
    | ']' => .token .closeArray 0
    | '\x7b' => .token .openObject 0
    | '\x7d' => .token .closeObject 0
    | ',' => .token .comma 0
    | ':' => .token .colon 0
    | 'n' => scanWord rest "ull" .null
    | 't' => scanWord rest "rue" (.bool true)
    | 'f' => scanWord rest "alse" (.bool false)
    | '"' =>
      let (s, size) := StringToken.scan rest
      if s.ending = .closed then .token (.string s) size else .last (.string s)
    | '-' => scanNumber true rest 0
    | c => if c.isDigit then scanNumber false (c :: rest) 1 else .token .stray 0

/-- The tokens of a text of which the first `skip` characters belong to a token already read. -/
def scanFrom : Nat → List Char → List Token
  | _, [] => []
  | skip + 1, _ :: rest => scanFrom skip rest
  | 0, c :: rest =>
    match lexeme c rest with
    | .space => scanFrom 0 rest
    | .token t more => t :: scanFrom more rest
    | .last t => [t]

def scan (s : List Char) : List Token := scanFrom 0 s

end TokenLedger.Json
