import TokenLedger.Toml.Value

/-! # TOML scalars

Readers of strings, numbers and dates at the head of a text. A reader gives what it has read and
the rest of the text, or nothing if the text is not TOML. A reader that goes on for as long as there
is text has a `bound` besides, a list not shorter than the text, of which it gives up one element in
every step.
-/
namespace TokenLedger.Toml

abbrev Reader (α : Type) := List Char → Option (α × List Char)

def isBlank (c : Char) : Bool := c == ' ' || c == '\t'

def skipBlanks (s : List Char) : List Char := s.dropWhile isBlank

def isInline (c : Char) : Bool := c == '\t' || (0x20 ≤ c.toNat && c.toNat != 0x7F)

def newLine? : List Char → Option (List Char)
  | '\n' :: s => some s
  | '\r' :: '\n' :: s => some s
  | _ => none

def skipComment (s : List Char) : List Char :=
  match s with
  | '#' :: s => s.dropWhile isInline
  | s => s

def digitValue (c : Char) : Nat :=
  if c.isDigit then c.toNat - 0x30
  else if c.toNat < 0x61 then c.toNat - 0x41 + 10
  else c.toNat - 0x61 + 10

def isHexDigit (c : Char) : Bool :=
  c.isDigit || (0x41 ≤ c.toNat && c.toNat ≤ 0x46) || (0x61 ≤ c.toNat && c.toNat ≤ 0x66)

def digitsValue (base : Nat) (digits : List Char) : Nat :=
  digits.foldl (fun n c => n * base + digitValue c) 0

def codePoint (n : Nat) : Reader Char := fun s =>
  let digits := (s.take n).takeWhile isHexDigit
  let code := digitsValue 16 digits
  if digits.length = n ∧ code.isValidChar then some (Char.ofNat code, s.drop n) else none

def escape : Reader Char
  | 'b' :: s => some ('\x08', s)
  | 't' :: s => some ('\t', s)
  | 'n' :: s => some ('\n', s)
  | 'f' :: s => some ('\x0c', s)
  | 'r' :: s => some ('\r', s)
  | '"' :: s => some ('"', s)
  | '\\' :: s => some ('\\', s)
  | 'u' :: s => codePoint 4 s
  | 'U' :: s => codePoint 8 s
  | _ => none

def basicString : List Char → Reader (List Char)
  | [], _ => none
  | _ :: bound, s =>
    match s with
    | [] => none
    | '"' :: s => some ([], s)
    | '\\' :: s => do
      let (c, s) ← escape s
      let (cs, s) ← basicString bound s
      some (c :: cs, s)
    | c :: s =>
      if isInline c then do
        let (cs, s) ← basicString bound s
        some (c :: cs, s)
      else none

def literalString : Reader (List Char) := fun s =>
  match s.span fun c => isInline c && c != '\'' with
  | (cs, '\'' :: s) => some (cs, s)
  | _ => none

/-- The end of a string of several lines: three quotes, in front of which up to two more belong to
the string. -/
def closingQuotes? (quote : Char) (s : List Char) : Option (List Char × List Char) :=
  let run := (s.take 5).takeWhile (· == quote)
  if 3 ≤ run.length then some (run.drop 3, s.drop run.length) else none

def skipBlankLines : List Char → List Char
  | ' ' :: s => skipBlankLines s
  | '\t' :: s => skipBlankLines s
  | '\n' :: s => skipBlankLines s
  | '\r' :: '\n' :: s => skipBlankLines s
  | s => s

def lineContinuation? (s : List Char) : Option (List Char) :=
  (newLine? (skipBlanks s)).map skipBlankLines

def lineCharacter? (s : List Char) : Option (Char × List Char) :=
  match newLine? s, s with
  | some s, _ => some ('\n', s)
  | none, c :: s => if isInline c then some (c, s) else none
  | none, [] => none

def longBasicString : List Char → Reader (List Char)
  | [], _ => none
  | _ :: bound, s =>
    match closingQuotes? '"' s with
    | some r => some r
    | none =>
      match s with
      | '\\' :: s =>
        match lineContinuation? s with
        | some s => longBasicString bound s
        | none => do
          let (c, s) ← escape s
          let (cs, s) ← longBasicString bound s
          some (c :: cs, s)
      | s => do
        let (c, s) ← lineCharacter? s
        let (cs, s) ← longBasicString bound s
        some (c :: cs, s)

def longLiteralString : List Char → Reader (List Char)
  | [], _ => none
  | _ :: bound, s =>
    match closingQuotes? '\'' s with
    | some r => some r
    | none => do
      let (c, s) ← lineCharacter? s
      let (cs, s) ← longLiteralString bound s
      some (c :: cs, s)

def skipNewLine (s : List Char) : List Char := (newLine? s).getD s

def string : Reader String := fun s =>
  let finish (r : List Char × List Char) : String × List Char := (String.ofList r.1, r.2)
  match s with
  | '"' :: '"' :: '"' :: s => (longBasicString s (skipNewLine s)).map finish
  | '\'' :: '\'' :: '\'' :: s => (longLiteralString s (skipNewLine s)).map finish
  | '"' :: s => (basicString s s).map finish
  | '\'' :: s => (literalString s).map finish
  | _ => none

def moreDigits (isDigit : Char → Bool) : Reader (List Char)
  | [] => some ([], [])
  | ['_'] => none
  | '_' :: c :: s => if isDigit c then (moreDigits isDigit s).map fun r => (c :: r.1, r.2) else none
  | c :: s =>
    if isDigit c then (moreDigits isDigit s).map fun r => (c :: r.1, r.2) else some ([], c :: s)

def separatedDigits (isDigit : Char → Bool) : Reader (List Char)
  | [] => none
  | c :: s => if isDigit c then (moreDigits isDigit s).map fun r => (c :: r.1, r.2) else none

def sign : List Char → Bool × List Char
  | '-' :: s => (true, s)
  | '+' :: s => (false, s)
  | s => (false, s)

def decimalDigits : Reader (List Char)
  | '0' :: s => some (['0'], s)
  | s => separatedDigits Char.isDigit s

def within64Bits (n : Int) : Option Int :=
  if -0x8000000000000000 ≤ n ∧ n < 0x8000000000000000 then some n else none

def integerToBase (base : Nat) (isDigit : Char → Bool) : Reader Value := fun s => do
  let (digits, s) ← separatedDigits isDigit s
  let n ← within64Bits (digitsValue base digits)
  some (.integer n, s)

/-- The exponent of a floating-point number, if there is one. Outside is missing, inside is wrong. -/
def exponent (s : List Char) : Option (Option (Int × List Char)) :=
  match s with
  | c :: s =>
    if c == 'e' || c == 'E' then
      let (negative, s) := sign s
      match separatedDigits Char.isDigit s with
      | none => none
      | some (digits, s) =>
        let n : Int := digitsValue 10 digits
        some (some (if negative then -n else n, s))
    else some none
  | [] => some none

/-- The value of decimal digits with a decimal exponent, rounded once. Exponents far out of range
are cut off where nothing changes any more. -/
def roundedFloat (negative : Bool) (digits : List Char) (power : Int) : Float :=
  let n := digitsValue 10 digits
  let magnitude : Int := (Nat.toDigits 10 n).length + power
  let x : Float :=
    if n == 0 || magnitude < -400 then 0
    else if 400 < magnitude then 1 / 0
    else Float.ofScientific n (power < 0) power.natAbs
  if negative then -x else x

def decimalNumber : Reader Value := fun s => do
  let (negative, s) := sign s
  let (whole, s) ← decimalDigits s
  let (fraction, s) ← match s with
    | '.' :: s => (separatedDigits Char.isDigit s).map fun r => (some r.1, r.2)
    | s => some (none, s)
  let e ← exponent s
  match fraction, e with
  | none, none =>
    let n : Int := digitsValue 10 whole
    let n ← within64Bits (if negative then -n else n)
    some (.integer n, s)
  | fraction, e =>
    let places := fraction.getD []
    let (power, s) := e.getD (0, s)
    let x := roundedFloat negative (whole ++ places) (power - places.length)
    if x.isInf && !negative then none else some (.float x, s)

def fixedDigits (n low high : Nat) : Reader Nat := fun s =>
  let digits := (s.take n).takeWhile Char.isDigit
  let value := digitsValue 10 digits
  if digits.length = n ∧ low ≤ value ∧ value ≤ high then some (value, s.drop n) else none

def literal (c : Char) : List Char → Option (List Char)
  | d :: s => if c == d then some s else none
  | [] => none

def daysInMonth (year month : Nat) : Nat :=
  if month == 2 then
    if year % 4 == 0 && (year % 100 != 0 || year % 400 == 0) then 29 else 28
  else if month == 4 || month == 6 || month == 9 || month == 11 then 30
  else 31

def startsDate (s : List Char) : Bool :=
  (s.take 4).all Char.isDigit && s[4]? == some '-'

def startsTime (s : List Char) : Bool :=
  (fixedDigits 2 0 23 s).isSome && s[2]? == some ':'

def date? (s : List Char) : Option (List Char) := do
  let (year, s) ← fixedDigits 4 0 9999 s
  let s ← literal '-' s
  let (month, s) ← fixedDigits 2 1 12 s
  let s ← literal '-' s
  let (_, s) ← fixedDigits 2 1 (daysInMonth year month) s
  some s

def time? (s : List Char) : Option (List Char) := do
  let (_, s) ← fixedDigits 2 0 23 s
  let s ← literal ':' s
  let (_, s) ← fixedDigits 2 0 59 s
  let s ← literal ':' s
  let (_, s) ← fixedDigits 2 0 60 s
  match s with
  | '.' :: c :: rest => if c.isDigit then some (rest.dropWhile Char.isDigit) else some s
  | s => some s

def offset? : List Char → Option (List Char)
  | 'Z' :: s | 'z' :: s => some s
  | '+' :: s | '-' :: s => do
    let (_, s) ← fixedDigits 2 0 23 s
    let s ← literal ':' s
    let (_, s) ← fixedDigits 2 0 59 s
    some s
  | s => some s

def dateTime? (s : List Char) : Option (List Char) := do
  let s ← date? s
  match s with
  | c :: rest =>
    if (c == 'T' || c == 't' || c == ' ') && startsTime rest then
      let s ← time? rest
      offset? s
    else some s
  | [] => some []

def number : Reader Value := fun s =>
  let spelled (r : List Char) : Value × List Char := (.date (s.take (s.length - r.length)), r)
  if startsDate s then (dateTime? s).map spelled
  else if startsTime s then (time? s).map spelled
  else match s with
    | '0' :: 'x' :: s => integerToBase 16 isHexDigit s
    | '0' :: 'o' :: s => integerToBase 8 (fun c => c.isDigit && c.toNat < 0x38) s
    | '0' :: 'b' :: s => integerToBase 2 (fun c => c == '0' || c == '1') s
    | '+' :: 'i' :: 'n' :: 'f' :: s => some (.float (1 / 0), s)
    | '-' :: 'i' :: 'n' :: 'f' :: s => some (.float (-1 / 0), s)
    | '+' :: 'n' :: 'a' :: 'n' :: s => some (.float (0 / 0), s)
    | '-' :: 'n' :: 'a' :: 'n' :: s => some (.float (-(0 / 0)), s)
    | s => decimalNumber s

def scalar : Reader Value := fun s =>
  match s with
  | '"' :: _ | '\'' :: _ => (string s).map fun r => (.string r.1, r.2)
  | 't' :: 'r' :: 'u' :: 'e' :: s => some (.bool true, s)
  | 'f' :: 'a' :: 'l' :: 's' :: 'e' :: s => some (.bool false, s)
  | 'i' :: 'n' :: 'f' :: s => some (.float (1 / 0), s)
  | 'n' :: 'a' :: 'n' :: s => some (.float (0 / 0), s)
  | c :: _ => if c.isDigit || c == '+' || c == '-' then number s else none
  | [] => none

end TokenLedger.Toml
