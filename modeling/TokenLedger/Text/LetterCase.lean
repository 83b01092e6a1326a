import TokenLedger.Text.CaseTable

/-! # Letter case

Two notions of case: `equalsIgnoringCase` folds the letters of ASCII and nothing else, `lowered`
writes a whole text in lower case as Unicode defines it.
-/
namespace TokenLedger.Text

def equalsIgnoringCase (s t : List Char) : Bool :=
  s.map Char.toLower == t.map Char.toLower

def isCased (c : Char) : Bool :=
  casedRanges.any fun r => r.1 ≤ c.toNat && c.toNat ≤ r.2

def isCaseIgnorable (c : Char) : Bool :=
  caseIgnorableRanges.any fun r => r.1 ≤ c.toNat && c.toNat ≤ r.2

def CaseRun.lower? (r : CaseRun) (n : Nat) : Option Char :=
  if r.first ≤ n && n ≤ r.last && (n - r.first) % r.step == 0 then
    some (Char.ofNat (r.lower + (n - r.first)))
  else none

/-- The lower-case form of one character. Only the dotted capital I becomes two characters. -/
def lower (c : Char) : List Char :=
  if c.toNat < 0x80 then [c.toLower]
  else if c == 'İ' then ['i', '\u0307']
  else [(caseRuns.findSome? (·.lower? c.toNat)).getD c]

def meetsCased (s : List Char) : Bool :=
  match s.dropWhile isCaseIgnorable with
  | [] => false
  | c :: _ => isCased c

/-- Lower case of `s`, where `before` is the text in front of it, last character first. A capital
sigma that ends a word takes its final form. -/
def loweredAfter (before : List Char) : List Char → List Char
  | [] => []
  | c :: rest =>
    (if c == 'Σ' then [if meetsCased before && !meetsCased rest then 'ς' else 'σ'] else lower c) ++
      loweredAfter (c :: before) rest

def lowered (s : List Char) : List Char := loweredAfter [] s

end TokenLedger.Text
