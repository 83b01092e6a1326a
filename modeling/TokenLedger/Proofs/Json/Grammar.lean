import Mathlib.Data.List.Forall2
import TokenLedger.Json.Value

/-! # The grammar of JSON

What a JSON text is, without a reader of it: each token has its spellings, a text is a row of
spelled tokens with any spaces around them, and the tokens of a tree are put between brackets and
commas. A number takes all the characters that could continue it.
-/
namespace TokenLedger.Json

def IsDigits (s : List Char) : Prop := s ≠ [] ∧ ∀ c ∈ s, c.isDigit = true

/-- A character stands for itself or has a letter; any 16-bit unit has four hexadecimal digits. -/
inductive StringUnit.SpelledBy : StringUnit → List Char → Prop
  | plain {c : Char} (quote : c ≠ '"') (backslash : c ≠ '\\') (control : 0x20 ≤ c.toNat) :
    SpelledBy (.char c) [c]
  | letter {c e : Char} (escape : simpleEscape? c = some e) : SpelledBy (.char e) ['\\', c]
  | digits {a b c d : Char} {unit : Nat} (escape : codeUnit? a b c d = some unit) :
    SpelledBy (.code unit) ['\\', 'u', a, b, c, d]

/-- The characters between the quotes of a string. -/
inductive UnitsSpelledBy : List StringUnit → List Char → Prop
  | nil : UnitsSpelledBy [] []
  | cons {u : StringUnit} {units : List StringUnit} {w s : List Char} (unit : u.SpelledBy w)
    (rest : UnitsSpelledBy units s) : UnitsSpelledBy (u :: units) (w ++ s)

namespace NumberToken

inductive FractionSpelledBy : Option (List Char) → List Char → Prop
  | absent : FractionSpelledBy none []
  | places {digits : List Char} (isDigits : IsDigits digits) :
    FractionSpelledBy (some digits) ('.' :: digits)

/-- An exponent has a sign of its own, which may be left out if it is plus. -/
inductive ExponentSpelledBy : Option (Bool × List Char) → List Char → Prop
  | absent : ExponentSpelledBy none []
  | unsigned {e : Char} {digits : List Char} (mark : e = 'e' ∨ e = 'E')
    (isDigits : IsDigits digits) : ExponentSpelledBy (some (false, digits)) (e :: digits)
  | plus {e : Char} {digits : List Char} (mark : e = 'e' ∨ e = 'E') (isDigits : IsDigits digits) :
    ExponentSpelledBy (some (false, digits)) (e :: '+' :: digits)
  | minus {e : Char} {digits : List Char} (mark : e = 'e' ∨ e = 'E') (isDigits : IsDigits digits) :
    ExponentSpelledBy (some (true, digits)) (e :: '-' :: digits)

/-- A number without its sign. A whole part that begins with zero is zero. -/
structure MagnitudeSpelledBy (n : NumberToken) (s : List Char) : Prop where
  whole : IsDigits n.whole
  zero : ∀ rest, n.whole = '0' :: rest → rest = []
  parts : ∃ f e, FractionSpelledBy n.fraction f ∧ ExponentSpelledBy n.exponent e ∧
    s = n.whole ++ f ++ e

end NumberToken

/-- The spellings of the tokens that a tree can have. -/
inductive Token.SpelledBy : Token → List Char → Prop
  | openArray : SpelledBy .openArray ['[']
  | closeArray : SpelledBy .closeArray [']']
  | openObject : SpelledBy .openObject ['\x7b']
  | closeObject : SpelledBy .closeObject ['\x7d']
  | comma : SpelledBy .comma [',']
  | colon : SpelledBy .colon [':']
  | null : SpelledBy .null "null".toList
  | bool {b : Bool} : SpelledBy (.bool b) (if b then "true" else "false").toList
  | positive {n : NumberToken} {s : List Char} (sign : n.negative = false)
    (magnitude : n.MagnitudeSpelledBy s) : SpelledBy (.number n) s
  | negative {n : NumberToken} {s : List Char} (sign : n.negative = true)
    (magnitude : n.MagnitudeSpelledBy s) : SpelledBy (.number n) ('-' :: s)
  | string {units : List StringUnit} {s : List Char} (body : UnitsSpelledBy units s) :
    SpelledBy (.string ⟨units, .closed⟩) ('"' :: (s ++ ['"']))

def continuesNumber (c : Char) : Bool := c.isDigit || c == '.' || c == 'e' || c == 'E'

/-- A text with which no number in front of it goes on. -/
def Apart (s : List Char) : Prop := ∀ c ∈ s.head?, continuesNumber c = false

/-- A row of spelled tokens, with spaces before, between and behind them. -/
inductive TokensSpelledBy : List Token → List Char → Prop
  | nil : TokensSpelledBy [] []
  | space {c : Char} {ts : List Token} {s : List Char} (isSpace : isSpace c = true)
    (rest : TokensSpelledBy ts s) : TokensSpelledBy ts (c :: s)
  | token {t : Token} {ts : List Token} {w s : List Char} (first : t.SpelledBy w)
    (apart : ∀ n, t = .number n → Apart s) (rest : TokensSpelledBy ts s) :
    TokensSpelledBy (t :: ts) (w ++ s)

theorem Apart.cons {c : Char} (h : continuesNumber c = false) (s : List Char) : Apart (c :: s) := by
  rintro d ⟨⟩
  exact h

theorem Apart.append {s r : List Char} (h : Apart s) (h' : Apart r) : Apart (s ++ r) := by
  cases s with
  | nil => exact h'
  | cons c s => exact h

theorem Token.SpelledBy.alone {t : Token} {w : List Char} (h : t.SpelledBy w) :
    TokensSpelledBy [t] w := by
  have hs : TokensSpelledBy [t] (w ++ []) := .token h (fun _ _ _ hc => by cases hc) .nil
  rwa [List.append_nil] at hs

namespace TokensSpelledBy
variable {ts us : List Token} {s r : List Char}

theorem append (h : TokensSpelledBy ts s) (h' : TokensSpelledBy us r) (hr : Apart r) :
    TokensSpelledBy (ts ++ us) (s ++ r) := by
  induction h with
  | nil => exact h'
  | space hc _ ih => exact .space hc ih
  | token ht hs _ ih =>
    rw [List.append_assoc]
    exact .token ht (fun n hn => (hs n hn).append hr) ih

theorem spaces {w : List Char} (hw : ∀ c ∈ w, isSpace c = true) (h : TokensSpelledBy ts s) :
    TokensSpelledBy ts (w ++ s) := by
  induction w with
  | nil => exact h
  | cons c w ih =>
    obtain ⟨hc, hw⟩ := List.forall_mem_cons.mp hw
    exact .space hc (ih hw)

/-- Texts joined with commas, behind which there may be spaces, spell their tokens joined with
commas. -/
theorem joined {gap : List Char} (hgap : ∀ c ∈ gap, isSpace c = true) {tss : List (List Token)}
    {texts : List (List Char)} (h : List.Forall₂ TokensSpelledBy tss texts) :
    TokensSpelledBy ([.comma].intercalate tss) (Json.joined (',' :: gap) texts) := by
  induction h with
  | nil => exact .nil
  | @cons ts s tss texts hs h ih =>
    cases h with
    | nil =>
      rw [List.intercalate_singleton]
      exact hs
    | @cons us r uss rest hr h =>
      have hrest : TokensSpelledBy (.comma :: [.comma].intercalate (us :: uss))
          (',' :: (gap ++ Json.joined (',' :: gap) (r :: rest))) :=
        .token .comma nofun (ih.spaces hgap)
      have hall := hs.append hrest (.cons (by decide) _)
      rw [List.intercalate_cons_cons, List.append_assoc, Json.joined, List.append_assoc]
      · exact hall
      · exact List.cons_ne_nil r rest

theorem array (h : TokensSpelledBy ts s) :
    TokensSpelledBy (.openArray :: ts ++ [.closeArray]) ('[' :: s ++ [']']) := by
  have hend := h.append Token.SpelledBy.closeArray.alone (.cons (by decide) [])
  have hall : TokensSpelledBy _ (['['] ++ (s ++ [']'])) := .token .openArray nofun hend
  exact hall

theorem object (h : TokensSpelledBy ts s) :
    TokensSpelledBy (.openObject :: ts ++ [.closeObject]) ('\x7b' :: s ++ ['\x7d']) := by
  have hend := h.append Token.SpelledBy.closeObject.alone (.cons (by decide) [])
  have hall : TokensSpelledBy _ (['\x7b'] ++ (s ++ ['\x7d'])) := .token .openObject nofun hend
  exact hall

end TokensSpelledBy

mutual

def Node.tokens : Node → List Token
  | .null => [.null]
  | .bool b => [.bool b]
  | .number n => [.number n]
  | .string s => [.string s]
  | .array items _ => .openArray :: [.comma].intercalate (itemTokens items) ++ [.closeArray]
  | .object members _ =>
    .openObject :: [.comma].intercalate (memberTokens members) ++ [.closeObject]
  | .broken _ => []
termination_by structural n => n

def itemTokens : List Node → List (List Token)
  | [] => []
  | n :: rest => n.tokens :: itemTokens rest
termination_by structural n => n

def memberTokens : List (StringToken × Node) → List (List Token)
  | [] => []
  | (key, n) :: rest => (.string key :: .colon :: n.tokens) :: memberTokens rest
termination_by structural n => n

end

mutual

/-- Nothing is broken in the tree: every string, array and object is closed. -/
def Node.Whole : Node → Prop
  | .null | .bool _ | .number _ => True
  | .string s => s.ending = .closed
  | .array items ending => ending = .closed ∧ WholeItems items
  | .object members ending => ending = .closed ∧ WholeMembers members
  | .broken _ => False
termination_by structural n => n

def WholeItems : List Node → Prop
  | [] => True
  | n :: rest => n.Whole ∧ WholeItems rest
termination_by structural n => n

def WholeMembers : List (StringToken × Node) → Prop
  | [] => True
  | (key, n) :: rest => key.ending = .closed ∧ n.Whole ∧ WholeMembers rest
termination_by structural n => n

end

/-- The text is a complete JSON value, of which the node is the tree. -/
def Node.WrittenAs (n : Node) (text : String) : Prop :=
  n.Whole ∧ TokensSpelledBy n.tokens text.toList

def IsJson (text : String) : Prop := ∃ n : Node, n.WrittenAs text

end TokenLedger.Json
