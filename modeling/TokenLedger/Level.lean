import TokenLedger.Text.LetterCase

/-! # Levels

Levels of detail of a log, by name in any letter case.
-/
namespace TokenLedger

inductive Level
  | trace
  | debug
  | info
  | warn
  | error
  deriving DecidableEq

namespace Level

def all : List Level := [.trace, .debug, .info, .warn, .error]

def name : Level → String
  | .trace => "trace"
  | .debug => "debug"
  | .info => "info"
  | .warn => "warn"
  | .error => "error"

def detail : Level → Nat
  | .error => 0
  | .warn => 1
  | .info => 2
  | .debug => 3
  | .trace => 4

/-- The level that a text names in any letter case; otherwise the text in lower case. -/
def parse (text : String) : Except String Level :=
  let lowered := String.ofList (Text.lowered text.toList)
  match all.find? fun l => l.name = lowered with
  | some l => .ok l
  | none => .error lowered

def validate (text : String) : Except String Unit := (parse text).map fun _ => ()

theorem validate_eq_ok_iff {text : String} : validate text = .ok () ↔ ∃ l, parse text = .ok l := by
  unfold validate
  cases parse text <;> simp [Except.map]

theorem validate_eq_error_iff {text lowered : String} :
    validate text = .error lowered ↔ parse text = .error lowered := by
  unfold validate
  cases parse text <;> simp [Except.map]

theorem mem_all (l : Level) : l ∈ all := by cases l <;> decide

theorem name_injective {l m : Level} (h : l.name = m.name) : l = m := by
  revert h
  cases l <;> cases m <;> decide

end Level

end TokenLedger
