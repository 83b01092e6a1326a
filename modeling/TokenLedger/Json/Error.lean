import TokenLedger.Misfit

/-! # Errors of reading JSON

A text can fail to be JSON, or be JSON that does not fit.
-/
namespace TokenLedger.Json

inductive Fault
  | endInValue
  | endInList
  | endInObject
  | endInString
  | expectedValue
  | expectedWord
  | expectedColon
  | expectedListEnd
  | expectedObjectEnd
  | keyNotString
  | trailingComma
  | trailingCharacters
  | invalidNumber
  | numberOutOfRange
  | invalidEscape
  | loneSurrogate
  | halfSurrogate
  | controlCharacter
  | tooDeep
  deriving DecidableEq

namespace Fault

def isEnd : Fault → Bool
  | .endInValue | .endInList | .endInObject | .endInString => true
  | _ => false

def message : Fault → String
  | .endInValue => "EOF while parsing a value"
  | .endInList => "EOF while parsing a list"
  | .endInObject => "EOF while parsing an object"
  | .endInString => "EOF while parsing a string"
  | .expectedValue => "expected value"
  | .expectedWord => "expected ident"
  | .expectedColon => "expected `:`"
  | .expectedListEnd => "expected `,` or `]`"
  | .expectedObjectEnd => "expected `,` or `\x7d`"
  | .keyNotString => "key must be a string"
  | .trailingComma => "trailing comma"
  | .trailingCharacters => "trailing characters"
  | .invalidNumber => "invalid number"
  | .numberOutOfRange => "number out of range"
  | .invalidEscape => "invalid escape"
  | .loneSurrogate => "lone leading surrogate in hex escape"
  | .halfSurrogate => "unexpected end of hex escape"
  | .controlCharacter => "control character (\\u0000-\\u001F) found while parsing a string"
  | .tooDeep => "recursion limit exceeded"

end Fault

inductive Error
  | text (fault : Fault)
  | misfit (misfit : Misfit)
  deriving DecidableEq

def Error.message : Error → String
  | .text fault => fault.message
  | .misfit m => m.message

end TokenLedger.Json
