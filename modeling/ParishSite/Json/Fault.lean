import ParishSite.Number.Layout
import ParishSite.Text.Quoted

/-! What can be wrong with a JSON text that is read as a value of a known shape. A fault is either in
the text itself or in what the text says, and the two kinds are answered differently. -/

namespace ParishSite.Json

open Number (Binary64 Layout)

/-- Faults of the text itself. -/
inductive SyntaxFault
  | endInValue
  | endInObject
  | endInList
  | endInString
  | expectedValue
  | expectedWord
  | expectedColon
  | expectedCommaOrBrace
  | expectedCommaOrBracket
  | keyNotString
  | trailingComma
  | trailingCharacters
  | malformedNumber
  | numberTooLarge
  | unknownEscape
  | unpairedSurrogate
  | loneSurrogate
  | controlCharacter
  | illFormedText
  | nestedTooDeeply
deriving DecidableEq

namespace SyntaxFault

def message : SyntaxFault → String
  | endInValue => "EOF while parsing a value"
  | endInObject => "EOF while parsing an object"
  | endInList => "EOF while parsing a list"
  | endInString => "EOF while parsing a string"
  | expectedValue => "expected value"
  | expectedWord => "expected ident"
  | expectedColon => "expected `:`"
  | expectedCommaOrBrace => "expected `,` or `\x7d`"
  | expectedCommaOrBracket => "expected `,` or `]`"
  | keyNotString => "key must be a string"
  | trailingComma => "trailing comma"
  | trailingCharacters => "trailing characters"
  | malformedNumber => "invalid number"
  | numberTooLarge => "number out of range"
  | unknownEscape => "invalid escape"
  | unpairedSurrogate => "unexpected end of hex escape"
  | loneSurrogate => "lone leading surrogate in hex escape"
  | controlCharacter => "control character (\\u0000-\\u001F) found while parsing a string"
  | illFormedText => "invalid unicode code point"
  | nestedTooDeeply => "recursion limit exceeded"

end SyntaxFault

inductive Found
  | null
  | bool (value : Bool)
  | int (value : Int)
  | float (value : Binary64)
  | str (text : String)
  | list
  | object

namespace Found

def describe : Found → String
  | null => "null"
  | bool true => "boolean `true`"
  | bool false => "boolean `false`"
  | int n => "integer `" ++ toString n ++ "`"
  | float x => "floating point `" ++ Layout.data.render x ++ "`"
  | str s => "string " ++ Text.quoted s
  | list => "sequence"
  | object => "map"

end Found

/-- Faults of what a well-formed text says. -/
inductive ShapeFault
  | wrongKind (found : Found) (expected : String)
  | wrongValue (found : Found) (expected : String)
  | missingField (name : String)
  | repeatedField (name : String)
  | wrongLength (length : Nat) (expected : String)
  | unknownVariant (name : String) (known : List String)
  | noSuchId
  | badTime (message : String)

namespace ShapeFault

private def inTicks (s : String) : String := "`" ++ s ++ "`"

private def oneOf : List String → String
  | [a, b] => inTicks a ++ " or " ++ inTicks b
  | known => "one of " ++ ", ".intercalate (known.map inTicks)

def message : ShapeFault → String
  | wrongKind found expected => "invalid type: " ++ found.describe ++ ", expected " ++ expected
  | wrongValue found expected => "invalid value: " ++ found.describe ++ ", expected " ++ expected
  | missingField name => "missing field " ++ inTicks name
  | repeatedField name => "duplicate field " ++ inTicks name
  | wrongLength length expected =>
    "invalid length " ++ toString length ++ ", expected " ++ expected
  | unknownVariant name known => "unknown variant " ++ inTicks name ++ ", expected " ++ oneOf known
  | noSuchId => "data did not match any variant of untagged enum RowId"
  | badTime message => message

end ShapeFault

inductive Fault
  | text (fault : SyntaxFault)
  | shape (fault : ShapeFault)

namespace Fault

def message : Fault → String
  | text fault => fault.message
  | shape fault => fault.message

def isSyntax : Fault → Bool
  | text _ => true
  | shape _ => false

end Fault

/-- One step of the way from a whole document to the part that is being read. -/
inductive Step
  | field (name : String)
  | item (index : Nat)

/-- A fault and the way to the part where it was found. -/
structure Misfit where
  path : List Step
  fault : Fault

namespace Misfit

def here (fault : Fault) : Misfit := ⟨[], fault⟩

def under (step : Step) (m : Misfit) : Misfit := { m with path := step :: m.path }

def message (m : Misfit) : String := m.fault.message

private def renderPath : List Step → String
  | [] => ""
  | .field name :: rest => "." ++ name ++ renderPath rest
  | .item index :: rest => "[" ++ toString index ++ "]" ++ renderPath rest

def locatedMessage (m : Misfit) : String :=
  match m.path with
  | [] => m.message
  | .field name :: rest => name ++ renderPath rest ++ ": " ++ m.message
  | path => renderPath path ++ ": " ++ m.message

end Misfit
end ParishSite.Json
