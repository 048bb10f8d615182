import Spreadsheet.Text.Case
import Spreadsheet.Value

/-!
# Faults in formulas

Everything that can be wrong with the text of a formula, with its class (`ParseFault.reason`) and
its wording (`ParseFault.message`).
-/

namespace Spreadsheet

/-- Why a formula cannot be read. -/
inductive ParseFault where
  | malformedNumber (position : Nat)
  | unterminatedString
  | unexpectedCharacter (c : Char)
  | unexpectedEnd
  | unexpectedToken (text : String)
  | unknownFunction (name : String)
  | argumentCount (name : String) (count : Nat)
  | notAReference (text : String)
  | mixedReference (text : String)
  | mixedFormula
  | columnOutside (letters : String) (nCols : Int)
  | rowOutside (digits : String) (nRows : Int)
  | missingRow (text : String)
  | columnToCell (letters cell : String)
  | rangeEndWithoutRow (text : String)
  deriving DecidableEq

namespace ParseFault

/-- The class of a fault. -/
def reason : ParseFault → ParseReason
  | .malformedNumber _ | .unexpectedCharacter _ | .unexpectedEnd | .unexpectedToken _
  | .argumentCount _ _ => .unexpectedToken
  | .unterminatedString => .unterminatedString
  | .unknownFunction _ => .unknownFunction
  | .mixedReference _ | .mixedFormula => .mixedCase
  | .notAReference _ | .columnOutside _ _ | .rowOutside _ _ | .missingRow _ | .columnToCell _ _
  | .rangeEndWithoutRow _ => .invalidReference

/-- The wording of a fault. -/
def message : ParseFault → String
  | .malformedNumber position => s!"Malformed number at {position}"
  | .unterminatedString => "Unterminated string literal"
  | .unexpectedCharacter c => s!"Unexpected character {Text.quoted (String.ofList [c])}"
  | .unexpectedEnd => "Unexpected end of formula"
  | .unexpectedToken text => s!"Unexpected {Text.quoted text}"
  | .unknownFunction name => s!"Unknown function {Text.quoted name}"
  | .argumentCount name count =>
    s!"{String.ofList (Text.upper name.toList)} does not take {count} argument(s)"
  | .notAReference text => s!"Not a cell reference: {Text.quoted text}"
  | .mixedReference text => s!"Reference mixes letter case: {Text.quoted text}"
  | .mixedFormula => "Formula mixes upper-case and lower-case references"
  | .columnOutside letters nCols =>
    s!"Column {Text.quoted letters} is outside the sheet ({nCols} columns)"
  | .rowOutside digits nRows => s!"Row {digits} is outside the sheet ({nRows} rows)"
  | .missingRow text => s!"Missing row number in {Text.quoted text}"
  | .columnToCell letters cell =>
    s!"Cannot span from column {Text.quoted letters} to cell {Text.quoted cell}"
  | .rangeEndWithoutRow text => s!"Range end {Text.quoted text} has no row number"

end ParseFault

/-- A fault in a formula and where it is, as a count of characters before it. -/
structure ParseError where
  fault : ParseFault
  position : Nat
  deriving DecidableEq

end Spreadsheet
