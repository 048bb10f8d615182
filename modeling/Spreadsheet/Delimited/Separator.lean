/-!
# Separators

The character between the fields of delimited text. A setting that is not a single character is
refused.
-/

namespace Spreadsheet.Delimited

/-- The separator is not a single character. -/
inductive SeparatorFault where
  | notOneCharacter
  deriving DecidableEq

/-- The wording of a fault. -/
def SeparatorFault.message : SeparatorFault → String
  | .notOneCharacter => "\"delimiter\" must be a 1-character string"

/-- The separator that a setting names. -/
def separator (setting : String) : Except SeparatorFault Char :=
  match setting.toList with
  | [c] => .ok c
  | _ => .error .notOneCharacter

end Spreadsheet.Delimited
