/-!
# Options of a sheet

The character that marks a formula, the digits shown after the point, and the width of new columns.
-/

namespace Spreadsheet

/-- The options of a sheet. -/
structure Options where
  /-- The character that a formula starts with. -/
  marker : Char
  /-- How many digits after the point are shown of numbers that are not whole. -/
  decimals : Nat
  /-- The width of columns that were given none. -/
  columnWidth : Nat
  deriving DecidableEq

/-- Why options are refused. -/
inductive OptionFault where
  | marker
  | decimals
  | columnWidth
  deriving DecidableEq

/-- The wording of a fault. -/
def OptionFault.message : OptionFault → String
  | .marker => "formula_marker must be a single character"
  | .decimals => "decimals must be >= 0"
  | .columnWidth => "default_column_width must be >= 1"

namespace Options

/-- The options of a sheet that was given none. -/
def standard : Options := ⟨'=', 2, 10⟩

/-- Options from unchecked settings. -/
def make (marker : String) (decimals columnWidth : Int) : Except OptionFault Options :=
  match marker.toList with
  | [c] =>
    if decimals < 0 then .error .decimals
    else if columnWidth < 1 then .error .columnWidth
    else .ok ⟨c, decimals.toNat, columnWidth.toNat⟩
  | _ => .error .marker

/-- The text after the marker, if the text is a formula. -/
def formulaBody? (options : Options) (raw : String) : Option String :=
  match raw.toList with
  | c :: body => if c = options.marker then some (String.ofList body) else none
  | [] => none

/-- The text is a formula. -/
def isFormula (options : Options) (raw : String) : Bool := (options.formulaBody? raw).isSome

/-- The text of a cell with the given formula. -/
def formulaText (options : Options) (body : String) : String :=
  String.ofList (options.marker :: body.toList)

/-- A text has a formula exactly if it is the text of that formula. -/
theorem formulaBody?_eq_some_iff {options : Options} {raw body : String} :
    options.formulaBody? raw = some body ↔ raw = options.formulaText body := by
  rw [formulaBody?, formulaText]
  constructor
  · intro h
    split at h
    · next c cs hraw =>
      split at h
      · next hc =>
        cases h
        rw [String.toList_ofList, ← hc, ← hraw, String.ofList_toList]
      · contradiction
    · contradiction
  · rintro rfl
    simp

end Options

end Spreadsheet
