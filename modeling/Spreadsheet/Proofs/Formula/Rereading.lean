import Spreadsheet.Proofs.Formula.Printing

/-!
# Formulas on sheets of another size

A text that is read as a formula on one sheet is read as the same on another, if the references of
the formula lie on that one too (`parse_of_placed`). So the text of a formula need not be written
anew when rows and columns come and go and none of its references moves (`parse_of_afterEdit`), and
neither when the sheet grows (`parse_of_le`).
-/

namespace Spreadsheet

namespace Grammar

open Spreadsheet.Expr

variable {g g' : Grammar} {case : Text.LetterCase} {words : List Lexeme} {e : Expr}
  {lowercase : Bool}

theorem IsCell.transfer {name : String} {cell : Coord} (h : g.IsCell case name cell)
    (hwithin : cell.Within g'.nRows g'.nCols) : g'.IsCell case name cell := by
  obtain ⟨letters, digits, happend, hcol, hrow⟩ := h
  exact ⟨letters, digits, happend, ⟨hcol.nonempty, hcol.oneCase, hcol.value, hwithin.2.2⟩,
    ⟨hrow.nonempty, hrow.decimal, hrow.value, hwithin.1⟩⟩

theorem IsColumn.transfer {letters : List Char} {col : Int} (h : g.IsColumn case letters col)
    (hwithin : col < g'.nCols) : g'.IsColumn case letters col :=
  ⟨h.nonempty, h.oneCase, h.value, hwithin⟩

/-- The corners of a range on the sheet are cells of the sheet. -/
theorem within_of_placed_rangeBetween {a b : Coord} (ha : a.Within g.nRows g.nCols)
    (hb : b.Within g.nRows g.nCols)
    (h : (rangeBetween case a b).Placed g'.nRows g'.nCols lowercase) :
    a.Within g'.nRows g'.nCols ∧ b.Within g'.nRows g'.nCols := by
  obtain ⟨hrows, hcols, -⟩ := h
  obtain ⟨harow, hacol⟩ := ha
  obtain ⟨hbrow, hbcol⟩ := hb
  refine ⟨⟨?_, ?_⟩, ?_, ?_⟩ <;> omega

theorem Refers.isReference (h : g.Refers case words e) : e.isReference := by
  cases h <;> rfl

theorem Refers.transfer (h : g.Refers case words e)
    (hplaced : e.Placed g'.nRows g'.nCols lowercase) : g'.Refers case words e := by
  cases h with
  | cell h => exact .cell (h.transfer hplaced.1)
  | range ha hb =>
    obtain ⟨hfirst, hlast⟩ := within_of_placed_rangeBetween ha.within hb.within hplaced
    exact .range (ha.transfer hfirst) (hb.transfer hlast)
  | rangeToRow ha hrow =>
    have hend : Coord.Within ⟨_, _⟩ g.nRows g.nCols := ⟨hrow.within, ha.within.2⟩
    obtain ⟨hfirst, hlast⟩ := within_of_placed_rangeBetween ha.within hend hplaced
    exact .rangeToRow (ha.transfer hfirst)
      ⟨hrow.nonempty, hrow.decimal, hrow.value, hlast.1⟩
  | column h => exact .column (h.transfer hplaced.1.2.2)
  | columns ha hb =>
    obtain ⟨⟨-, -, hlast⟩, -⟩ := hplaced
    exact .columns (ha.transfer (by omega)) (hb.transfer (by omega))

/-- A phrase is one on another sheet of the same functions if its references lie there. -/
theorem Derives.transfer (hfunctions : g'.functions = g.functions) {phrase : Phrase}
    (h : g.Derives case phrase words e)
    (hplaced : e.Throughout (Placed g'.nRows g'.nCols lowercase)) :
    g'.Derives case phrase words e := by
  induction h with
  | ofSum _ ih => exact .ofSum (ih hplaced)
  | ofProduct _ ih => exact .ofProduct (ih hplaced)
  | ofSigned _ ih => exact .ofSigned (ih hplaced)
  | ofPart _ ih => exact .ofPart (ih hplaced)
  | compare op _ _ ihLeft ihRight =>
    obtain ⟨-, hleft, hright⟩ := throughout_binary.1 hplaced
    exact .compare op (ihLeft hleft) (ihRight hright)
  | add _ _ ihLeft ihRight =>
    obtain ⟨-, hleft, hright⟩ := throughout_binary.1 hplaced
    exact .add (ihLeft hleft) (ihRight hright)
  | subtract _ _ ihLeft ihRight =>
    obtain ⟨-, hleft, hright⟩ := throughout_binary.1 hplaced
    exact .subtract (ihLeft hleft) (ihRight hright)
  | multiply _ _ ihLeft ihRight =>
    obtain ⟨-, hleft, hright⟩ := throughout_binary.1 hplaced
    exact .multiply (ihLeft hleft) (ihRight hright)
  | divide _ _ ihLeft ihRight =>
    obtain ⟨-, hleft, hright⟩ := throughout_binary.1 hplaced
    exact .divide (ihLeft hleft) (ihRight hright)
  | minus _ ih => exact .minus (ih (throughout_unary.1 hplaced).2)
  | number spelling => exact .number spelling
  | string content => exact .string content
  | deletedReference spelling => exact .deletedReference spelling
  | parenthesized _ ih => exact .parenthesized (ih hplaced)
  | call hfind haccepts _ ih =>
    have hargs := List.forall_mem_map.1 (throughout_call.1 hplaced).2
    rw [← hfunctions] at hfind
    exact .call hfind haccepts fun argument hargument =>
      ih argument hargument (hargs argument hargument)
  | reference h =>
    have hnodes := nodes_of_isReference h.isReference
    exact .reference (h.transfer ((throughout_of_nodes hnodes).1 hplaced))

/-- A text is read as the same on another sheet if the references lie there. -/
theorem parse_of_placed (hfunctions : g'.functions = g.functions) {text : String}
    (h : g.parse text = .ok e) (hplaced : e.Throughout (Placed g'.nRows g'.nCols lowercase)) :
    g'.parse text = .ok e := by
  obtain ⟨tokens, htokens, case, words, hwords, hderives⟩ := spells_of_parse h
  exact parse_of_spells htokens ⟨case, words, hwords, hderives.transfer hfunctions hplaced⟩

/-- A formula that stays as it is when a row or column comes or goes is read from its text still. -/
theorem parse_of_afterEdit {edit : LineEdit} (hedit : g.Allows edit) {text : String}
    (h : g.parse text = .ok e) (hnone : e.afterEdit? edit = none) :
    (g.after edit).parse text = .ok e := by
  obtain ⟨lowercase, hprintable⟩ := exists_printable_of_parse h
  have hafter := printable_afterEdit hedit hprintable
  rw [hnone, Option.getD_none] at hafter
  exact parse_of_placed (g.functions_after edit) h (hafter.mono fun node hnode => hnode.placed)

/-- A formula that is written anew when a row or column comes or goes is read from its new text. -/
theorem parse_print_of_afterEdit {edit : LineEdit} (hedit : g.Allows edit) {text : String}
    (h : g.parse text = .ok e) {new : Expr} (hnew : e.afterEdit? edit = some new) :
    (g.after edit).parse new.print = .ok new := by
  obtain ⟨lowercase, hprintable⟩ := exists_printable_of_parse h
  have hafter := printable_afterEdit hedit hprintable
  rw [hnew, Option.getD_some] at hafter
  exact parse_print_of_printable hafter

/-- A formula is read from its text on a greater sheet. -/
theorem parse_of_le (hrows : g.nRows ≤ g'.nRows) (hcols : g.nCols ≤ g'.nCols)
    (hfunctions : g'.functions = g.functions) {text : String} (h : g.parse text = .ok e) :
    g'.parse text = .ok e := by
  obtain ⟨lowercase, hprintable⟩ := exists_printable_of_parse h
  exact parse_of_placed hfunctions h
    (hprintable.mono fun node hnode => hnode.placed.mono hrows hcols)

end Grammar

end Spreadsheet
