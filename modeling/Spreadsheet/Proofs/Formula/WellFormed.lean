import Spreadsheet.Proofs.Formula.Nodes
import Spreadsheet.Proofs.Formula.Soundness

/-!
# Well-formed formulas

A formula is well-formed for a grammar if its operators, calls and numbers can be written and its
references lie on the sheet, all in one case (`Expr.WellFormed`). Formulas that are read are
well-formed (`exists_printable_of_parse`), and they remain so when rows and columns come and go
(`printable_afterEdit`) and when references are moved (`printable_shifted`). That its functions are
called by names as the tokens have them is a condition of its own, `Expr.CallsByName`: functions may
be registered under other names. `Expr.Printable` asks for both of a node.
-/

namespace Spreadsheet

/-- A cell of a sheet is one of a larger sheet. -/
theorem Coord.Within.mono {cell : Coord} {nRows nCols nRows' nCols' : Int}
    (h : cell.Within nRows nCols) (hrows : nRows ≤ nRows') (hcols : nCols ≤ nCols') :
    cell.Within nRows' nCols' :=
  ⟨⟨h.1.1, Int.lt_of_lt_of_le h.1.2 hrows⟩, h.2.1, Int.lt_of_lt_of_le h.2.2 hcols⟩

namespace Expr

/-- A reference lies on a sheet of the size, its corners in order and its letters of the case. -/
def Placed (nRows nCols : Int) (lowercase : Bool) : Expr → Prop
  | .cell target small => target.Within nRows nCols ∧ small = lowercase
  | .range top left bottom right small =>
    (0 ≤ top ∧ top ≤ bottom ∧ bottom < nRows) ∧ (0 ≤ left ∧ left ≤ right ∧ right < nCols) ∧
      small = lowercase
  | .columns first last small => (0 ≤ first ∧ first ≤ last ∧ last < nCols) ∧ small = lowercase
  | _ => True

/-- A reference on a sheet is one on a larger sheet. -/
theorem Placed.mono {ref : Expr} {nRows nCols nRows' nCols' : Int} {lowercase : Bool}
    (h : ref.Placed nRows nCols lowercase) (hrows : nRows ≤ nRows') (hcols : nCols ≤ nCols') :
    ref.Placed nRows' nCols' lowercase := by
  cases ref with
  | cell target small => exact ⟨h.1.mono hrows hcols, h.2⟩
  | range top left bottom right small =>
    obtain ⟨⟨htop, hheight, hbottom⟩, ⟨hleft, hwidth, hright⟩, hsmall⟩ := h
    exact ⟨⟨htop, hheight, Int.lt_of_lt_of_le hbottom hrows⟩,
      ⟨hleft, hwidth, Int.lt_of_lt_of_le hright hcols⟩, hsmall⟩
  | columns first last small =>
    obtain ⟨⟨hfirst, hwidth, hlast⟩, hsmall⟩ := h
    exact ⟨⟨hfirst, hwidth, Int.lt_of_lt_of_le hlast hcols⟩, hsmall⟩
  | _ => trivial

/-- The operator is one of the grammar, the call is of a registered function that takes that many
arguments, and the number is the one that its spelling is of. -/
def Written (functions : Registry) : Expr → Prop
  | .number value spelling =>
    ∃ n : Numeral, n.Formed ∧ spelling = String.ofList n.spelling ∧ value = n.toDecimal.toBinary64
  | .unary op _ => op = .minus
  | .binary op _ _ => ∀ symbol, op ≠ .unknown symbol
  | .call name args =>
    ∃ function, functions.find? name = some function ∧ function.arity.accepts args.length
  | _ => True

/-- A call is by a name as the tokens have them. -/
def Named : Expr → Prop
  | .call name _ => Lexeme.IsWord name
  | _ => True

/-- All nodes of the formula can be written, and its references lie on the sheet, in one case. -/
def WellFormed (g : Grammar) (e : Expr) : Prop :=
  ∃ lowercase, ∀ node ∈ e.nodes, node.Placed g.nRows g.nCols lowercase ∧ node.Written g.functions

/-- All calls in the formula are by names as the tokens have them. -/
def CallsByName (e : Expr) : Prop := ∀ node ∈ e.nodes, node.Named

/-- What is asked of a node of a formula that can be printed and read. -/
structure Printable (g : Grammar) (lowercase : Bool) (node : Expr) : Prop where
  placed : node.Placed g.nRows g.nCols lowercase
  written : node.Written g.functions
  named : node.Named

variable {g g' : Grammar} {lowercase : Bool} {e : Expr}

theorem wellFormed_and_callsByName_iff :
    e.WellFormed g ∧ e.CallsByName ↔ ∃ lowercase, e.Throughout (Printable g lowercase) := by
  constructor
  · rintro ⟨⟨lowercase, h⟩, hnamed⟩
    exact ⟨lowercase, fun node hnode => ⟨(h node hnode).1, (h node hnode).2, hnamed node hnode⟩⟩
  · rintro ⟨lowercase, h⟩
    exact ⟨⟨lowercase, fun node hnode => ⟨(h node hnode).placed, (h node hnode).written⟩⟩,
      fun node hnode => (h node hnode).named⟩

theorem printable_of_isReference (h : e.isReference)
    (hplaced : e.Placed g.nRows g.nCols lowercase) : e.Throughout (Printable g lowercase) := by
  refine (throughout_of_isReference h).2 ⟨hplaced, ?_, ?_⟩ <;>
    cases e <;> trivial

theorem printable_deletedReference : Expr.deletedReference.Throughout (Printable g lowercase) :=
  (throughout_of_nodes rfl).2 ⟨trivial, trivial, trivial⟩

/-- A node that is no reference can be printed on a sheet of any size. -/
theorem Printable.of_sameRoot (hfunctions : g'.functions = g.functions) {node node' : Expr}
    (hroot : SameRoot node node') (h : node.Printable g lowercase) :
    node'.Printable g' lowercase := by
  obtain ⟨hplaced, hwritten, hnamed⟩ := h
  rw [← hfunctions] at hwritten
  cases hroot with
  | call name hlength =>
    rw [Written] at hwritten
    exact ⟨trivial, by rwa [Written, ← hlength], hnamed⟩
  | _ => exact ⟨trivial, hwritten, hnamed⟩

end Expr

/-! ## Formulas that are read -/

namespace Grammar

open Spreadsheet.Expr

variable {g : Grammar} {case : Text.LetterCase} {words : List Lexeme} {e : Expr}

theorem IsColumn.nonneg {letters : List Char} {col : Int} (h : g.IsColumn case letters col) :
    0 ≤ col :=
  h.value ▸ Int.natCast_nonneg _

theorem IsCell.within {name : String} {cell : Coord} (h : g.IsCell case name cell) :
    cell.Within g.nRows g.nCols := by
  obtain ⟨letters, digits, -, hcol, hrow⟩ := h
  exact ⟨hrow.within, hcol.nonneg, hcol.within⟩

theorem placed_rangeBetween {a b : Coord} (ha : a.Within g.nRows g.nCols)
    (hb : b.Within g.nRows g.nCols) :
    (rangeBetween case a b).Placed g.nRows g.nCols case.isLower := by
  obtain ⟨harow, hacol⟩ := ha
  obtain ⟨hbrow, hbcol⟩ := hb
  refine ⟨?_, ?_, rfl⟩ <;> omega

theorem Refers.printable (h : g.Refers case words e) :
    e.Throughout (Printable g case.isLower) := by
  cases h with
  | cell h => exact printable_of_isReference rfl ⟨h.within, rfl⟩
  | range ha hb => exact printable_of_isReference rfl (placed_rangeBetween ha.within hb.within)
  | rangeToRow ha hrow =>
    exact printable_of_isReference rfl
      (placed_rangeBetween ha.within ⟨hrow.within, ha.within.2⟩)
  | column h => exact printable_of_isReference rfl ⟨⟨h.nonneg, Int.le_refl _, h.within⟩, rfl⟩
  | columns ha hb =>
    have hfirst := ha.nonneg
    have hlast := hb.nonneg
    have ha := ha.within
    have hb := hb.within
    refine printable_of_isReference rfl ⟨?_, rfl⟩
    omega

theorem numberOf_spelling {n : Numeral} (hn : n.Formed) :
    numberOf (String.ofList n.spelling) = n.toDecimal.toBinary64 := by
  have hends : Numeral.Ends [] := nofun
  have hscan := Numeral.scan_spelling hn hends
  rw [List.append_nil] at hscan
  rw [numberOf, String.toList_ofList, Numeral.read?, hscan]
  rfl

theorem written_number {spelling : String} (h : Lexeme.IsNumeral spelling) (functions : Registry) :
    (Expr.number (numberOf spelling) spelling).Written functions := by
  obtain ⟨n, hn, rfl⟩ := h
  exact ⟨n, hn, rfl, numberOf_spelling hn⟩

theorem mem_listed {arguments : List (List Lexeme × Expr)} {argument : List Lexeme × Expr}
    (h : argument ∈ arguments) {word : Lexeme} (hword : word ∈ argument.1) :
    word ∈ listed arguments := by
  induction arguments with
  | nil => cases h
  | cons first others ih =>
    cases others with
    | nil =>
      rw [listed_singleton, ← List.mem_singleton.1 h]
      exact hword
    | cons next others =>
      rw [listed_cons_cons]
      rcases List.mem_cons.1 h with rfl | h
      · exact List.mem_append_left _ hword
      · exact List.mem_append_right _ (List.mem_cons_of_mem _ (ih h))

/-- What formed words spell can be printed. -/
theorem Derives.printable {phrase : Phrase} (h : g.Derives case phrase words e)
    (hformed : ∀ word ∈ words, word.Formed) : e.Throughout (Printable g case.isLower) := by
  induction h with
  | ofSum _ ih | ofProduct _ ih | ofSigned _ ih | ofPart _ ih => exact ih hformed
  | compare _ _ _ ihLeft ihRight | add _ _ ihLeft ihRight | subtract _ _ ihLeft ihRight
  | multiply _ _ ihLeft ihRight | divide _ _ ihLeft ihRight =>
    obtain ⟨hbefore, hafter⟩ := List.forall_mem_append.1 hformed
    exact throughout_binary.2 ⟨⟨trivial, nofun, trivial⟩, ihLeft hbefore,
      ihRight (List.forall_mem_cons.1 hafter).2⟩
  | minus _ ih =>
    exact throughout_unary.2 ⟨⟨trivial, rfl, trivial⟩, ih (List.forall_mem_cons.1 hformed).2⟩
  | number spelling =>
    have hnumeral : Lexeme.IsNumeral spelling := hformed _ List.mem_cons_self
    exact (throughout_of_nodes rfl).2 ⟨trivial, written_number hnumeral _, trivial⟩
  | string content => exact (throughout_of_nodes rfl).2 ⟨trivial, trivial, trivial⟩
  | deletedReference spelling => exact printable_deletedReference
  | parenthesized _ ih =>
    exact ih fun word hword => hformed word (by simp [hword])
  | @call name function arguments hfind haccepts _ ih =>
    obtain ⟨hname, hformed⟩ := List.forall_mem_cons.1 hformed
    rw [← List.length_map Prod.snd] at haccepts
    refine throughout_call.2 ⟨⟨trivial, ⟨function, hfind, haccepts⟩, hname⟩, ?_⟩
    refine List.forall_mem_map.2 fun argument hargument => ih argument hargument ?_
    exact fun word hword => hformed word (by simp [mem_listed hargument hword])
  | reference h => exact h.printable

theorem exists_printable_of_parse {text : String} (h : g.parse text = .ok e) :
    ∃ lowercase, e.Throughout (Printable g lowercase) := by
  obtain ⟨tokens, htokens, case, words, hwords, hderives⟩ := spells_of_parse h
  obtain ⟨others, hothers, hformed⟩ := words_of_tokensFrom htokens
  rw [hothers] at hwords
  rw [List.append_cancel_right hwords] at hformed
  exact ⟨case.isLower, hderives.printable fun word hword => (hformed word hword).1⟩

end Grammar

/-! ## Formulas that are written anew -/

namespace LineEdit

/-- How many lines there are after the edit, of so many before. -/
def count : LineEdit → Int → Int
  | .insert _ _, lines => lines + 1
  | .delete _ _, lines => lines - 1

/-- A line that is to be deleted is one of so many. -/
def Within (edit : LineEdit) (lines : Int) : Prop :=
  match edit with
  | .insert _ _ => True
  | .delete _ index => 0 ≤ index ∧ index < lines

variable {edit : LineEdit} {lines : Int}

theorem line?_within (h : edit.Within lines) {line moved : Int} (hline : 0 ≤ line ∧ line < lines)
    (hmoved : edit.line? line = some moved) : 0 ≤ moved ∧ moved < edit.count lines := by
  cases edit with
  | insert axis index =>
    cases hmoved
    rw [lineAfterInsert, count]
    split <;> omega
  | delete axis index =>
    obtain ⟨hfirst, hlast⟩ := h
    simp only [line?, lineAfterDelete?, count] at hmoved ⊢
    split at hmoved <;> cases hmoved
    split <;> omega

theorem span?_within (h : edit.Within lines) {first last newFirst newLast : Int}
    (hspan : 0 ≤ first ∧ first ≤ last ∧ last < lines)
    (hmoved : edit.span? first last = some (newFirst, newLast)) :
    0 ≤ newFirst ∧ newFirst ≤ newLast ∧ newLast < edit.count lines := by
  cases edit with
  | insert axis index =>
    cases hmoved
    simp only [lineAfterInsert, count]
    split <;> split <;> omega
  | delete axis index =>
    obtain ⟨hfirst, hlast⟩ := h
    simp only [span?, spanAfterDelete?, count] at hmoved ⊢
    split at hmoved <;> cases hmoved
    split <;> split <;> omega

/-- Lines that stay where they are need no new text. -/
theorem getD_adjustSpan? (first last : Int) (rebuild : Int → Int → Expr) :
    (edit.adjustSpan? first last rebuild).getD (rebuild first last) =
      ((edit.span? first last).map fun (first, last) => rebuild first last).getD
        .deletedReference := by
  rw [adjustSpan?]
  cases edit.span? first last with
  | none => rfl
  | some span =>
    obtain ⟨newFirst, newLast⟩ := span
    by_cases hsame : newFirst = first ∧ newLast = last
    · simp [hsame]
    · simp [hsame]

/-- A cell whose row stays where it is needs no new text. -/
theorem getD_reference?_row (haxis : edit.axis = .row) (target : Coord) (lowercase : Bool) :
    (edit.reference? (.cell target lowercase)).getD (.cell target lowercase) =
      ((edit.line? target.row).map fun row => Expr.cell ⟨row, target.col⟩ lowercase).getD
        .deletedReference := by
  simp only [reference?, haxis]
  cases edit.line? target.row with
  | none => rfl
  | some moved =>
    by_cases hsame : moved = target.row
    · simp [hsame]
    · simp [hsame]

/-- A cell whose column stays where it is needs no new text. -/
theorem getD_reference?_column (haxis : edit.axis = .column) (target : Coord) (lowercase : Bool) :
    (edit.reference? (.cell target lowercase)).getD (.cell target lowercase) =
      ((edit.line? target.col).map fun col => Expr.cell ⟨target.row, col⟩ lowercase).getD
        .deletedReference := by
  simp only [reference?, haxis]
  cases edit.line? target.col with
  | none => rfl
  | some moved =>
    by_cases hsame : moved = target.col
    · simp [hsame]
    · simp [hsame]

end LineEdit

namespace Grammar

/-- The grammar of the sheet after the edit. -/
def after (g : Grammar) (edit : LineEdit) : Grammar :=
  match edit.axis with
  | .row => { g with nRows := edit.count g.nRows }
  | .column => { g with nCols := edit.count g.nCols }

/-- A line that is to be deleted is one of the sheet. -/
def Allows (g : Grammar) (edit : LineEdit) : Prop :=
  match edit.axis with
  | .row => edit.Within g.nRows
  | .column => edit.Within g.nCols

@[simp] theorem functions_after (g : Grammar) (edit : LineEdit) :
    (g.after edit).functions = g.functions := by
  rw [after]
  split <;> rfl

end Grammar

namespace Expr

variable {g : Grammar} {lowercase : Bool} {e : Expr}

/-- A line that is left after the edit is that of a reference, if `rebuild` makes one. -/
theorem printable_line? {edit : LineEdit} {lines : Int} (hedit : edit.Within lines) {line : Int}
    (hline : 0 ≤ line ∧ line < lines) {rebuild : Int → Expr}
    (hreference : ∀ line, (rebuild line).isReference)
    (hrebuild : ∀ line, 0 ≤ line ∧ line < edit.count lines →
      (rebuild line).Placed g.nRows g.nCols lowercase) :
    (((edit.line? line).map rebuild).getD .deletedReference).Throughout
      (Printable g lowercase) := by
  cases hmoved : edit.line? line with
  | none => exact printable_deletedReference
  | some moved =>
    exact printable_of_isReference (hreference _)
      (hrebuild _ (LineEdit.line?_within hedit hline hmoved))

/-- Lines of which some are left after the edit are those of a reference, if `rebuild` makes one. -/
theorem printable_adjustSpan? {edit : LineEdit} {lines : Int} (hedit : edit.Within lines)
    {first last : Int} (hspan : 0 ≤ first ∧ first ≤ last ∧ last < lines)
    {rebuild : Int → Int → Expr} (hreference : ∀ first last, (rebuild first last).isReference)
    (hrebuild : ∀ first last, 0 ≤ first ∧ first ≤ last ∧ last < edit.count lines →
      (rebuild first last).Placed g.nRows g.nCols lowercase) :
    ((edit.adjustSpan? first last rebuild).getD (rebuild first last)).Throughout
      (Printable g lowercase) := by
  rw [LineEdit.getD_adjustSpan?]
  cases hmoved : edit.span? first last with
  | none => exact printable_deletedReference
  | some span =>
    exact printable_of_isReference (hreference _ _)
      (hrebuild _ _ (LineEdit.span?_within hedit hspan hmoved))

theorem printable_reference? {edit : LineEdit} (hedit : g.Allows edit) {ref : Expr}
    (href : ref.isReference) (h : ref.Placed g.nRows g.nCols lowercase) :
    ((edit.reference? ref).getD ref).Throughout (Printable (g.after edit) lowercase) := by
  cases haxis : edit.axis with
  | row =>
    simp only [Grammar.Allows, haxis] at hedit
    simp only [Grammar.after, haxis]
    cases ref with
    | cell target small =>
      obtain ⟨⟨hrow, hcol⟩, rfl⟩ := h
      rw [LineEdit.getD_reference?_row haxis]
      exact printable_line? hedit hrow (fun _ => rfl) fun _ hmoved => ⟨⟨hmoved, hcol⟩, rfl⟩
    | range top left bottom right small =>
      obtain ⟨hrows, hcols, rfl⟩ := h
      simp only [LineEdit.reference?, haxis]
      exact printable_adjustSpan? hedit hrows (fun _ _ => rfl) fun _ _ hmoved =>
        ⟨hmoved, hcols, rfl⟩
    | columns first last small =>
      simp only [LineEdit.reference?, haxis]
      exact printable_of_isReference rfl h
    | _ => cases href
  | column =>
    simp only [Grammar.Allows, haxis] at hedit
    simp only [Grammar.after, haxis]
    cases ref with
    | cell target small =>
      obtain ⟨⟨hrow, hcol⟩, rfl⟩ := h
      rw [LineEdit.getD_reference?_column haxis]
      exact printable_line? hedit hcol (fun _ => rfl) fun _ hmoved => ⟨⟨hrow, hmoved⟩, rfl⟩
    | range top left bottom right small =>
      obtain ⟨hrows, hcols, rfl⟩ := h
      simp only [LineEdit.reference?, haxis]
      exact printable_adjustSpan? hedit hcols (fun _ _ => rfl) fun _ _ hmoved =>
        ⟨hrows, hmoved, rfl⟩
    | columns first last small =>
      obtain ⟨hcols, rfl⟩ := h
      simp only [LineEdit.reference?, haxis]
      exact printable_adjustSpan? hedit hcols (fun _ _ => rfl) fun _ _ hmoved => ⟨hmoved, rfl⟩
    | _ => cases href

/-- A formula can be printed after a row or column comes or goes, written anew or not. -/
theorem printable_afterEdit {edit : LineEdit} (hedit : g.Allows edit)
    (h : e.Throughout (Printable g lowercase)) :
    ((e.afterEdit? edit).getD e).Throughout (Printable (g.after edit) lowercase) := by
  exact h.replaceReferences (fun ref href hp => printable_reference? hedit href hp.placed)
    fun node node' hroot hp => hp.of_sameRoot (g.functions_after edit) hroot

theorem lineAt?_eq_some {line offset count moved : Int}
    (h : lineAt? line offset count = some moved) :
    moved = line + offset ∧ 0 ≤ moved ∧ moved < count := by
  rw [lineAt?] at h
  split at h
  · next hwithin =>
    cases h
    exact ⟨rfl, hwithin⟩
  · cases h

theorem printable_shiftReference {ref : Expr} (href : ref.isReference)
    (h : ref.Placed g.nRows g.nCols lowercase) (rows cols : Int) :
    (shiftReference rows cols g.nRows g.nCols ref).Throughout (Printable g lowercase) := by
  cases ref with
  | cell target small =>
    obtain ⟨-, rfl⟩ := h
    simp only [shiftReference]
    split
    · next row col hrow hcol =>
      exact printable_of_isReference rfl
        ⟨⟨(lineAt?_eq_some hrow).2, (lineAt?_eq_some hcol).2⟩, rfl⟩
    · exact printable_deletedReference
  | range top left bottom right small =>
    obtain ⟨hrows, hcols, rfl⟩ := h
    simp only [shiftReference]
    split
    · next newTop newBottom newLeft newRight htop hbottom hleft hright =>
      have htop := lineAt?_eq_some htop
      have hbottom := lineAt?_eq_some hbottom
      have hleft := lineAt?_eq_some hleft
      have hright := lineAt?_eq_some hright
      refine printable_of_isReference rfl ⟨?_, ?_, rfl⟩ <;> omega
    · exact printable_deletedReference
  | columns first last small =>
    obtain ⟨hcols, rfl⟩ := h
    simp only [shiftReference]
    split
    · next newFirst newLast hfirst hlast =>
      have hfirst := lineAt?_eq_some hfirst
      have hlast := lineAt?_eq_some hlast
      refine printable_of_isReference rfl ⟨?_, rfl⟩
      omega
    · exact printable_deletedReference
  | _ => cases href

/-- A formula can be printed after its references are moved, written anew or not. -/
theorem printable_shifted (h : e.Throughout (Printable g lowercase)) (rows cols : Int) :
    ((e.shifted? rows cols g.nRows g.nCols).getD e).Throughout (Printable g lowercase) := by
  rw [shifted?]
  split
  · exact h
  · exact h.replaceReferences
      (fun ref href hp => printable_shiftReference href hp.placed rows cols)
      fun node node' hroot hp => hp.of_sameRoot rfl hroot

end Expr

end Spreadsheet
