import Mathlib
import Spreadsheet.Files.Load
import Spreadsheet.Proofs.Session.Steps

/-!
# What a session keeps

Lines are given to a session one after the other, and each finds the session as the line before has
left it, which may have failed (`Session.History.ofLines`). What one line keeps (`Kept.next`) holds
after any lines: the cursor is on the sheet, and the path is the one of the last save since the
sheet was replaced (`Session.lastSaved`). So a line that fails leaves the session as it was
(`Session.History.ofLines_spec`).

The files are those of any medium, and each line finds files of its own: whether a sheet can be
saved to a path, what that does to the files and how it fails is up to the medium.
-/

namespace Spreadsheet

open Sheet

/-! ## Commands that edit the sheet -/

/-- The edit of the sheet that a command makes, if it makes one. -/
def Command.edit? (cursor : Coord) : Command → Option Edit
  | .setColumnWidth width => some (.setColumnWidth cursor.col width)
  | .sort column => some (.sort column false)
  | .fit column => some (.fitColumnWidth column)
  | .fix rows => some (.fixRows rows)
  | .resize columns rows => some (.resize columns rows)
  | _ => none

theorem mapError_eq_ok {α ε ε' : Type} {f : ε → ε'} {x : Except ε α} {a : α} :
    x.mapError f = .ok a ↔ x = .ok a := by
  cases x <;> simp [Except.mapError]

namespace Session

variable {F ε : Type} [Medium F ε] {s t : Session} {files : F} {command : Command}
  {edit : Edit} {report : String}

/-- A command that edits the sheet makes the edit and nothing else. -/
theorem exists_run_of_execute (hedit : command.edit? s.cursor = some edit)
    (hrun : (s.execute files command).2 = .ok (t, report)) :
    (∃ r, edit.run s.sheet = .ok (t.sheet, r)) ∧ t.cursor = s.cursor ∧ t.path = s.path := by
  cases command with
  | setColumnWidth | sort | fit | fix | resize =>
    cases hedit
    obtain ⟨made, hmade, heq⟩ := bind_eq_ok.1 hrun
    cases heq
    exact ⟨⟨_, congrArg (Except.map _) (mapError_eq_ok.1 hmade)⟩, rfl, rfl⟩
  | help | new | save | find => cases hedit

/-- No command makes the sheet smaller by an edit. -/
theorem size_le_of_run {sheet sheet' : Sheet} {cursor : Coord} {r : Option Recalc}
    (hs : sheet.Rectangular) (hedit : command.edit? cursor = some edit)
    (hrun : edit.run sheet = .ok (sheet', r)) :
    sheet.nRows ≤ sheet'.nRows ∧ sheet.nCols ≤ sheet'.nCols := by
  have hrelabelled (htexts : edit.entersTexts = false) (hkept : edit.restructures = false) :
      sheet.nRows ≤ sheet'.nRows ∧ sheet.nCols ≤ sheet'.nCols := by
    obtain ⟨-, columns, fixedRows, hcolumns, rfl⟩ := Edit.relabelled_of_run htexts hkept hrun
    exact ⟨le_rfl, hcolumns.ge⟩
  have hrebuilt {base : Sheet} (hbase : base.Rectangular) (hmade : sheet' = base.rebuild.1) :
      sheet'.nRows = base.nRows ∧ sheet'.nCols = base.nCols := by
    rw [hmade]
    exact ⟨(rebuild_spec hbase).1.sameSize.nRows, (rebuild_spec hbase).1.sameSize.nCols⟩
  cases command with
  | setColumnWidth | fit | fix =>
    cases hedit
    exact hrelabelled rfl rfl
  | sort column =>
    cases hedit
    obtain ⟨made, hmade, heq⟩ := map_eq_ok.1 hrun
    cases heq
    obtain ⟨index, -, hsorted⟩ := bind_eq_ok.1 hmade
    have hbase : (sheet.sorted index false).Rectangular := fun row hrow =>
      hs row (mem_of_mem_sorted hrow)
    obtain ⟨hrows, hcols⟩ := hrebuilt hbase (congrArg Prod.fst (Except.ok.inj hsorted)).symm
    exact ⟨(hrows.trans (nRows_sorted ..)).ge, hcols.ge⟩
  | resize columns rows =>
    cases hedit
    obtain ⟨made, hmade, heq⟩ := map_eq_ok.1 hrun
    cases heq
    by_cases hsize : (columns : Int) < sheet.nCols ∨ (rows : Int) < sheet.nRows
    · rw [Sheet.resize, if_pos hsize] at hmade
      cases hmade
    · have hsize : (sheet.nCols : Int) ≤ columns ∧ (sheet.nRows : Int) ≤ rows := by omega
      obtain ⟨hregrown, -, hnCols, hnRows⟩ := extended_spec hs hsize
      have heq := Except.ok.inj ((resize_spec hsize).symm.trans hmade)
      obtain ⟨hrows, hcols⟩ := hrebuilt hregrown.rectangular (congrArg Prod.fst heq).symm
      omega
  | help | new | save | find => cases hedit

/-! ## What a command keeps -/

/-- The sheet is one that edits make, and the cursor is on it. -/
structure Sane (s : Session) : Prop where
  reachable : Reachable .builtin s.sheet
  cursor : s.cursor.Within s.sheet.nRows s.sheet.nCols

/-- The path of the last save since the last `new`, of commands of which the last comes first. -/
def lastSaved : List Command → Option Path
  | [] => none
  | .save path :: _ => some path
  | .new :: _ => none
  | _ :: done => lastSaved done

theorem sane_start (options : Options) : (start options).Sane where
  reachable := .make (make_unnamed 5 5 options .builtin)
  cursor := by
    refine ⟨⟨le_rfl, ?_⟩, le_rfl, ?_⟩
    · exact Int.ofNat_lt.2 (by simp [start, blank, nRows])
    · exact Int.ofNat_lt.2 (by simp [start, blank, nCols])

theorem lastSaved_of_edit? {cursor : Coord} (hedit : command.edit? cursor = some edit)
    (done : List Command) : lastSaved (command :: done) = lastSaved done := by
  cases command <;> first | rfl | cases hedit

/-- A command keeps the cursor on the sheet, and the path is the one of the last save. -/
theorem Sane.execute (h : s.Sane) (hrun : (s.execute files command).2 = .ok (t, report))
    {done : List Command} (hpath : s.path = lastSaved done) :
    t.Sane ∧ t.path = lastSaved (command :: done) := by
  cases hedit : command.edit? s.cursor with
  | some edit =>
    obtain ⟨⟨r, hsheet⟩, hcursor, hsame⟩ := exists_run_of_execute hedit hrun
    obtain ⟨hrows, hcols⟩ := size_le_of_run (h.reachable.inStep.1.rectangular) hedit hsheet
    refine ⟨⟨.edit edit h.reachable hsheet, ?_⟩, ?_⟩
    · rw [hcursor]
      exact h.cursor.mono (Int.ofNat_le.2 hrows) (Int.ofNat_le.2 hcols)
    · rw [hsame, hpath, lastSaved_of_edit? hedit]
  | none =>
    cases command with
    | help =>
      cases hrun
      exact ⟨h, hpath⟩
    | new =>
      cases hrun
      exact ⟨sane_start s.sheet.options, rfl⟩
    | save path =>
      rw [Session.execute, save] at hrun
      cases hsave : Medium.saveSheet files s.sheet path.text .standard with
      | mk files' result =>
        rw [hsave] at hrun
        cases result with
        | ok =>
          cases hrun
          exact ⟨⟨h.reachable, h.cursor⟩, rfl⟩
        | error fault => cases hrun
    | find text =>
      obtain ⟨found, hfound, hrun⟩ := bind_eq_ok.1 hrun
      cases found with
      | none =>
        cases hrun
        exact ⟨h, hpath⟩
      | some cell =>
        cases hrun
        exact ⟨⟨h.reachable, Steps.within_of_find? (mapError_eq_ok.1 hfound)⟩, hpath⟩
    | _ => cases hedit

theorem Sane.does_ofLine (h : s.Sane) (files : F) (line : String) :
    (Steps.ofLine line).Does s files (s.run files line) :=
  Steps.does_ofLine (h.reachable.consistent Registry.lawful_builtin).1.sound h.reachable.inStep.1
    h.cursor.2.1 files line

/-! ## Lines one after the other -/

/-- A session after some lines, with the commands that were carried out, the last of them first. -/
structure History where
  session : Session
  done : List Command

namespace History

/-- No line was given yet. -/
def start (options : Options) : History := ⟨Session.start options, []⟩

/-- One more line, and the files that there are when it is given. A line that fails leaves the
session as it was written up to then. -/
def next (h : History) (files : F) (line : String) : History :=
  match (Steps.ofLine line).run (h.session, files) with
  | .ok _ state => ⟨state.1, (Command.parse? line).toOption.join.toList ++ h.done⟩
  | .error _ state => ⟨state.1, h.done⟩

/-- The lines are given one after the other, the first of them first. -/
def ofLines (options : Options) (lines : List (F × String)) : History :=
  lines.foldl (fun h line => h.next line.1 line.2) (start options)

/-- The session is sane, and its path is the one of the last save. -/
structure Kept (h : History) : Prop where
  sane : h.session.Sane
  path : h.session.path = lastSaved h.done

variable {h : History}

/-- One more line keeps the cursor on the sheet and the path that of the last save. -/
theorem Kept.next (hkept : h.Kept) (files : F) (line : String) : (h.next files line).Kept := by
  cases hrun : (Steps.ofLine line).run (h.session, files) with
  | error fault state =>
    have hsame := (hkept.sane.does_ofLine files line).eq_of_error hrun
    have hnext : h.next files line = h := by simp only [History.next, hrun, hsame]
    rwa [hnext]
  | ok report state =>
    have hmade := congrArg Prod.snd ((hkept.sane.does_ofLine files line).eq_of_ok hrun)
    cases hparse : Command.parse? line with
    | error fault =>
      rw [Session.run, hparse] at hmade
      cases hmade
    | ok command? =>
      have hnext : h.next files line = ⟨state.1, command?.toList ++ h.done⟩ := by
        simp only [History.next, hrun, hparse]
        rfl
      rw [hnext]
      rw [Session.run, hparse] at hmade
      cases command? with
      | none =>
        have hsame : state.1 = h.session := (congrArg Prod.fst (Except.ok.inj hmade)).symm
        rw [hsame]
        exact hkept
      | some command =>
        obtain ⟨hsane, hpath⟩ := hkept.sane.execute hmade hkept.path
        exact ⟨hsane, hpath⟩

/-- By induction on the lines, each of which keeps what the session has. -/
theorem kept_ofLines (options : Options) (lines : List (F × String)) :
    (ofLines options lines).Kept := by
  refine List.foldlRecOn (motive := History.Kept) lines
    (fun (h : History) (line : F × String) => h.next line.1 line.2) ⟨sane_start options, rfl⟩ ?_
  exact fun _ hkept line _ => hkept.next line.1 line.2

/-- After any lines on any medium, whether they failed or not, the cursor is on the sheet and the
path is the one of the last save since the sheet was replaced. The next line does what the session
says of it, and if it fails, it leaves the sheet, the cursor and the path as they were. -/
theorem ofLines_spec (options : Options) (lines : List (F × String)) :
    let h := ofLines options lines
    h.session.cursor.Within h.session.sheet.nRows h.session.sheet.nCols ∧
    h.session.path = lastSaved h.done ∧
    ∀ (files : F) (line : String),
      (Steps.ofLine line).Does h.session files (h.session.run files line) ∧
      ∀ (fault : LineFault ε) (state : Session × F),
        (Steps.ofLine line).run (h.session, files) = .error fault state → state.1 = h.session := by
  intro h
  have hkept : h.Kept := kept_ofLines options lines
  refine ⟨hkept.sane.cursor, hkept.path, fun files line => ?_⟩
  have hdoes := hkept.sane.does_ofLine files line
  exact ⟨hdoes, fun _ _ hrun => hdoes.eq_of_error hrun⟩

/-- A sheet is saved to a path that starts at the root, and then not to one in a directory that is
missing. -/
theorem ofLines_spec_absolute :
    let h := ofLines .standard
      [(Files.empty, "save /tmp/out.csv"), (Files.empty, "save /missing/out.csv")]
    h.session.path = some (.ofText "/tmp/out.csv") ∧
    h.session.cursor.Within h.session.sheet.nRows h.session.sheet.nCols ∧
    ((start .standard).session.run Files.empty "save /tmp/out.csv").1.readText
      "/tmp/out.csv" .utf8 = .ok (String.join (List.replicate 5 ",,,,\n")) := by
  intro h
  have hdone : h.done = [.save (.ofText "/tmp/out.csv")] := by decide +kernel
  obtain ⟨hcursor, hpath, -⟩ := ofLines_spec .standard
    [(Files.empty, "save /tmp/out.csv"), (Files.empty, "save /missing/out.csv")]
  exact ⟨hpath.trans (congrArg lastSaved hdone), hcursor, by decide +kernel⟩

end History

end Session

end Spreadsheet
