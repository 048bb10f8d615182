import Spreadsheet.Files.Basic
import Spreadsheet.Proofs.Formula.Reading
import Spreadsheet.Table

/-!
# What is written is read back

Writing a file puts it in one place of the tree, which is no directory (`Files.write_eq_ok`). Paths
that led somewhere lead there afterwards, too, since they pass directories alone
(`Files.locate_put`). So what is written to a path, from the root or from the working directory, is
read back from it (`Files.read_of_write`), and the files in other places hold what they held
(`Files.read_of_write_of_ne`).
-/

namespace Spreadsheet.Files

variable {files written : Files} {place other : Place} {content held : FileContent}
  {path path' : String} {name : List Char} {target target' : Target}

/-! ## Places -/

/-- A place that is no directory gets what is put there, and the others keep what they have. -/
theorem lookup?_put (h : files.lookup? place ≠ some .directory) (entry : FileEntry) :
    (files.put place entry).lookup? other =
      if other = place then some entry else files.lookup? other := by
  by_cases hother : other = place
  · have habove : place.isPrefixOf files.here = false :=
      Bool.eq_false_iff.2 fun hprefix => h (if_pos hprefix)
    subst hother
    simp [lookup?, put, habove]
  · rw [if_neg hother]
    simp only [lookup?, put, List.lookup_cons, beq_eq_false_iff_ne.2 hother, lookup_filter_ne,
      if_neg hother]

theorem find_eq_ok {found : Option FileEntry} : files.find place name = .ok found ↔
    byteSize name ≤ nameLimit ∧ files.lookup? (place ++ [name]) = found := by
  unfold find
  split
  · next hlong => simp [Nat.not_le.2 hlong]
  · next hshort => simp [Nat.not_lt.1 hshort]

/-! ## Paths -/

/-- A directory is entered that is there. -/
theorem enter_eq_ok_iff {next : Place} : files.enter place name = .ok next ↔
    if isHere name then next = place
    else if name = ['.', '.'] then next = place.dropLast
    else files.find place name = .ok (some .directory) ∧ next = place ++ [name] := by
  unfold enter
  split
  · simp [eq_comm]
  · split
    · simp [eq_comm]
    · cases hfind : files.find place name with
      | error fault => simp [bind, Except.bind]
      | ok found =>
        cases found with
        | none => simp [bind, Except.bind]
        | some entry => cases entry <;> simp [bind, Except.bind, pure, Except.pure, eq_comm]

theorem enter_put (h : files.lookup? place ≠ some .directory) (entry : FileEntry) {next : Place}
    (hnext : files.enter other name = .ok next) :
    (files.put place entry).enter other name = .ok next := by
  rw [enter_eq_ok_iff] at hnext ⊢
  split
  · next hhere => rwa [if_pos hhere] at hnext
  · next hhere =>
    rw [if_neg hhere] at hnext
    split
    · next hup => rwa [if_pos hup] at hnext
    · next hup =>
      rw [if_neg hup] at hnext
      obtain ⟨hshort, hdirectory⟩ := find_eq_ok.1 hnext.1
      have hne : other ++ [name] ≠ place := fun heq => h (heq ▸ hdirectory)
      refine ⟨find_eq_ok.2 ⟨hshort, ?_⟩, hnext.2⟩
      rw [lookup?_put h, if_neg hne, hdirectory]

/-- By induction on the names that are passed. -/
theorem foldlM_enter_put (h : files.lookup? place ≠ some .directory) (entry : FileEntry)
    {names : List (List Char)} {first last : Place}
    (hlast : names.foldlM files.enter first = .ok last) :
    names.foldlM (files.put place entry).enter first = .ok last := by
  induction names generalizing first with
  | nil => exact hlast
  | cons name names ih =>
    obtain ⟨next, hnext, hlast⟩ := bind_eq_ok.1 hlast
    exact bind_eq_ok.2 ⟨next, enter_put h entry hnext, ih hlast⟩

/-- A path leads where it did. -/
theorem locate_put (h : files.lookup? place ≠ some .directory) (entry : FileEntry)
    (htarget : files.locate path = .ok target) :
    (files.put place entry).locate path = .ok target := by
  obtain ⟨_, hcheck, htarget⟩ := bind_eq_ok.1 htarget
  obtain ⟨directory, hdirectory, htarget⟩ := bind_eq_ok.1 htarget
  exact bind_eq_ok.2 ⟨_, hcheck, bind_eq_ok.2 ⟨directory, foldlM_enter_put h entry hdirectory,
    htarget⟩⟩

/-! ## Files -/

/-- The path of the target is one of a file: it ends in a name that can be one. -/
def Target.NamesFile (target : Target) : Prop :=
  target.isDots = false ∧ target.slash = false ∧ byteSize target.name ≤ nameLimit

theorem read_eq_ok : files.read path = .ok content ↔ ∃ target, files.locate path = .ok target ∧
    target.NamesFile ∧ files.lookup? target.place = some (.file content) := by
  rw [read, bind_eq_ok]
  refine exists_congr fun target => and_congr_right fun _ => ?_
  cases hdots : target.isDots with
  | true => simp [Target.NamesFile, hdots]
  | false =>
    rw [if_neg Bool.false_ne_true, bind_eq_ok]
    simp only [find_eq_ok, Target.NamesFile, hdots, true_and, Target.place]
    constructor
    · rintro ⟨found, ⟨hshort, rfl⟩, hread⟩
      split at hread
      · cases hread
      · cases hread
      · next hheld =>
        cases hslash : target.slash with
        | true =>
          rw [hslash] at hread
          cases hread
        | false =>
          rw [hslash] at hread
          cases hread
          exact ⟨⟨rfl, hshort⟩, hheld⟩
    · rintro ⟨⟨hslash, hshort⟩, hheld⟩
      refine ⟨_, ⟨hshort, hheld⟩, ?_⟩
      simp only [hslash]
      rfl

theorem write_eq_ok : files.write path content = .ok written ↔ ∃ target,
    files.locate path = .ok target ∧ target.NamesFile ∧
      files.lookup? target.place ≠ some .directory ∧
      files.put target.place (.file content) = written := by
  rw [write, bind_eq_ok]
  refine exists_congr fun target => and_congr_right fun _ => ?_
  cases hnone : target.isDots || target.slash with
  | true =>
    rw [if_pos rfl]
    rcases Bool.or_eq_true_iff.1 hnone with h | h <;> simp [Target.NamesFile, h]
  | false =>
    obtain ⟨hdots, hslash⟩ := Bool.or_eq_false_iff.1 hnone
    rw [if_neg Bool.false_ne_true, bind_eq_ok]
    simp only [find_eq_ok, Target.NamesFile, hdots, hslash, true_and, Target.place]
    constructor
    · rintro ⟨found, ⟨hshort, rfl⟩, hwrite⟩
      split at hwrite
      · cases hwrite
      · next hplace => exact ⟨hshort, hplace, Except.ok.inj hwrite⟩
    · rintro ⟨hshort, hplace, rfl⟩
      refine ⟨_, ⟨hshort, rfl⟩, ?_⟩
      split
      · contradiction
      · rfl

/-- What is written to a path is read back from it. -/
theorem read_of_write (h : files.write path content = .ok written) :
    written.read path = .ok content := by
  obtain ⟨target, htarget, hnames, hplace, rfl⟩ := write_eq_ok.1 h
  refine read_eq_ok.2 ⟨target, locate_put hplace _ htarget, hnames, ?_⟩
  rw [lookup?_put hplace, if_pos rfl]

/-- A file in another place holds what it held. -/
theorem read_of_write_of_ne (h : files.write path content = .ok written)
    (hread : files.read path' = .ok held) (htarget : files.locate path = .ok target)
    (htarget' : files.locate path' = .ok target') (hne : target'.place ≠ target.place) :
    written.read path' = .ok held := by
  obtain ⟨_, hpath, -, hplace, rfl⟩ := write_eq_ok.1 h
  cases htarget.symm.trans hpath
  obtain ⟨_, hpath', hnames, hheld⟩ := read_eq_ok.1 hread
  cases htarget'.symm.trans hpath'
  refine read_eq_ok.2 ⟨target', locate_put hplace _ htarget', hnames, ?_⟩
  rw [lookup?_put hplace, if_neg hne, hheld]

end Spreadsheet.Files
