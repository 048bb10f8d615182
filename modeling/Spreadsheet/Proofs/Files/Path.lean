import Spreadsheet.Files.Path
import Spreadsheet.Proofs.Text.Trimmed

/-!
# Paths and their texts

A path that was read is in normal form (`Path.normal_ofText`), and the text of such a path spells it
(`Path.Normal.ofText_text`). That text is the one that was read with characters left out
(`Path.text_ofText_sublist`), so that it spells the path no longer if white space at its ends is
taken off (`Path.Normal.ofText_stripped_iff`).
-/

namespace Spreadsheet

/-! ## Texts put together of pieces -/

namespace Text

variable {separator : Char} {glue piece cs : List Char} {pieces others : List (List Char)}

theorem joinWith_cons_of_ne_nil (hne : pieces ≠ []) (glue piece : List Char) :
    joinWith glue (piece :: pieces) = piece ++ (glue ++ joinWith glue pieces) := by
  obtain ⟨next, pieces, rfl⟩ := List.exists_cons_of_ne_nil hne
  rw [joinWith, List.append_assoc]
  exact List.cons_ne_nil _ _

/-- Pieces without the separator are the pieces of the text that is put together of them. -/
theorem cutAt_joinWith (hne : pieces ≠ []) (h : ∀ piece ∈ pieces, separator ∉ piece) :
    cutAt separator (joinWith [separator] pieces) = pieces := by
  induction pieces with
  | nil => exact absurd rfl hne
  | cons piece pieces ih =>
    obtain ⟨hpiece, hpieces⟩ := List.forall_mem_cons.1 h
    by_cases hlast : pieces = []
    · rw [hlast, joinWith, cutAt_of_not_mem hpiece]
    · rw [joinWith_cons_of_ne_nil hlast, List.singleton_append, cutAt_append_cons hpiece,
        ih hlast hpieces]

theorem joinWith_cons_sublist (h : (joinWith glue others).Sublist cs) (piece : List Char) :
    (joinWith glue (piece :: others)).Sublist (piece ++ (glue ++ cs)) := by
  by_cases hothers : others = []
  · rw [hothers]
    exact List.sublist_append_left _ _
  · rw [joinWith_cons_of_ne_nil hothers]
    exact (h.append_left glue).append_left piece

/-- Where some of the pieces are left out, the text loses characters. -/
theorem joinWith_filter_sublist (glue : List Char) (keep : List Char → Bool)
    (pieces : List (List Char)) :
    (joinWith glue (pieces.filter keep)).Sublist (joinWith glue pieces) := by
  induction pieces with
  | nil => exact List.Sublist.refl _
  | cons piece pieces ih =>
    by_cases hlast : pieces = []
    · rw [hlast]
      by_cases hkeep : keep piece
      · rw [List.filter_cons_of_pos hkeep]
        exact List.Sublist.refl _
      · rw [List.filter_cons_of_neg hkeep]
        exact List.nil_sublist _
    · rw [joinWith_cons_of_ne_nil hlast]
      by_cases hkeep : keep piece
      · rw [List.filter_cons_of_pos hkeep]
        exact joinWith_cons_sublist ih piece
      · rw [List.filter_cons_of_neg hkeep]
        exact ih.trans ((List.sublist_append_right glue _).trans (List.sublist_append_right _ _))

theorem strip_sublist (cs : List Char) : (strip cs).Sublist cs := by
  obtain ⟨front, back, -, -, hcs⟩ := exists_append_strip cs
  have hinner := (List.sublist_append_right front _).trans
    (List.sublist_append_left (front ++ strip cs) back)
  rwa [← hcs] at hinner

end Text

namespace Path

variable {p : Path} {cs slashes : List Char} {text : String}

/-! ## Parts of a text -/

/-- The names between the slashes of a text. -/
def namesOf (cs : List Char) : List (List Char) :=
  (Text.cutAt '/' cs).filter fun part => part != [] && part != ['.']

theorem ofText_eq (text : String) : ofText text = ⟨rootOf text.toList, namesOf text.toList⟩ := rfl

theorem mem_namesOf {part : List Char} (h : part ∈ namesOf cs) :
    part ≠ [] ∧ part ≠ ['.'] ∧ '/' ∉ part := by
  obtain ⟨hpiece, hkept⟩ := List.mem_filter.1 h
  rw [Bool.and_eq_true_iff, bne_iff_ne, bne_iff_ne] at hkept
  refine ⟨hkept.1, hkept.2, fun hslash => ?_⟩
  have hcut := Text.eq_false_of_mem_cutWhere hpiece _ hslash
  rw [beq_self_eq_true] at hcut
  cases hcut

/-- Slashes in front of a text add no names. -/
theorem namesOf_append (h : ∀ c ∈ slashes, c = '/') (cs : List Char) :
    namesOf (slashes ++ cs) = namesOf cs := by
  induction slashes with
  | nil => rfl
  | cons c slashes ih =>
    obtain ⟨rfl, hslashes⟩ := List.forall_mem_cons.1 h
    have hcut : Text.cutAt '/' ('/' :: (slashes ++ cs)) = [] :: Text.cutAt '/' (slashes ++ cs) :=
      Text.cutAt_append_cons List.not_mem_nil _
    rw [← ih hslashes, List.cons_append, namesOf, hcut]
    rfl

theorem forall_mem_slashes (cs : List Char) : ∀ c ∈ cs.takeWhile (· == '/'), c = '/' := fun c hc =>
  beq_iff_eq.1 (List.all_eq_true.1 (List.all_takeWhile (p := (· == '/')) (l := cs)) c hc)

theorem namesOf_dropWhile (cs : List Char) : namesOf (cs.dropWhile (· == '/')) = namesOf cs := by
  rw [← namesOf_append (forall_mem_slashes cs), List.takeWhile_append_dropWhile]

theorem rootOf_sublist (cs : List Char) : (rootOf cs).Sublist (cs.takeWhile (· == '/')) := by
  have hall := forall_mem_slashes cs
  unfold rootOf
  split
  · exact List.nil_sublist _
  · next htwo => exact htwo ▸ List.Sublist.refl _
  · next hne _ =>
    obtain ⟨c, slashes, hslashes⟩ := List.exists_cons_of_ne_nil hne
    rw [hslashes] at hall ⊢
    rw [hall c List.mem_cons_self]
    exact (List.nil_sublist slashes).cons_cons '/'

/-! ## Normal form -/

/-- The path starts with as many slashes as a path can, and none of its parts is empty or a dot. -/
structure Normal (p : Path) : Prop where
  root : p.root = [] ∨ p.root = ['/'] ∨ p.root = ['/', '/']
  parts : ∀ part ∈ p.parts, part ≠ [] ∧ part ≠ ['.'] ∧ '/' ∉ part

theorem normal_ofText (text : String) : (ofText text).Normal where
  root := by
    rw [ofText_eq, rootOf]
    split <;> simp
  parts := fun _ hpart => mem_namesOf hpart

theorem toList_text (h : p ≠ ⟨[], []⟩) :
    p.text.toList = p.root ++ Text.joinWith ['/'] p.parts := by
  obtain ⟨root, parts⟩ := p
  have hne : ¬ (root.isEmpty && parts.isEmpty) := by
    rw [Bool.and_eq_true_iff, List.isEmpty_iff, List.isEmpty_iff]
    rintro ⟨rfl, rfl⟩
    exact h rfl
  rw [text, if_neg hne, String.toList_ofList]

theorem Normal.forall_head? (h : p.Normal) :
    ∀ c ∈ (Text.joinWith ['/'] p.parts).head?, c ≠ '/' := by
  cases hparts : p.parts with
  | nil => simp [Text.joinWith]
  | cons part parts =>
    obtain ⟨hne, -, hslash⟩ := h.parts part (hparts ▸ List.mem_cons_self)
    obtain ⟨first, part, rfl⟩ := List.exists_cons_of_ne_nil hne
    have hhead : (Text.joinWith ['/'] ((first :: part) :: parts)).head? = some first := by
      by_cases hlast : parts = []
      · rw [hlast]
        rfl
      · rw [Text.joinWith_cons_of_ne_nil hlast]
        rfl
    rw [hhead]
    rintro _ ⟨⟩ rfl
    exact hslash List.mem_cons_self

theorem Normal.rootOf_append (h : p.Normal) (hcs : ∀ c ∈ cs.head?, c ≠ '/') :
    rootOf (p.root ++ cs) = p.root := by
  have hstop : cs.takeWhile (· == '/') = [] := by
    cases cs with
    | nil => rfl
    | cons c cs => rw [List.takeWhile_cons, beq_false_of_ne (hcs c rfl), if_neg Bool.false_ne_true]
  have hslashes : ∀ c ∈ p.root, (c == '/') = true := by
    rcases h.root with hroot | hroot | hroot <;> simp [hroot]
  rw [rootOf, List.takeWhile_append_of_pos hslashes, hstop, List.append_nil]
  rcases h.root with hroot | hroot | hroot <;> rw [hroot] <;> rfl

theorem Normal.namesOf_joinWith (h : p.Normal) :
    namesOf (Text.joinWith ['/'] p.parts) = p.parts := by
  by_cases hparts : p.parts = []
  · rw [hparts]
    rfl
  · rw [namesOf, Text.cutAt_joinWith hparts fun part hpart => (h.parts part hpart).2.2,
      List.filter_eq_self]
    intro part hpart
    rw [Bool.and_eq_true_iff, bne_iff_ne, bne_iff_ne]
    exact ⟨(h.parts part hpart).1, (h.parts part hpart).2.1⟩

/-- A path in normal form is read from its text. -/
theorem Normal.ofText_text (h : p.Normal) : ofText p.text = p := by
  by_cases hempty : p = ⟨[], []⟩
  · rw [hempty]
    decide
  · have hslashes : ∀ c ∈ p.root, c = '/' := by
      rcases h.root with hroot | hroot | hroot <;> simp [hroot]
    rw [ofText_eq, toList_text hempty, h.rootOf_append h.forall_head?, namesOf_append hslashes,
      h.namesOf_joinWith]

theorem Normal.text_ne_empty (h : p.Normal) : p.text ≠ "" := by
  intro hempty
  have hpath := h.ofText_text
  rw [hempty] at hpath
  rw [← hpath] at hempty
  exact absurd hempty (by decide)

/-! ## White space at the ends -/

/-- The text of a path that was read is what was read without some of its characters. -/
theorem text_ofText_sublist (h : ofText text ≠ ⟨[], []⟩) :
    (ofText text).text.toList.Sublist text.toList := by
  have hsplit := List.takeWhile_append_dropWhile (p := (· == '/')) (l := text.toList)
  have hparts := Text.joinWith_filter_sublist ['/'] (fun part => part != [] && part != ['.'])
    (Text.cutAt '/' (text.toList.dropWhile (· == '/')))
  rw [Text.joinWith_cutAt] at hparts
  have htext := (rootOf_sublist text.toList).append hparts
  rw [hsplit] at htext
  rw [toList_text h, ofText_eq, ← namesOf_dropWhile]
  exact htext

/-- Without white space at its ends, the text of a path spells it only if there was none. -/
theorem Normal.ofText_stripped_iff (h : p.Normal) :
    ofText (Text.stripped p.text) = p ↔ Text.stripped p.text = p.text := by
  refine ⟨fun heq => ?_, fun heq => by rw [heq, h.ofText_text]⟩
  by_cases hempty : p = ⟨[], []⟩
  · rw [hempty]
    decide
  · have hsublist := text_ofText_sublist (heq ▸ hempty)
    rw [heq, Text.stripped, String.toList_ofList] at hsublist
    have hsame := (Text.strip_sublist p.text.toList).eq_of_length_le hsublist.length_le
    rw [Text.stripped, hsame, String.ofList_toList]

end Path

end Spreadsheet
