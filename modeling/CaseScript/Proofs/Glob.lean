import CaseScript.Table.Filter
import Mathlib.Data.List.Forall2
import Mathlib.Data.List.Infix

/-!
# What a pattern describes

A pattern describes the texts that can be cut into one part for each of its characters.  This file
shows that the marks over the suffixes of a text say just that.

There are three groups.

* Cuts.  `Glob.CutsInto` is the description: a text is cut into parts, and every piece of the
  pattern allows its part.  `cutsInto_run_iff`, `cutsInto_one_iff` and `cutsInto_exactly_iff` take
  off the first piece.
* Marks.  `Marks` says that a list holds the truth about every suffix of a text.  There is one lemma
  for each kind of piece, `marks_step` for one piece and `marks_fits` for a whole pattern.
* Characters.  `StandsFor` says the same as `GlobPiece.Allows` of the characters of a pattern, and
  `CutsAlong` the same as `Glob.CutsInto` of a pattern and a cell.
-/

namespace CaseScript

/-- The piece stands for this part of a text. -/
def GlobPiece.Allows : GlobPiece → List Char → Prop
  | run, _ => True
  | one, part => ∃ c, part = [c]
  | exactly c, part => part = [c]

/-- The character of a pattern stands for this part of a text. -/
inductive StandsFor : Char → List Char → Prop where
  | percent (part : List Char) : StandsFor '%' part
  | star (part : List Char) : StandsFor '*' part
  | underscore (c : Char) : StandsFor '_' [c]
  | question (c : Char) : StandsFor '?' [c]
  | itself {c : Char} : c ∉ ['%', '*', '_', '?'] → StandsFor c [c]

/-- The cell can be cut into one part for each character of the pattern. -/
def CutsAlong (pattern cell : String) : Prop :=
  ∃ parts, List.Forall₂ StandsFor pattern.toList parts ∧ parts.flatten = cell.toList

namespace Glob

variable {glob : Glob} {text : List Char} {marks : List Bool}

/-! ## Cuts -/

/-- The text can be cut into one part for each piece of the pattern. -/
def CutsInto (text : List Char) (glob : Glob) : Prop :=
  ∃ parts : List (List Char), List.Forall₂ GlobPiece.Allows glob parts ∧ parts.flatten = text

theorem cutsInto_nil_iff : CutsInto text [] ↔ text = [] := by
  constructor
  · intro h
    rcases h with ⟨parts, hparts, rfl⟩
    cases hparts
    rfl
  · intro h
    exact ⟨[], .nil, h.symm⟩

theorem cutsInto_cons_iff {piece : GlobPiece} :
    CutsInto text (piece :: glob) ↔
      ∃ part rest, text = part ++ rest ∧ piece.Allows part ∧ CutsInto rest glob := by
  constructor
  · intro h
    rcases h with ⟨parts, hparts, rfl⟩
    cases hparts with
    | cons hpart hparts => exact ⟨_, _, rfl, hpart, _, hparts, rfl⟩
  · intro h
    rcases h with ⟨part, _, rfl, hpart, parts, hparts, rfl⟩
    exact ⟨part :: parts, .cons hpart hparts, rfl⟩

theorem cutsInto_run_iff :
    CutsInto text (.run :: glob) ↔ ∃ rest, rest <:+ text ∧ CutsInto rest glob := by
  rw [cutsInto_cons_iff]
  constructor
  · intro h
    rcases h with ⟨part, rest, rfl, -, hrest⟩
    exact ⟨rest, List.suffix_append part rest, hrest⟩
  · intro h
    rcases h with ⟨rest, ⟨part, rfl⟩, hrest⟩
    exact ⟨part, rest, rfl, trivial, hrest⟩

theorem cutsInto_one_iff :
    CutsInto text (.one :: glob) ↔ ∃ c rest, text = c :: rest ∧ CutsInto rest glob := by
  rw [cutsInto_cons_iff]
  constructor
  · intro h
    rcases h with ⟨_, rest, rfl, ⟨c, rfl⟩, hrest⟩
    exact ⟨c, rest, rfl, hrest⟩
  · intro h
    rcases h with ⟨c, rest, rfl, hrest⟩
    exact ⟨[c], rest, rfl, ⟨c, rfl⟩, hrest⟩

theorem cutsInto_exactly_iff {c : Char} :
    CutsInto text (.exactly c :: glob) ↔ ∃ rest, text = c :: rest ∧ CutsInto rest glob := by
  rw [cutsInto_cons_iff]
  constructor
  · intro h
    rcases h with ⟨_, rest, rfl, rfl, hrest⟩
    exact ⟨rest, rfl, hrest⟩
  · intro h
    rcases h with ⟨rest, rfl, hrest⟩
    exact ⟨[c], rest, rfl, rfl, hrest⟩

/-! ## Marks -/

/-- For every suffix of the text, longest first, the mark says whether the suffix has the
property. -/
inductive Marks (property : List Char → Prop) : List Char → List Bool → Prop where
  | nil {mark : Bool} : (mark = true ↔ property []) → Marks property [] [mark]
  | cons {c : Char} {text : List Char} {mark : Bool} {marks : List Bool} :
    (mark = true ↔ property (c :: text)) → Marks property text marks →
      Marks property (c :: text) (mark :: marks)

variable {property : List Char → Prop}

/-- The first mark is the one of the whole text. -/
theorem Marks.exists_cons (h : Marks property text marks) :
    ∃ mark others, marks = mark :: others ∧ (mark = true ↔ property text) := by
  cases h with
  | nil hmark => exact ⟨_, [], rfl, hmark⟩
  | cons hmark _ => exact ⟨_, _, rfl, hmark⟩

theorem Marks.headD_iff (h : Marks property text marks) :
    marks.headD false = true ↔ property text := by
  obtain ⟨mark, others, rfl, hmark⟩ := h.exists_cons
  exact hmark

theorem Marks.anySuffix (h : Marks property text marks) :
    Marks (fun suffix => ∃ rest, rest <:+ suffix ∧ property rest) text (anySuffix marks) := by
  induction h with
  | nil hmark =>
    refine .nil ?_
    simp [Glob.anySuffix, hmark]
  | cons hmark _ ih =>
    refine .cons ?_ ih
    rw [Bool.or_eq_true, hmark, ih.headD_iff]
    simp only [List.suffix_cons_iff, or_and_right, exists_or, exists_eq_left]

/-- One character is taken off, so every mark moves up by one place. -/
theorem Marks.one (h : Marks property text marks) :
    Marks (fun suffix => ∃ c rest, suffix = c :: rest ∧ property rest) text
      (marks.tail ++ [false]) := by
  induction h with
  | nil _ => exact .nil (by simp)
  | @cons c text mark marks _ hrest ih =>
    obtain ⟨next, others, rfl, hnext⟩ := hrest.exists_cons
    exact .cons (by simp [hnext]) ih

theorem Marks.exactly (h : Marks property text marks) (c : Char) :
    Marks (fun suffix => ∃ rest, suffix = c :: rest ∧ property rest) text
      (List.zipWith (fun d mark => d == c && mark) text marks.tail ++ [false]) := by
  induction h with
  | nil _ => exact .nil (by simp)
  | @cons d text mark marks _ hrest ih =>
    obtain ⟨next, others, rfl, hnext⟩ := hrest.exists_cons
    exact .cons (by simp [hnext]) ih

/-- The marks of a pattern from those of what follows its first piece. -/
theorem marks_step (piece : GlobPiece) (h : Marks (CutsInto · glob) text marks) :
    Marks (CutsInto · (piece :: glob)) text (step text piece marks) := by
  cases piece with
  | run =>
    simp only [cutsInto_run_iff]
    exact h.anySuffix
  | one =>
    simp only [cutsInto_one_iff]
    exact h.one
  | exactly c =>
    simp only [cutsInto_exactly_iff]
    exact h.exactly c

/-- The pattern without pieces describes the empty suffix alone. -/
theorem marks_empty (text : List Char) :
    Marks (CutsInto · []) text (List.replicate text.length false ++ [true]) := by
  simp only [cutsInto_nil_iff]
  induction text with
  | nil => exact .nil (by simp)
  | cons c text ih => exact .cons (by simp) ih

theorem marks_fits (text : List Char) (glob : Glob) :
    Marks (CutsInto · glob) text (fits text glob) := by
  induction glob with
  | nil => exact marks_empty text
  | cons piece glob ih => exact marks_step piece ih

theorem describes_iff : glob.describes text = true ↔ CutsInto text glob :=
  (marks_fits text glob).headD_iff

end Glob

/-! ## Characters -/

theorem GlobPiece.allows_ofChar_iff {c : Char} {part : List Char} :
    (ofChar c).Allows part ↔ StandsFor c part := by
  constructor
  · intro h
    unfold ofChar at h
    split at h
    · rename_i hc
      simp only [Bool.or_eq_true, beq_iff_eq] at hc
      rcases hc with rfl | rfl
      · exact .percent part
      · exact .star part
    · rename_i hrun
      split at h
      · rename_i hc
        simp only [Bool.or_eq_true, beq_iff_eq] at hc
        obtain ⟨d, rfl⟩ := h
        rcases hc with rfl | rfl
        · exact .underscore d
        · exact .question d
      · rename_i hone
        obtain rfl : part = [c] := h
        refine .itself ?_
        simp_all
  · intro h
    cases h with
    | percent | star => trivial
    | underscore d | question d => exact ⟨d, rfl⟩
    | itself hc =>
      have hpiece : ofChar c = exactly c := by
        unfold ofChar
        simp_all
      rw [hpiece]
      rfl

theorem cutsAlong_iff {pattern cell : String} :
    CutsAlong pattern cell ↔ Glob.CutsInto cell.toList (Glob.ofString pattern) := by
  simp only [CutsAlong, Glob.CutsInto, Glob.ofString, List.forall₂_map_left_iff,
    GlobPiece.allows_ofChar_iff]

/-- Without wildcards there is one way to cut. -/
theorem forall₂_standsFor_iff {pattern : List Char} {parts : List (List Char)}
    (h : ∀ c ∈ pattern, c ∉ ['%', '*', '_', '?']) :
    List.Forall₂ StandsFor pattern parts ↔ parts = pattern.map fun c => [c] := by
  constructor
  · intro hparts
    induction hparts with
    | nil => rfl
    | cons hpart _ ih =>
      obtain ⟨hc, hrest⟩ := List.forall_mem_cons.1 h
      rw [List.map_cons, ih hrest]
      cases hpart with
      | itself => rfl
      | _ => exact absurd (by simp) hc
  · intro hparts
    subst hparts
    rw [List.forall₂_map_right_iff, List.forall₂_same]
    exact fun c hc => .itself (h c hc)

/-- Without wildcards the pattern is the only such cell. -/
theorem cutsAlong_iff_eq {pattern cell : String}
    (h : ∀ c ∈ pattern.toList, c ∉ ['%', '*', '_', '?']) :
    CutsAlong pattern cell ↔ cell = pattern := by
  simp only [CutsAlong, forall₂_standsFor_iff h, exists_eq_left, ← List.flatMap_def,
    List.flatMap_singleton', String.toList_inj]
  exact eq_comm

end CaseScript
