import CaseScript.Proofs.Glob

/-!
# Patterns as regular expressions

A pattern is handed to a library of regular expressions.  This file shows that the expression that
`Glob.regex` writes describes the same texts as the pattern, so that a library that keeps to its
documentation accepts just these.

There are five groups.

* Expressions.  `Regex.FoundIn` says where an expression is found: its parts fit one after the other
  from some place on.
* Reading.  `ofString_regex`: of a pattern all parts are read as they were meant, since every sign
  among its characters is escaped.
* Finding.  `foundIn_parts_iff`: between the start and the end of the text the parts fit the texts
  that can be cut into pieces.
* Libraries.  `RegexLibrary.Documented` is what a library promises, and `documented_patternsOnly`
  that the library for the expressions of patterns keeps the promise.
* Matchers.  `accepts_like_iff_cutsAlong` is the result.
-/

namespace CaseScript

/-! ## Expressions -/

/-- The part stands for this part of a text, between what is before it and behind it. -/
def RegexPart.Allows : RegexPart → List Char → List Char → List Char → Prop
  | start, before, part, _ => before = [] ∧ part = []
  | stop, _, part, after => part = [] ∧ after = []
  | one lineBreaks, _, part, _ => part.length = 1 ∧ ('\n' ∈ part → lineBreaks = true)
  | run lineBreaks, _, part, _ => '\n' ∈ part → lineBreaks = true
  | exactly c, _, part, _ => part = [c]

instance : (asked : RegexPart) → (before part after : List Char) →
    Decidable (asked.Allows before part after)
  | .start, before, part, _ => inferInstanceAs (Decidable (before = [] ∧ part = []))
  | .stop, _, part, after => inferInstanceAs (Decidable (part = [] ∧ after = []))
  | .one lineBreaks, _, part, _ =>
    inferInstanceAs (Decidable (part.length = 1 ∧ ('\n' ∈ part → lineBreaks = true)))
  | .run lineBreaks, _, part, _ => inferInstanceAs (Decidable ('\n' ∈ part → lineBreaks = true))
  | .exactly c, _, part, _ => inferInstanceAs (Decidable (part = [c]))

namespace Regex

/-- Behind a text, the parts stand for the next parts of a text.  More may follow. -/
def Fits : Regex → List Char → List Char → Prop
  | [], _, _ => True
  | asked :: others, before, text =>
    ∃ length ≤ text.length, asked.Allows before (text.take length) (text.drop length) ∧
      Fits others (before ++ text.take length) (text.drop length)

instance decidableFits : (regex : Regex) → (before text : List Char) →
    Decidable (regex.Fits before text)
  | [], _, _ => inferInstanceAs (Decidable True)
  | asked :: others, before, text =>
    have := decidableFits others
    inferInstanceAs (Decidable (∃ length ≤ text.length,
      asked.Allows before (text.take length) (text.drop length) ∧
        Fits others (before ++ text.take length) (text.drop length)))

/-- The expression is found somewhere in the text. -/
def FoundIn (regex : Regex) (text : List Char) : Prop :=
  ∃ length ≤ text.length, regex.Fits (text.take length) (text.drop length)

instance (regex : Regex) (text : List Char) : Decidable (regex.FoundIn text) :=
  inferInstanceAs (Decidable (∃ length ≤ text.length,
    regex.Fits (text.take length) (text.drop length)))

/-- A run stops at a line break that is not let through. -/
example : FoundIn [.start, .run true, .stop] ['a', '\n'] ∧
    ¬ FoundIn [.start, .run false, .stop] ['a', '\n'] := by
  decide

end Regex

/-- What is meant by the text of a piece. -/
def GlobPiece.asked : GlobPiece → RegexPart
  | run => .run true
  | one => .one true
  | exactly c => .exactly c

/-! ## Reading -/

namespace Regex

variable {lineBreaks : Bool} {rest : List Char}

theorem partsOf_one (h : rest.head? ≠ some '*') :
    partsOf lineBreaks ('.' :: rest) = (partsOf lineBreaks rest).map (.one lineBreaks :: ·) := by
  rw [partsOf]
  rintro rest rfl
  exact h rfl

theorem partsOf_escape (c : Char) :
    partsOf lineBreaks (escape c ++ rest) = (partsOf lineBreaks rest).map (.exactly c :: ·) := by
  unfold escape
  split
  · rename_i hc
    rw [List.cons_append, List.cons_append, List.nil_append, partsOf, if_pos hc]
  · rename_i hc
    have hne : ∀ sign ∈ signs, c ≠ sign := fun sign hsign heq => hc (heq ▸ hsign)
    rw [List.cons_append, List.nil_append, partsOf, if_neg hc]
    · exact hne '^' (by decide)
    · exact hne '$' (by decide)
    · exact fun _ hdot => absurd hdot (hne '.' (by decide))
    · exact hne '.' (by decide)
    · exact fun _ _ hslash => absurd hslash (hne '\\' (by decide))

/-- No piece is written with a star in front. -/
theorem head?_pieces (glob : Glob) :
    (glob.flatMap GlobPiece.regex ++ ['$']).head? ≠ some '*' := by
  cases glob with
  | nil => decide
  | cons piece glob =>
    cases piece with
    | run | one => exact fun h => absurd (Option.some.inj h) (by decide)
    | exactly c =>
      rw [List.flatMap_cons, GlobPiece.regex, escape]
      split
      · exact fun h => absurd (Option.some.inj h) (by decide)
      · rename_i hc
        intro h
        obtain rfl : c = '*' := Option.some.inj h
        exact hc (by decide)

theorem partsOf_pieces (glob : Glob) :
    partsOf true (glob.flatMap GlobPiece.regex ++ ['$']) =
      some (glob.map GlobPiece.asked ++ [.stop]) := by
  induction glob with
  | nil => rfl
  | cons piece glob ih =>
    rw [List.flatMap_cons, List.append_assoc]
    cases piece with
    | run =>
      rw [GlobPiece.regex, List.cons_append, List.cons_append, List.nil_append, partsOf, ih]
      rfl
    | one =>
      rw [GlobPiece.regex, List.cons_append, List.nil_append, partsOf_one (head?_pieces glob), ih]
      rfl
    | exactly c =>
      rw [GlobPiece.regex, partsOf_escape, ih]
      rfl

/-- The expression of a pattern asks for the start, for its pieces and for the end. -/
theorem ofString_regex (glob : Glob) :
    ofString glob.regex = some (.start :: (glob.map GlobPiece.asked ++ [.stop])) := by
  have hflag : ofString glob.regex =
      partsOf true ('^' :: (glob.flatMap GlobPiece.regex ++ ['$'])) := by
    rw [ofString, Glob.regex, String.toList_ofList]
    rfl
  rw [hflag, partsOf, partsOf_pieces]
  rfl

/-! ## Finding -/

variable {before text : List Char} {asked : RegexPart} {others : Regex}

theorem fits_cons_iff :
    Fits (asked :: others) before text ↔ ∃ part rest, text = part ++ rest ∧
      asked.Allows before part rest ∧ Fits others (before ++ part) rest := by
  constructor
  · intro h
    rcases h with ⟨length, -, hasked, hothers⟩
    exact ⟨_, _, (List.take_append_drop length text).symm, hasked, hothers⟩
  · intro h
    rcases h with ⟨part, rest, rfl, hasked, hothers⟩
    refine ⟨part.length, by simp, ?_⟩
    rw [List.take_left, List.drop_left]
    exact ⟨hasked, hothers⟩

theorem foundIn_start_iff : FoundIn (.start :: others) text ↔ Fits others [] text := by
  constructor
  · intro h
    rcases h with ⟨length, -, hfits⟩
    obtain ⟨part, rest, hrest, ⟨hnil, rfl⟩, hothers⟩ := fits_cons_iff.1 hfits
    have htext := List.take_append_drop length text
    rw [hnil, hrest] at htext
    obtain rfl : rest = text := htext
    rwa [hnil] at hothers
  · intro h
    exact ⟨0, Nat.zero_le _, fits_cons_iff.2 ⟨[], text, rfl, ⟨rfl, rfl⟩, h⟩⟩

theorem allows_asked_iff {piece : GlobPiece} {part after : List Char} :
    piece.asked.Allows before part after ↔ piece.Allows part := by
  cases piece with
  | run => exact iff_true_intro fun _ => rfl
  | one => exact (and_iff_left fun _ => rfl).trans List.length_eq_one_iff
  | exactly c => exact Iff.rfl

/-- The pieces and the end fit what can be cut into the pieces, whatever stands before it. -/
theorem fits_pieces_iff {glob : Glob} :
    Fits (glob.map GlobPiece.asked ++ [.stop]) before text ↔ Glob.CutsInto text glob := by
  induction glob generalizing before text with
  | nil =>
    rw [List.map_nil, List.nil_append, fits_cons_iff, Glob.cutsInto_nil_iff]
    constructor
    · intro h
      rcases h with ⟨part, rest, rfl, ⟨rfl, rfl⟩, -⟩
      rfl
    · rintro rfl
      exact ⟨[], [], rfl, ⟨rfl, rfl⟩, trivial⟩
  | cons piece glob ih =>
    rw [List.map_cons, List.cons_append, fits_cons_iff, Glob.cutsInto_cons_iff]
    simp only [allows_asked_iff, ih]

theorem foundIn_parts_iff {glob : Glob} :
    FoundIn (.start :: (glob.map GlobPiece.asked ++ [.stop])) text ↔ Glob.CutsInto text glob :=
  foundIn_start_iff.trans fits_pieces_iff

end Regex

/-! ## Libraries -/

/-- What a library promises: the test that it gives for an expression finds it where its parts
fit. -/
structure RegexLibrary.Documented (library : RegexLibrary) : Prop where
  isMatch_iff : ∀ {source : String} {regex : Regex} {isMatch : String → Bool},
    Regex.ofString source = some regex → library.compile source = .ok isMatch →
      ∀ text, isMatch text = true ↔ regex.FoundIn text.toList

theorem RegexPart.piece?_eq_some_iff {part : RegexPart} {piece : GlobPiece} :
    part.piece? = some piece ↔ part = piece.asked := by
  cases part with
  | start | stop => cases piece <;> simp [piece?, GlobPiece.asked]
  | one lineBreaks | run lineBreaks =>
    cases lineBreaks <;> cases piece <;> simp [piece?, GlobPiece.asked]
  | exactly c => cases piece <;> simp [piece?, GlobPiece.asked]

/-- Parts are taken back to the pattern that they were written for. -/
theorem Regex.pieces?_eq_some_iff {parts : Regex} {glob : Glob} :
    pieces? parts = some glob ↔ parts = glob.map GlobPiece.asked ++ [.stop] := by
  fun_induction pieces? parts generalizing glob with
  | case1 => simp
  | case2 =>
    cases glob with
    | nil => simp
    | cons piece glob => cases piece <;> simp [GlobPiece.asked]
  | case3 part parts hlast ih =>
    cases glob with
    | nil => simpa [Option.bind_eq_some_iff] using hlast
    | cons piece glob => simp [Option.bind_eq_some_iff, RegexPart.piece?_eq_some_iff, ih]

theorem Regex.glob?_eq_some_iff {regex : Regex} {glob : Glob} :
    regex.glob? = some glob ↔ regex = .start :: (glob.map GlobPiece.asked ++ [.stop]) := by
  unfold glob?
  split
  · rw [pieces?_eq_some_iff, List.cons.injEq, eq_self_iff_true, true_and]
  · rename_i hstart
    constructor
    · intro h
      cases h
    · rintro rfl
      exact absurd rfl (hstart _)

namespace RegexLibrary

/-- The library takes the expressions of patterns that are not too long. -/
theorem compile_patternsOnly {glob : Glob} (h : glob.regex.length ≤ 10000) :
    patternsOnly.compile glob.regex = .ok fun text => glob.describes text.toList := by
  simp only [compile]
  rw [if_neg (Nat.not_lt.2 h), Regex.ofString_regex, Option.bind_some,
    Regex.glob?_eq_some_iff.2 rfl]

theorem documented_patternsOnly : patternsOnly.Documented where
  isMatch_iff := by
    intro source regex isMatch hread hcompile text
    simp only [compile, hread, Option.bind_some] at hcompile
    split at hcompile
    · cases hcompile
    · split at hcompile
      · rename_i glob hglob
        cases hcompile
        rw [Regex.glob?_eq_some_iff.1 hglob, Regex.foundIn_parts_iff, Glob.describes_iff]
      · cases hcompile

end RegexLibrary

/-! ## Matchers -/

namespace Matcher

theorem ofValue_like_eq_ok_iff [library : RegexLibrary] {pattern : String} {matcher : Matcher} :
    ofValue .like pattern = .ok matcher ↔
      ∃ isMatch, library.compile (Glob.ofString pattern).regex = .ok isMatch ∧
        matcher = like isMatch := by
  rw [ofValue]
  cases library.compile (Glob.ofString pattern).regex with
  | ok isMatch => simp [eq_comm]
  | error reason => simp

/-- A pattern with wildcards accepts exactly the cells that can be cut into one part for each of its
characters: any part for `%` and `*`, any one character for `_` and `?`, the character itself for
all others.  So it is with every library that does what it promises, as the one for the expressions
of patterns does.  Without wildcards the comparison for equality accepts the same cells. -/
theorem accepts_like_iff_cutsAlong [library : RegexLibrary] (pattern : String) :
    (library.Documented →
      (∀ isMatch, library.compile (Glob.ofString pattern).regex = .ok isMatch →
        ∀ cell, isMatch cell = true ↔ CutsAlong pattern cell) ∧
      ∀ matcher, ofValue .like pattern = .ok matcher →
        ∀ cell, matcher.accepts cell = true ↔ CutsAlong pattern cell) ∧
    RegexLibrary.patternsOnly.Documented ∧
    ((∀ c ∈ pattern.toList, c ∉ ['%', '*', '_', '?']) →
      ∃ exact, ofValue .equal pattern = .ok exact ∧
        ∀ cell, exact.accepts cell = true ↔ CutsAlong pattern cell) := by
  refine ⟨fun hlibrary => ?_, RegexLibrary.documented_patternsOnly, fun hplain => ?_⟩
  · have hcompiled : ∀ isMatch, library.compile (Glob.ofString pattern).regex = .ok isMatch →
        ∀ cell, isMatch cell = true ↔ CutsAlong pattern cell := by
      intro isMatch hcompile cell
      rw [hlibrary.isMatch_iff (Regex.ofString_regex _) hcompile, Regex.foundIn_parts_iff,
        cutsAlong_iff]
    refine ⟨hcompiled, fun matcher hmatcher => ?_⟩
    obtain ⟨isMatch, hcompile, rfl⟩ := ofValue_like_eq_ok_iff.1 hmatcher
    exact hcompiled isMatch hcompile
  · refine ⟨equal pattern, rfl, fun cell => ?_⟩
    rw [cutsAlong_iff_eq hplain]
    exact beq_iff_eq

/-- Wildcards of each kind, one beside the other, and a cell with a line break and with characters
outside of the Latin alphabet.  A pattern of other signs is no more than a text. -/
theorem accepts_like_of_line_break :
    RegexLibrary.patternsOnly.Documented ∧
    (Glob.ofString "%_b*.?").regex = "(?s)^.*.b.*\\..$" ∧
    (∃ matcher, ofValue .like "%_b*.?" = .ok matcher ∧ matcher.accepts "\nab\nb.Ω" = true ∧
      CutsAlong "%_b*.?" "\nab\nb.Ω") ∧
    (∀ c ∈ "[a.b]+$".toList, c ∉ ['%', '*', '_', '?']) ∧
    ∃ exact, ofValue .equal "[a.b]+$" = .ok exact ∧
      ∀ cell, exact.accepts cell = true ↔ CutsAlong "[a.b]+$" cell := by
  have hregex : (Glob.ofString "%_b*.?").regex = "(?s)^.*.b.*\\..$" := by decide +kernel
  have hlength : (Glob.ofString "%_b*.?").regex.length ≤ 10000 := by decide +kernel
  have hcompile := RegexLibrary.compile_patternsOnly hlength
  have hmatcher := ofValue_like_eq_ok_iff.2 ⟨_, hcompile, rfl⟩
  have hcell : (Glob.ofString "%_b*.?").describes "\nab\nb.Ω".toList = true := by decide +kernel
  have hplain : ∀ c ∈ "[a.b]+$".toList, c ∉ ['%', '*', '_', '?'] := by simp
  rcases accepts_like_iff_cutsAlong "%_b*.?" with ⟨hlike, hdocumented, -⟩
  have hcuts := ((hlike hdocumented).2 _ hmatcher _).1 hcell
  exact ⟨hdocumented, hregex, ⟨_, hmatcher, hcell, hcuts⟩, hplain,
    (accepts_like_iff_cutsAlong _).2.2 hplain⟩

end Matcher

end CaseScript
