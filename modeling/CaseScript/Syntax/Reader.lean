import CaseScript.Syntax.Expected

/-!
# Readers of script text

A reader takes something off the front of a script or fails.  A failure remembers what was left of
the script where the reader stopped, and which tokens would have been accepted there.  When several
readers are tried on the same text and all fail, the failure that got furthest counts, and failures
at the same place pool their tokens (`Failure.furthest`).

`Reader.Shrinks` says that a reader leaves a strictly shorter text behind; every loop over a script
ends because of it.
-/

namespace CaseScript.Syntax

/-- Where a reader stopped, and what it would have accepted there. -/
structure Failure where
  rest : List Char
  expected : List Expected
  deriving DecidableEq, Repr

/-- Of two failures on the same text the one with less text left; at the same place both. -/
def Failure.furthest (a b : Failure) : Failure :=
  if a.rest.length < b.rest.length then a
  else if b.rest.length < a.rest.length then b
  else ⟨a.rest, a.expected ++ b.expected⟩

/-- A reader takes a value off the front of a text. -/
abbrev Reader (α : Type) := StateT (List Char) (Except Failure) α

namespace Reader

variable {α β : Type}

/-- Fail in front of the given text. -/
def failAt (rest : List Char) (expected : List Expected) : Except Failure α :=
  .error ⟨rest, expected⟩

/-- The first of the readers that succeeds; otherwise the furthest of their failures. -/
def firstOf : List (Reader α) → Reader α
  | [], text => failAt text []
  | reader :: readers, text =>
    match reader text with
    | .ok result => .ok result
    | .error failure =>
      match firstOf readers text with
      | .ok result => .ok result
      | .error other => .error (failure.furthest other)

/-- The value of the reader, or nothing where it fails. -/
def optional (reader : Reader α) : Reader (Option α) := fun text =>
  match reader text with
  | .ok (value, rest) => .ok (some value, rest)
  | .error _ => .ok (none, text)

/-- What the reader leaves is no longer than what it was given. -/
def Bounded (reader : Reader α) : Prop :=
  ∀ text value rest, reader text = .ok (value, rest) → rest.length ≤ text.length

/-- What the reader leaves is shorter than what it was given. -/
def Shrinks (reader : Reader α) : Prop :=
  ∀ text value rest, reader text = .ok (value, rest) → rest.length < text.length

theorem Shrinks.bounded {reader : Reader α} (h : Shrinks reader) : Bounded reader :=
  fun text value rest run => Nat.le_of_lt (h text value rest run)

theorem bind_eq_ok {reader : Reader α} {next : α → Reader β} {text : List Char} {result} :
    (reader >>= next) text = .ok result ↔
      ∃ value rest, reader text = .ok (value, rest) ∧ next value rest = .ok result := by
  change (reader text >>= fun step => next step.1 step.2) = _ ↔ _
  cases reader text with
  | error failure => simp [bind, Except.bind]
  | ok step => exact ⟨fun h => ⟨step.1, step.2, rfl, h⟩, by rintro ⟨_, _, h, h'⟩; cases h; exact h'⟩

theorem pure_eq_ok {value : α} {text : List Char} {result} :
    (pure value : Reader α) text = .ok result ↔ result = (value, text) := by
  change Except.ok (value, text) = _ ↔ _
  exact ⟨fun h => by cases h; rfl, fun h => by rw [h]⟩

theorem optional_eq_some {reader : Reader α} {text rest : List Char} {value : α} :
    optional reader text = .ok (some value, rest) ↔ reader text = .ok (value, rest) := by
  unfold optional
  cases reader text with
  | error failure => simp
  | ok result => simp [Prod.ext_iff]

theorem optional_eq_none {reader : Reader α} {text rest : List Char} :
    optional reader text = .ok (none, rest) ↔ rest = text ∧ ∀ result, reader text ≠ .ok result := by
  unfold optional
  cases reader text with
  | error failure => simp [eq_comm]
  | ok result => simp

theorem exists_of_firstOf {readers : List (Reader α)} {text : List Char} {result}
    (h : firstOf readers text = .ok result) : ∃ reader ∈ readers, reader text = .ok result := by
  induction readers with
  | nil => cases h
  | cons reader readers ih =>
    unfold firstOf at h
    split at h
    · rename_i found hfound
      cases h
      exact ⟨reader, by simp, hfound⟩
    · split at h
      · rename_i found hfound
        cases h
        obtain ⟨other, hmem, hother⟩ := ih hfound
        exact ⟨other, by simp [hmem], hother⟩
      · cases h

/-- Where all readers that succeed agree, their order does not matter. -/
theorem firstOf_eq_ok {readers : List (Reader α)} {text : List Char} {result}
    {reader : Reader α} (hmem : reader ∈ readers) (h : reader text = .ok result)
    (hagree : ∀ other ∈ readers, ∀ found, other text = .ok found → found = result) :
    firstOf readers text = .ok result := by
  induction readers with
  | nil => cases hmem
  | cons first readers ih =>
    unfold firstOf
    cases hfirst : first text with
    | ok found => rw [hagree first (by simp) found hfirst]
    | error failure =>
      have hmem : reader ∈ readers := by
        rcases List.mem_cons.1 hmem with rfl | hmem
        · rw [h] at hfirst
          cases hfirst
        · exact hmem
      simp only [ih hmem fun other ho => hagree other (by simp [ho])]

theorem bounded_pure (value : α) : Bounded (pure value : Reader α) := by
  intro text value rest h
  cases pure_eq_ok.1 h
  exact Nat.le_refl _

theorem Bounded.bind {reader : Reader α} {next : α → Reader β} (h : Bounded reader)
    (hn : ∀ value, Bounded (next value)) : Bounded (reader >>= next) := by
  intro text value rest run
  obtain ⟨a, middle, h₁, h₂⟩ := bind_eq_ok.1 run
  exact Nat.le_trans (hn a _ _ _ h₂) (h _ _ _ h₁)

theorem Shrinks.bind {reader : Reader α} {next : α → Reader β} (h : Shrinks reader)
    (hn : ∀ value, Bounded (next value)) : Shrinks (reader >>= next) := by
  intro text value rest run
  obtain ⟨a, middle, h₁, h₂⟩ := bind_eq_ok.1 run
  exact Nat.lt_of_le_of_lt (hn a _ _ _ h₂) (h _ _ _ h₁)

theorem bounded_optional {reader : Reader α} (h : Bounded reader) :
    Bounded (optional reader) := by
  intro text value rest run
  unfold optional at run
  split at run
  · cases run
    exact h _ _ _ (by assumption)
  · cases run
    exact Nat.le_refl _

theorem shrinks_firstOf {readers : List (Reader α)} (h : ∀ reader ∈ readers, Shrinks reader) :
    Shrinks (firstOf readers) := by
  induction readers with
  | nil => intro _ _ _ run; cases run
  | cons reader readers ih =>
    intro text value rest run
    unfold firstOf at run
    split at run
    · cases run
      exact h reader (by simp) _ _ _ (by assumption)
    · split at run
      · cases run
        exact ih (fun r hr => h r (by simp [hr])) _ _ _ (by assumption)
      · cases run

end Reader

end CaseScript.Syntax
