import CaseScript.Syntax.Token

/-!
# Balanced braces

`untilClosed` counts the braces that are open.  This file says the same without a counter:
`untilClosed_eq_some_iff` gives the text in front of the closing brace as the one in which no prefix
closes too many braces and which closes all that are open.

`Balanced` is the case of no open brace, and `Balanced.trim` says that trimming keeps it.
-/

namespace CaseScript.Syntax

open CaseScript.Text

/-- With `depth` braces open, every prefix of the text leaves some open or just closes them all, and
the text as a whole closes them all. -/
structure Closes (depth : Nat) (text : List Char) : Prop where
  ofPrefix : ∀ front, front <+: text → front.count '}' ≤ depth + front.count '{'
  total : text.count '}' = depth + text.count '{'

/-- As many braces are opened as closed, and no prefix closes more than it opens. -/
structure Balanced (text : List Char) : Prop where
  total : text.count '{' = text.count '}'
  ofPrefix : ∀ front, front <+: text → front.count '}' ≤ front.count '{'

theorem closes_zero_iff {text : List Char} : Closes 0 text ↔ Balanced text := by
  constructor
  · intro h
    rcases h with ⟨hp, ht⟩
    exact ⟨by omega, by simpa using hp⟩
  · intro h
    rcases h with ⟨ht, hp⟩
    exact ⟨by simpa using hp, by omega⟩

theorem closes_nil_iff {depth : Nat} : Closes depth [] ↔ depth = 0 := by
  constructor
  · intro h
    simpa using h.total.symm
  · intro h
    subst h
    exact ⟨by simp, rfl⟩

/-- A closing brace in front needs an open one. -/
theorem closes_close_iff {depth : Nat} {text : List Char} :
    Closes depth ('}' :: text) ↔ ∃ inner, depth = inner + 1 ∧ Closes inner text := by
  constructor
  · intro h
    rcases h with ⟨hp, ht⟩
    have hone := hp ['}'] (List.cons_prefix_cons.2 ⟨rfl, List.nil_prefix⟩)
    simp only [List.count_cons_self, List.count_nil, List.count_cons_of_ne (by decide : '}' ≠ '{')]
      at hone ht
    refine ⟨depth - 1, by omega, ?_, by omega⟩
    intro front hfront
    have := hp ('}' :: front) (List.cons_prefix_cons.2 ⟨rfl, hfront⟩)
    simp only [List.count_cons_self, List.count_cons_of_ne (by decide : '}' ≠ '{')] at this
    omega
  · intro h
    rcases h with ⟨inner, rfl, hp, ht⟩
    constructor
    · intro front hfront
      rcases List.prefix_cons_iff.1 hfront with rfl | ⟨rest, rfl, hrest⟩
      · simp
      · have := hp rest hrest
        simp only [List.count_cons_self, List.count_cons_of_ne (by decide : '}' ≠ '{')]
        omega
    · simp only [List.count_cons_self, List.count_cons_of_ne (by decide : '}' ≠ '{')]
      omega

/-- Any other character in front opens a brace or none. -/
theorem closes_cons_iff {depth : Nat} {c : Char} {text : List Char} (hc : c ≠ '}') :
    Closes depth (c :: text) ↔ Closes (if c = '{' then depth + 1 else depth) text := by
  have hopen : ∀ front : List Char,
      depth + (c :: front).count '{' =
        (if c = '{' then depth + 1 else depth) + front.count '{' := by
    intro front
    by_cases h : c = '{'
    · simp only [h, List.count_cons_self, if_pos]
      omega
    · rw [List.count_cons_of_ne h, if_neg h]
  have hclose : ∀ front : List Char, (c :: front).count '}' = front.count '}' := by
    intro front
    exact List.count_cons_of_ne hc
  constructor
  · intro h
    rcases h with ⟨hp, ht⟩
    refine ⟨?_, by rw [← hopen, ← hclose]; exact ht⟩
    intro front hfront
    rw [← hopen, ← hclose]
    exact hp (c :: front) (List.cons_prefix_cons.2 ⟨rfl, hfront⟩)
  · intro h
    rcases h with ⟨hp, ht⟩
    refine ⟨?_, by rw [hopen, hclose]; exact ht⟩
    intro front hfront
    rcases List.prefix_cons_iff.1 hfront with rfl | ⟨rest, rfl, hrest⟩
    · simp
    · rw [hopen, hclose]
      exact hp rest hrest

/-- The brace that closes more than is open is in front, or the text before it goes on. -/
theorem closed_cons_iff {depth : Nat} {c : Char} {text body rest : List Char} :
    c :: text = body ++ '}' :: rest ∧ Closes depth body ↔
      (body = [] ∧ c = '}' ∧ text = rest ∧ depth = 0) ∨
        ∃ inside, body = c :: inside ∧ text = inside ++ '}' :: rest ∧
          Closes depth (c :: inside) := by
  cases body with
  | nil => simp [closes_nil_iff, and_assoc]
  | cons d body =>
    simp only [List.cons_append, List.cons.injEq, reduceCtorEq, false_and, false_or]
    constructor
    · intro h
      rcases h with ⟨⟨rfl, htext⟩, hbody⟩
      exact ⟨body, ⟨rfl, rfl⟩, htext, hbody⟩
    · intro h
      rcases h with ⟨inside, ⟨rfl, rfl⟩, htext, hbody⟩
      exact ⟨⟨rfl, htext⟩, hbody⟩

/-- Reading stops at the first brace that closes more than is open. -/
theorem untilClosed_eq_some_iff {depth : Nat} {text body rest : List Char} :
    untilClosed depth text = some (body, rest) ↔
      text = body ++ '}' :: rest ∧ Closes depth body := by
  induction text generalizing depth body rest with
  | nil => simp [untilClosed]
  | cons c text ih =>
    rw [closed_cons_iff]
    unfold untilClosed
    by_cases hc : c = '}'
    · subst hc
      cases depth with
      | zero =>
        simp only [beq_self_eq_true, if_true, Option.some.injEq, Prod.mk.injEq]
        constructor
        · intro h
          rcases h with ⟨rfl, rfl⟩
          exact .inl ⟨rfl, trivial, rfl, trivial⟩
        · intro h
          rcases h with ⟨rfl, -, rfl, -⟩ | ⟨inside, -, -, hinside⟩
          · exact ⟨rfl, rfl⟩
          · obtain ⟨inner, hinner, -⟩ := closes_close_iff.1 hinside
            cases hinner
      | succ inner =>
        simp only [beq_self_eq_true, if_true, Option.map_eq_some_iff, Prod.exists, Prod.mk.injEq,
          ih]
        constructor
        · intro h
          rcases h with ⟨inside, after, ⟨htext, hinside⟩, rfl, rfl⟩
          exact .inr ⟨inside, rfl, htext, closes_close_iff.2 ⟨inner, rfl, hinside⟩⟩
        · intro h
          rcases h with ⟨-, -, -, hdepth⟩ | ⟨inside, rfl, htext, hinside⟩
          · cases hdepth
          · obtain ⟨inner, hinner, hinside⟩ := closes_close_iff.1 hinside
            cases hinner
            exact ⟨inside, rest, ⟨htext, hinside⟩, rfl, rfl⟩
    · simp only [beq_iff_eq, if_neg hc, Option.map_eq_some_iff, Prod.exists, Prod.mk.injEq, ih]
      constructor
      · intro h
        rcases h with ⟨inside, after, ⟨htext, hinside⟩, rfl, rfl⟩
        exact .inr ⟨inside, rfl, htext, (closes_cons_iff hc).2 hinside⟩
      · intro h
        rcases h with ⟨-, hbrace, -⟩ | ⟨inside, rfl, htext, hinside⟩
        · exact absurd hbrace hc
        · exact ⟨inside, rest, ⟨htext, (closes_cons_iff hc).1 hinside⟩, rfl, rfl⟩

theorem count_eq_zero_of_blank {brace : Char} (hbrace : isBlank brace = false) {text : List Char}
    (h : ∀ c ∈ text, isBlank c = true) : text.count brace = 0 := by
  refine List.count_eq_zero.2 fun hmem => ?_
  rw [h brace hmem] at hbrace
  cases hbrace

/-- Blanks are no braces, so trimming keeps the balance. -/
theorem Balanced.trim {text : List Char} (h : Balanced text) : Balanced (trim text) := by
  obtain ⟨front, back, htext, hfront, hback⟩ := exists_trim text
  have hopen : isBlank '{' = false := by decide
  have hclose : isBlank '}' = false := by decide
  constructor
  · have := h.total
    rw [htext] at this
    simpa [List.count_append, count_eq_zero_of_blank hopen hfront,
      count_eq_zero_of_blank hopen hback, count_eq_zero_of_blank hclose hfront,
      count_eq_zero_of_blank hclose hback] using this
  · intro inside hinside
    have hprefix : front ++ inside <+: text := by
      rw [htext, List.append_assoc]
      exact List.prefix_append_right_inj front |>.2 (hinside.trans (List.prefix_append _ _))
    have := h.ofPrefix _ hprefix
    simpa [List.count_append, count_eq_zero_of_blank hopen hfront,
      count_eq_zero_of_blank hclose hfront] using this

end CaseScript.Syntax
