import CaseScript.Proofs.Syntax.Missing
import Mathlib.Data.Set.Operations
import Mathlib.Order.Bounds.Basic

/-!
# The order of the forms

The forms of a statement are tried one after the other.  This file shows that the order does not
matter, neither for what is read nor for what is missed.

There are two groups.

* Failures.  `furthestOf` is the failure of a choice whose readers all fail.
  `length_rest_furthestOf_le`, `exists_of_furthestOf` and `mem_expected_furthestOf` describe it by
  membership alone, and `pools_furthestOf` sums them up: it is the same in whatever order the
  failures come.
* Statements.  `statementIn` tries the forms in a given order.  `statementIn_perm` is the result: at
  most one form can be read, and all orders give the same.
-/

namespace CaseScript.Syntax

open Reader

/-- The characters of the text in front of the failure. -/
def Failure.place (text : List Char) (failure : Failure) : Nat :=
  text.length - failure.rest.length

/-- The failure stands at the furthest of the places of other failures, and names what is missed
there. -/
structure Failure.Pools {ι : Type} (failure : Failure) (text : List Char) (own : ι → Failure) :
    Prop where
  place : IsGreatest (Set.range fun i => (own i).place text) (failure.place text)
  expected : ∀ token, token ∈ failure.expected ↔
    ∃ i, (own i).place text = failure.place text ∧ token ∈ (own i).expected

/-- A statement whose forms are tried in the given order. -/
def statementIn (order : List Form) : Reader Action := do
  word .caseWord
  firstOf (order.map Form.ended)

/-! ## Failures -/

/-- The furthest of the failures; what follows them is a failure in front of the whole text. -/
def furthestOf (text : List Char) (failures : List Failure) : Failure :=
  failures.foldr Failure.furthest ⟨text, []⟩

section FurthestOf

variable {text : List Char} {failures : List Failure}

theorem furthestOf_cons (failure : Failure) :
    furthestOf text (failure :: failures) = failure.furthest (furthestOf text failures) :=
  rfl

theorem length_rest_furthestOf_le_text : (furthestOf text failures).rest.length ≤ text.length := by
  induction failures with
  | nil => exact Nat.le_refl _
  | cons failure failures ih =>
    rw [furthestOf_cons, length_rest_furthest]
    omega

theorem length_rest_furthestOf_le {failure : Failure} (h : failure ∈ failures) :
    (furthestOf text failures).rest.length ≤ failure.rest.length := by
  induction failures with
  | nil => cases h
  | cons first failures ih =>
    rw [furthestOf_cons, length_rest_furthest]
    rcases List.mem_cons.1 h with rfl | h
    · omega
    · have := ih h
      omega

/-- Some failure gets as far as the furthest one. -/
theorem exists_of_furthestOf (hne : failures ≠ [])
    (htext : ∀ failure ∈ failures, failure.rest.length ≤ text.length) :
    ∃ failure ∈ failures, failure.rest.length = (furthestOf text failures).rest.length := by
  induction failures with
  | nil => exact absurd rfl hne
  | cons first failures ih =>
    obtain ⟨hfirst, hfailures⟩ := List.forall_mem_cons.1 htext
    rw [furthestOf_cons, length_rest_furthest]
    by_cases hle : first.rest.length ≤ (furthestOf text failures).rest.length
    · exact ⟨first, List.mem_cons_self, by omega⟩
    · have hne : failures ≠ [] := by
        rintro rfl
        exact hle hfirst
      obtain ⟨failure, hmem, hlength⟩ := ih hne hfailures
      exact ⟨failure, List.mem_cons_of_mem _ hmem, by omega⟩

/-- What is missed at the furthest place, by whichever failure. -/
theorem mem_expected_furthestOf {token : Expected} :
    token ∈ (furthestOf text failures).expected ↔ ∃ failure ∈ failures,
      failure.rest.length = (furthestOf text failures).rest.length ∧ token ∈ failure.expected := by
  induction failures with
  | nil => simp [furthestOf]
  | cons first failures ih =>
    have hfirst : (furthestOf text (first :: failures)).rest.length =
        min first.rest.length (furthestOf text failures).rest.length := length_rest_furthest _ _
    rw [hfirst, furthestOf_cons, mem_expected_furthest, ih, List.exists_mem_cons_iff]
    refine or_congr (and_congr_left fun _ => by omega) ?_
    constructor
    · intro h
      rcases h with ⟨hle, failure, hmem, hlength, htoken⟩
      exact ⟨failure, hmem, by omega, htoken⟩
    · intro h
      rcases h with ⟨failure, hmem, hlength, htoken⟩
      have hfailure : (furthestOf text failures).rest.length ≤ failure.rest.length :=
        length_rest_furthestOf_le hmem
      exact ⟨by omega, failure, hmem, by omega, htoken⟩

end FurthestOf

namespace Reader

variable {α ι : Type} {reader : ι → Reader α} {own : ι → Failure} {order : List ι}
  {text : List Char}

/-- Where all readers fail, the choice fails with the furthest of their failures. -/
theorem firstOf_eq_error (h : ∀ i ∈ order, reader i text = .error (own i)) :
    firstOf (order.map reader) text = .error (furthestOf text (order.map own)) := by
  induction order with
  | nil => rfl
  | cons i order ih =>
    obtain ⟨hi, horder⟩ := List.forall_mem_cons.1 h
    rw [List.map_cons, firstOf, hi, ih horder]
    rfl

end Reader

section Pools

variable {ι : Type} {own : ι → Failure} {order : List ι} {start text : List Char}

theorem Failure.place_eq_place_iff {a b : Failure} (ha : a.rest.length ≤ text.length)
    (hb : b.rest.length ≤ text.length) :
    a.place text = b.place text ↔ a.rest.length = b.rest.length := by
  unfold Failure.place
  omega

/-- The furthest failure of all readers, in whatever order they come. -/
theorem pools_furthestOf (hne : order ≠ []) (hall : ∀ i, i ∈ order)
    (hown : ∀ i, (own i).rest.length ≤ start.length) (htext : start.length ≤ text.length) :
    (furthestOf start (order.map own)).Pools text own := by
  have hplace : ∀ i, (own i).place text = (furthestOf start (order.map own)).place text ↔
      (own i).rest.length = (furthestOf start (order.map own)).rest.length := fun i =>
    Failure.place_eq_place_iff (Nat.le_trans (hown i) htext)
      (Nat.le_trans length_rest_furthestOf_le_text htext)
  refine ⟨⟨?_, ?_⟩, fun token => ?_⟩
  · have hsome : ∃ failure ∈ order.map own,
        failure.rest.length = (furthestOf start (order.map own)).rest.length :=
      exists_of_furthestOf (by simpa using hne) (by simpa using fun i _ => hown i)
    obtain ⟨failure, hmem, hlength⟩ := hsome
    obtain ⟨i, -, rfl⟩ := List.mem_map.1 hmem
    exact ⟨i, (hplace i).2 hlength⟩
  · rintro _ ⟨i, rfl⟩
    have hle : (furthestOf start (order.map own)).rest.length ≤ (own i).rest.length :=
      length_rest_furthestOf_le (List.mem_map_of_mem (hall i))
    exact Nat.sub_le_sub_left hle _
  · simp only [mem_expected_furthestOf, hplace, List.mem_map, hall, true_and,
      exists_exists_eq_and]

/-- All failures that pool the same ones stand at one place and name the same tokens. -/
theorem Failure.Pools.unique {a b : Failure} (ha : a.Pools text own) (hb : b.Pools text own) :
    a.place text = b.place text ∧ ∀ token, token ∈ a.expected ↔ token ∈ b.expected := by
  have hplace := ha.place.unique hb.place
  refine ⟨hplace, fun token => ?_⟩
  rw [ha.expected, hb.expected, hplace]

end Pools

/-! ## Statements -/

theorem statementIn_of_caseWord {order : List Form} {text start : List Char}
    (h : word .caseWord text = .ok ((), start)) :
    statementIn order text = firstOf (order.map Form.ended) start := by
  change (word .caseWord text >>= fun step => firstOf (order.map Form.ended) step.2) = _
  rw [h]
  rfl

theorem statementIn_all : statementIn Form.all = statement := rfl

/-- A form that can be read is read in every order. -/
theorem statementIn_of_ended {form : Form} {order : List Form} {text start : List Char}
    {result : Action × List Char} (hcase : word .caseWord text = .ok ((), start))
    (hform : form ∈ order) (h : form.ended start = .ok result) :
    statementIn order text = .ok result := by
  rw [statementIn_of_caseWord hcase]
  refine firstOf_eq_ok (List.mem_map_of_mem hform) h ?_
  intro reader hreader found hfound
  obtain ⟨other, -, rfl⟩ := List.mem_map.1 hreader
  exact (Form.ended_unique hfound h).2

/-- Where no form can be read, the statement fails with what the forms miss, in whatever order they
are tried. -/
theorem exists_pools_of_failed {order : List Form} {text start : List Char} {own : Form → Failure}
    (hcase : word .caseWord text = .ok ((), start)) (horder : order.Perm Form.all)
    (hown : ∀ form : Form, form.ended start = .error (own form)) :
    ∃ failure, statementIn order text = .error failure ∧ failure.rest <:+ text ∧
      failure.Pools text own := by
  have hstart : start <:+ text := by
    have hsuffix := leavesEnd_word .caseWord text
    rwa [hcase] at hsuffix
  have hends : ∀ form, (own form).rest <:+ start := by
    intro form
    have hsuffix := form.leavesEnd_ended start
    rwa [hown form] at hsuffix
  have hmem : ∀ form, form ∈ order := fun form => horder.mem_iff.2 form.mem_all
  have hreaders : ∀ reader ∈ order.map Form.ended, LeavesEnd reader := by
    intro reader hreader
    obtain ⟨form, -, rfl⟩ := List.mem_map.1 hreader
    exact form.leavesEnd_ended
  have hread : firstOf (order.map Form.ended) start =
      .error (furthestOf start (order.map own)) := firstOf_eq_error fun form _ => hown form
  refine ⟨furthestOf start (order.map own), ?_, ?_, ?_⟩
  · rw [statementIn_of_caseWord hcase, hread]
  · have hsuffix := leavesEnd_firstOf hreaders start
    rw [hread] at hsuffix
    exact hsuffix.trans hstart
  · exact pools_furthestOf (List.ne_nil_of_mem (hmem .loadFile)) hmem
      (fun form => (hends form).length_le) hstart.length_le

/-- At most one form of a statement can be read up to its end.  Behind the word `case`, the forms in
any order read the same, or they fail at the same place and miss the same tokens: the furthest place
at which a form fails, and what is missed there. -/
theorem statementIn_perm :
    (∀ text (first second : Form) found found', first.ended text = .ok found →
      second.ended text = .ok found' → first = second) ∧
    ∀ text start, word .caseWord text = .ok ((), start) → ∀ order, order.Perm Form.all →
      (∃ form result, Form.ended form start = .ok result ∧ statement text = .ok result ∧
        statementIn order text = .ok result) ∨
      ∃ (own : Form → Failure) (failure other : Failure),
        (∀ form : Form, form.ended start = .error (own form)) ∧
        statement text = .error failure ∧ statementIn order text = .error other ∧
        other.rest = failure.rest ∧ (∀ token, token ∈ other.expected ↔ token ∈ failure.expected) ∧
        failure.Pools text own := by
  refine ⟨fun text first second found found' hfirst hsecond =>
    (Form.ended_unique hfirst hsecond).1, ?_⟩
  intro text start hcase order horder
  by_cases hread : ∃ (form : Form) (result : Action × List Char), form.ended start = .ok result
  · obtain ⟨form, result, h⟩ := hread
    have hall := statementIn_of_ended hcase form.mem_all h
    rw [statementIn_all] at hall
    exact .inl ⟨form, result, h, hall,
      statementIn_of_ended hcase (horder.mem_iff.2 form.mem_all) h⟩
  · have hfails : ∀ form : Form, ∃ failure, form.ended start = .error failure := by
      intro form
      cases hform : form.ended start with
      | ok result => exact absurd ⟨form, result, hform⟩ hread
      | error failure => exact ⟨failure, rfl⟩
    choose own hown using hfails
    obtain ⟨failure, hfailure, hends, hpools⟩ := exists_pools_of_failed hcase (.refl Form.all) hown
    rw [statementIn_all] at hfailure
    obtain ⟨other, hother, hends', hpools'⟩ := exists_pools_of_failed hcase horder hown
    obtain ⟨hplace, hexpected⟩ := hpools'.unique hpools
    have hrest : other.rest = failure.rest := eq_of_suffix hends' hends
      ((Failure.place_eq_place_iff hends'.length_le hends.length_le).1 hplace)
    exact .inr ⟨own, failure, other, hown, hfailure, hother, hrest, hexpected, hpools⟩

/-- Two forms fail at a word that is cut off, and the forms are tried from the last one on. -/
theorem statementIn_perm_of_cut_word :
    let text := "case add column 'x' valu".toList
    let backwards := Form.all.reverse
    word .caseWord text = .ok ((), " add column 'x' valu".toList) ∧ backwards.Perm Form.all ∧
      statement text =
        .error ⟨"valu".toList, [.word .values, .semicolon, .word .caseWord, .endOfInput]⟩ ∧
      statementIn backwards text =
        .error ⟨"valu".toList, [.semicolon, .word .caseWord, .endOfInput, .word .values]⟩ ∧
      ∃ own : Form → Failure,
        (∀ form : Form, form.ended " add column 'x' valu".toList = .error (own form)) ∧
        Failure.Pools ⟨"valu".toList, [.word .values, .semicolon, .word .caseWord, .endOfInput]⟩
          text own := by
  intro text backwards
  have hcase : word .caseWord text = .ok ((), " add column 'x' valu".toList) := by decide +kernel
  have hbackwards : backwards.Perm Form.all := List.reverse_perm Form.all
  have hfirst : statement text =
      .error ⟨"valu".toList, [.word .values, .semicolon, .word .caseWord, .endOfInput]⟩ := by
    decide +kernel
  have hlast : statementIn backwards text =
      .error ⟨"valu".toList, [.semicolon, .word .caseWord, .endOfInput, .word .values]⟩ := by
    decide +kernel
  rcases statementIn_perm.2 text _ hcase backwards hbackwards with
    ⟨_, _, -, hread, -⟩ | ⟨own, failure, other, hown, hfailure, -, -, -, hpools⟩
  · rw [hfirst] at hread
    cases hread
  · rw [hfirst] at hfailure
    cases hfailure
    exact ⟨hcase, hbackwards, hfirst, hlast, own, hown, hpools⟩

end CaseScript.Syntax
