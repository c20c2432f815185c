import CaseScript.Proofs.Table.Valid

/-!
# Products

A product puts every row of one table beside every row of another.  This file says when there is one
and which rows it has, and that a product of three tables does not depend on which two are taken
first.

There are four groups.

* Rows.  `besides` are the rows of a product: `length_besides` counts them, `getElem?_besides` says
  which pair of rows stands at a place, and `besides_assoc` takes three lists of rows together.
* Columns.  `Apart` says that two tables share no name.  `cross_of_apart` and `cross_of_not_apart`
  say what a product gives, and `apart_append_left` and `apart_append_right` split the condition for
  tables that are products themselves.
* Three tables.  `cross_left_of_apart` and `cross_right_of_apart` take them together in both ways,
  `cross_left_of_not_apart` and `cross_right_of_not_apart` fail in both ways.
* `cross_regroups` is the result.
-/

namespace CaseScript.Table

variable {left right first second third : Table} {i j : Nat}

/-- Every left row with every right row behind it. -/
def besides (left right : List (List String)) : List (List String) :=
  left.flatMap fun l => right.map fun r => l ++ r

/-- No column of one table goes by the name of a column of the other. -/
def Apart (left right : Table) : Prop :=
  ∀ l ∈ left.columns, ∀ r ∈ right.columns, sameName l r = false

/-! ## Rows -/

theorem besides_cons (l : List String) (left right : List (List String)) :
    besides (l :: left) right = right.map (l ++ ·) ++ besides left right :=
  List.flatMap_cons

theorem mem_besides {left right : List (List String)} {row : List String} :
    row ∈ besides left right ↔ ∃ l ∈ left, ∃ r ∈ right, l ++ r = row := by
  simp only [besides, List.mem_flatMap, List.mem_map]

theorem length_besides (left right : List (List String)) :
    (besides left right).length = left.length * right.length := by
  induction left with
  | nil => simp [besides]
  | cons l left ih =>
    rw [besides_cons, List.length_append, List.length_map, ih, List.length_cons, Nat.succ_mul]
    omega

/-- The rows of a left row stand together, in the order of the right rows. -/
theorem getElem?_besides {left right : List (List String)} {l r : List String}
    (hl : left[i]? = some l) (hr : right[j]? = some r) :
    (besides left right)[i * right.length + j]? = some (l ++ r) := by
  have hj : j < right.length := (List.getElem?_eq_some_iff.1 hr).1
  induction left generalizing i with
  | nil => simp at hl
  | cons head left ih =>
    rw [besides_cons]
    cases i with
    | zero =>
      simp only [List.getElem?_cons_zero, Option.some.injEq] at hl
      rw [Nat.zero_mul, Nat.zero_add, List.getElem?_append_left (by simpa using hj),
        List.getElem?_map, hr, hl]
      rfl
    | succ i =>
      have hplace : (i + 1) * right.length + j =
          (right.map (head ++ ·)).length + (i * right.length + j) := by
        rw [List.length_map, Nat.succ_mul]
        omega
      rw [hplace, List.getElem?_append_right (Nat.le_add_right _ _), Nat.add_sub_cancel_left]
      exact ih (by simpa using hl)

theorem besides_append (left left' right : List (List String)) :
    besides (left ++ left') right = besides left right ++ besides left' right :=
  List.flatMap_append

/-- A row in front of every left row is one in front of every row of the product. -/
theorem besides_map_append (l : List String) (left right : List (List String)) :
    besides (left.map (l ++ ·)) right = (besides left right).map (l ++ ·) := by
  simp only [besides, List.flatMap_map, List.map_flatMap, List.map_map, List.append_assoc,
    Function.comp_def]

theorem besides_assoc (first second third : List (List String)) :
    besides (besides first second) third = besides first (besides second third) := by
  induction first with
  | nil => rfl
  | cons l first ih => rw [besides_cons, besides_append, besides_map_append, ih, besides_cons]

/-! ## Columns -/

theorem collision?_none_eq_none_iff_apart :
    left.collision? right none = none ↔ left.Apart right := by
  rw [collision?_none_eq_none_iff]
  constructor
  · intro h l hl r hr
    rw [sameName, beq_eq_false_iff_ne]
    intro hsame
    exact h r hr (hsame ▸ List.mem_map_of_mem hl)
  · intro h r hr hmem
    obtain ⟨l, hl, hsame⟩ := List.mem_map.1 hmem
    have hdifferent := h l hl r hr
    rw [sameName, beq_eq_false_iff_ne] at hdifferent
    exact hdifferent hsame

theorem cross_of_apart (h : left.Apart right) :
    left.cross right = .ok ⟨left.columns ++ right.columns, besides left.rows right.rows⟩ :=
  cross_eq_ok_iff.2 ⟨collision?_none_eq_none_iff_apart.2 h, rfl⟩

theorem cross_of_collision {name : String} (h : left.collision? right none = some name) :
    left.cross right = .error (.columnCollision name) := by
  rw [cross, checkCollisions, h]
  rfl

theorem cross_of_not_apart (h : ¬ left.Apart right) :
    ∃ name, left.cross right = .error (.columnCollision name) := by
  rw [← collision?_none_eq_none_iff_apart] at h
  obtain ⟨name, hname⟩ := Option.ne_none_iff_exists'.1 h
  exact ⟨name, cross_of_collision hname⟩

theorem apart_append_left {rows : List (List String)} :
    Apart ⟨first.columns ++ second.columns, rows⟩ third ↔
      first.Apart third ∧ second.Apart third := by
  simp only [Apart, List.mem_append, or_imp, forall_and]

theorem apart_append_right {rows : List (List String)} :
    first.Apart ⟨second.columns ++ third.columns, rows⟩ ↔
      first.Apart second ∧ first.Apart third := by
  simp only [Apart, List.mem_append, or_imp, forall_and]

/-! ## Three tables -/

theorem cross_left_of_apart (hsecond : first.Apart second) (hthird : first.Apart third)
    (hlast : second.Apart third) :
    (first.cross second >>= (·.cross third)) =
      .ok ⟨first.columns ++ second.columns ++ third.columns,
        besides (besides first.rows second.rows) third.rows⟩ := by
  rw [cross_of_apart hsecond]
  exact cross_of_apart (apart_append_left.2 ⟨hthird, hlast⟩)

theorem cross_right_of_apart (hsecond : first.Apart second) (hthird : first.Apart third)
    (hlast : second.Apart third) :
    (second.cross third >>= first.cross) =
      .ok ⟨first.columns ++ (second.columns ++ third.columns),
        besides first.rows (besides second.rows third.rows)⟩ := by
  rw [cross_of_apart hlast]
  exact cross_of_apart (apart_append_right.2 ⟨hsecond, hthird⟩)

/-- A name that two of the tables share is met in one step or the other. -/
theorem cross_left_of_not_apart
    (h : ¬ (first.Apart second ∧ first.Apart third ∧ second.Apart third)) :
    ∃ name, (first.cross second >>= (·.cross third)) = .error (.columnCollision name) := by
  by_cases hsecond : first.Apart second
  · rw [cross_of_apart hsecond]
    exact cross_of_not_apart fun hthird => h ⟨hsecond, apart_append_left.1 hthird⟩
  · obtain ⟨name, hname⟩ := cross_of_not_apart hsecond
    rw [hname]
    exact ⟨name, rfl⟩

theorem cross_right_of_not_apart
    (h : ¬ (first.Apart second ∧ first.Apart third ∧ second.Apart third)) :
    ∃ name, (second.cross third >>= first.cross) = .error (.columnCollision name) := by
  by_cases hlast : second.Apart third
  · rw [cross_of_apart hlast]
    refine cross_of_not_apart fun hboth => h ?_
    obtain ⟨hsecond, hthird⟩ := apart_append_right.1 hboth
    exact ⟨hsecond, hthird, hlast⟩
  · obtain ⟨name, hname⟩ := cross_of_not_apart hlast
    rw [hname]
    exact ⟨name, rfl⟩

/-! ## The result -/

/-- A product succeeds exactly for tables without a common name.  It has a row for every pair of
rows, the pairs of one left row together.  Three tables give one product, whichever two are taken
first, or a collision either way. -/
theorem cross_regroups :
    (∀ left right : Table,
      ((∃ product, left.cross right = .ok product) ↔
        ∀ l ∈ left.columns, ∀ r ∈ right.columns, sameName l r = false) ∧
      ∀ product, left.cross right = .ok product →
        product.columns = left.columns ++ right.columns ∧
        product.rows.length = left.rows.length * right.rows.length ∧
        ∀ i j l r, left.rows[i]? = some l → right.rows[j]? = some r →
          product.rows[i * right.rows.length + j]? = some (l ++ r)) ∧
    ∀ first second third : Table,
      (∃ product, (first.cross second >>= (·.cross third)) = .ok product ∧
        (second.cross third >>= first.cross) = .ok product) ∨
      ∃ name name', (first.cross second >>= (·.cross third)) = .error (.columnCollision name) ∧
        (second.cross third >>= first.cross) = .error (.columnCollision name') := by
  refine ⟨fun left right => ⟨?_, ?_⟩, fun first second third => ?_⟩
  · show _ ↔ left.Apart right
    constructor
    · intro h
      obtain ⟨product, h⟩ := h
      exact collision?_none_eq_none_iff_apart.1 (cross_eq_ok_iff.1 h).1
    · intro h
      exact ⟨_, cross_of_apart h⟩
  · intro product h
    obtain ⟨-, rfl⟩ := cross_eq_ok_iff.1 h
    exact ⟨rfl, length_besides _ _, fun i j l r => getElem?_besides⟩
  · by_cases h : first.Apart second ∧ first.Apart third ∧ second.Apart third
    · obtain ⟨hsecond, hthird, hlast⟩ := h
      refine .inl ⟨_, cross_left_of_apart hsecond hthird hlast, ?_⟩
      rw [cross_right_of_apart hsecond hthird hlast, List.append_assoc, besides_assoc]
    · obtain ⟨name, hname⟩ := cross_left_of_not_apart h
      obtain ⟨name', hname'⟩ := cross_right_of_not_apart h
      exact .inr ⟨name, name', hname, hname'⟩

/-- The second row of one table beside the first of the other, and three tables of which the last
two share a name in other capitals. -/
theorem cross_regroups_of_capitals :
    let left : Table := ⟨["a"], [["1"], ["2"]]⟩
    let right : Table := ⟨["b", "c"], [["x", "y"], ["z", "w"]]⟩
    let product : Table := ⟨["a", "b", "c"],
      [["1", "x", "y"], ["1", "z", "w"], ["2", "x", "y"], ["2", "z", "w"]]⟩
    let other : Table := ⟨["C"], []⟩
    left.cross right = .ok product ∧
      product.rows[1 * 2 + 0]? = some ["2", "x", "y"] ∧
      ∃ name name', (left.cross right >>= (·.cross other)) = .error (.columnCollision name) ∧
        (right.cross other >>= left.cross) = .error (.columnCollision name') := by
  intro left right product other
  have hproduct : left.cross right = .ok product := by decide +kernel
  have hcollision : right.cross other = .error (.columnCollision "C") := by decide +kernel
  obtain ⟨-, -, hrow⟩ := (cross_regroups.1 left right).2 product hproduct
  refine ⟨hproduct, hrow 1 0 ["2"] ["x", "y"] rfl rfl, ?_⟩
  rcases cross_regroups.2 left right other with h | h
  · obtain ⟨_, -, h⟩ := h
    rw [hcollision] at h
    cases h
  · exact h

end CaseScript.Table
