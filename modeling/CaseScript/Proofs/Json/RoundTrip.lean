import CaseScript.Action.Json
import CaseScript.Proofs.Json.Text
import CaseScript.Proofs.Table.Build
import CaseScript.Table.Json
import Mathlib.Data.List.Forall2
import Mathlib.Data.List.Induction
import Mathlib.Data.List.Nodup

/-!
# Actions, tables and scopes read back

What is written for an action, a program, a valid table or scopes of valid tables is read back as
the same.  What is read as a table or as scopes holds valid tables only: the values that have the
form of a table are described without the reader, and of these it takes the valid ones.

* `Gives` is the form of a record, `Table.Form` that of a table and `Scopes.Form` that of scopes.
* `members?_eq_some_iff`, `Table.ofJson?_eq_some_iff` and `Scopes.ofJson?_eq_some_iff` say that the
  readers take these forms apart.
* `Action.ofJson?_toJson`, `Table.form_toJson` and `Scopes.form_written` say that the writers give
  them.
* `json_reads_back` puts both together for texts.
-/

namespace CaseScript

namespace Json

/-- The thing that a text stands for. -/
def decode? {α : Type} (ofJson? : Json → Option α) (text : String) : Option α :=
  (parse text).bind ofJson?

/-- A record gives these values under these names: one member has the name, and it has the value.
An array gives them in order. -/
inductive Gives (names : List String) : Json → List Json → Prop where
  | inOrder {values : List Json} : values.length = names.length →
    Gives names (.array values) values
  | byName {members : List (String × Json)} {values : List Json} :
    List.Forall₂ (fun name value => members.filter (·.1 == name) = [(name, value)]) names values →
    Gives names (.record members) values

end Json

/-- The value has the form of a table with these columns and rows, valid or not. -/
def Table.Form (value : Json) (table : Table) : Prop :=
  Json.Gives ["columns", "rows"] value
    [.strings table.columns, .array (table.rows.map .strings)]

/-- The JSON form of scopes whose entries are written in the given order. -/
def Scopes.written (entries : List (String × Table)) : Json :=
  .record [("scopes", .record (entries.map fun (name, table) => (name, table.toJson)))]

/-- The value has the form of scopes with these entries, valid or not. -/
def Scopes.Form (value : Json) (entries : List (String × Table)) : Prop :=
  ∃ members, Json.Gives ["scopes"] value [.record members] ∧
    List.Forall₂ (fun member entry => member.1 = entry.1 ∧ Table.Form member.2 entry.2)
      members entries

/-- All stored tables are valid. -/
def Scopes.Valid (scopes : Scopes) : Prop :=
  ∀ name table, scopes.get? name = some table → table.Valid

namespace Json

/-! ## Parts of values -/

section Parts

variable {α β : Type} {value : Json}

theorem map_eq_map_some_iff {read : α → Option β} {xs : List α} {ys : List β} :
    xs.map read = ys.map some ↔ List.Forall₂ (fun x y => read x = some y) xs ys := by
  rw [← List.forall₂_eq_eq_eq, List.forall₂_map_left_iff, List.forall₂_map_right_iff]

theorem mapM_eq_some_iff_forall₂ {read : α → Option β} {xs : List α} {ys : List β} :
    xs.mapM read = some ys ↔ List.Forall₂ (fun x y => read x = some y) xs ys :=
  mapM_eq_some_iff.trans map_eq_map_some_iff

/-- What is read in each place is what was written there. -/
theorem mapM_eq_some_iff_eq_map {read : α → Option β} {write : β → α}
    (h : ∀ x y, read x = some y ↔ x = write y) {xs : List α} {ys : List β} :
    xs.mapM read = some ys ↔ xs = ys.map write := by
  simp only [mapM_eq_some_iff_forall₂, h, ← List.forall₂_map_right_iff, List.forall₂_eq_eq_eq]

theorem list?_eq_some_iff {item? : Json → Option α} {write : α → Json}
    (h : ∀ value x, item? value = some x ↔ value = write x) {xs : List α} :
    list? item? value = some xs ↔ value = .array (xs.map write) := by
  cases value <;> simp [list?, mapM_eq_some_iff_eq_map h]

theorem text?_eq_some_iff {s : String} : text? value = some s ↔ value = .str s := by
  cases value <;> simp [text?, str]

theorem texts?_eq_some_iff {texts : List String} :
    list? text? value = some texts ↔ value = .strings texts :=
  list?_eq_some_iff fun _ _ => text?_eq_some_iff

theorem named?_eq_some_iff {members : List (Option String × Json)}
    {found : List (String × Json)} :
    named? members = some found ↔ members = found.map named := by
  refine mapM_eq_some_iff_eq_map ?_
  rintro ⟨name, value⟩ ⟨name', value'⟩
  cases name <;> simp [named]

theorem record_injective {members members' : List (String × Json)}
    (h : record members = record members') : members = members' := by
  rw [record_eq, record_eq, object.injEq, ← named?_eq_some_iff, named?_eq_some_iff.2 rfl,
    Option.some.injEq] at h
  exact h

/-- The first member of a name is the only one. -/
theorem filter_eq_singleton_iff {members : List (String × Json)} {name : String} :
    members.filter (·.1 == name) = [(name, value)] ↔
      members.countP (·.1 == name) ≤ 1 ∧ members.lookup name = some value := by
  induction members with
  | nil => simp
  | cons member members ih =>
    obtain ⟨other, content⟩ := member
    by_cases h : other = name
    · subst h
      simp [List.countP_eq_zero, List.filter_eq_nil_iff, and_comm]
    · have h' : (name == other) = false := beq_false_of_ne fun heq => h heq.symm
      simpa [List.lookup_cons, h, h'] using ih

theorem members?_record_eq_some_iff {names : List String} {members : List (String × Json)}
    {values : List Json} :
    (record members).members? (.ofNames names) = some (values.map some) ↔
      List.Forall₂ (fun name value => members.filter (·.1 == name) = [(name, value)])
        names values := by
  have hnamed : named? (members.map named) = some members := named?_eq_some_iff.2 rfl
  simp only [filter_eq_singleton_iff, List.forall₂_and_left, ← map_eq_map_some_iff]
  rw [record_eq, members?, hnamed]
  simp [Shape.ofNames]

/-- The members of a record are read when it gives all of them. -/
theorem members?_eq_some_iff {names : List String} {values : List Json} :
    value.members? (.ofNames names) = some (values.map some) ↔ Gives names value values := by
  constructor
  · intro h
    cases value with
    | array items =>
      simp only [members?, Shape.ofNames, Bool.false_and, Bool.or_false, beq_iff_eq,
        Option.ite_none_right_eq_some, Option.some.injEq] at h
      obtain ⟨hlength, h⟩ := h
      rw [hlength, Nat.sub_self, List.replicate_zero, List.append_nil,
        List.map_inj_right (fun _ _ => Option.some.inj)] at h
      exact h ▸ .inOrder hlength
    | object members =>
      obtain ⟨found, hfound, -⟩ := Option.bind_eq_some_iff.1 h
      rw [named?_eq_some_iff.1 hfound, ← record_eq] at h ⊢
      exact .byName (members?_record_eq_some_iff.1 h)
    | _ => cases h
  · intro h
    cases h with
    | inOrder hlength => simp [members?, Shape.ofNames, hlength]
    | byName hmembers => exact members?_record_eq_some_iff.2 hmembers

theorem Gives.unique {names : List String} {values values' : List Json}
    (h : Gives names value values) (h' : Gives names value values') : values = values' := by
  have heq := (members?_eq_some_iff.2 h).symm.trans (members?_eq_some_iff.2 h')
  exact List.map_injective_iff.2 (fun _ _ => Option.some.inj) (Option.some.inj heq)

theorem decode?_of_plain {ofJson? : Json → Option α} (h : Plain value) :
    decode? ofJson? value.render = ofJson? value := by
  rw [decode?, h.parse_render, Option.bind_some]

end Parts

/-! ## Written values -/

theorem Plain.strings (texts : List String) : Plain (.strings texts) := by
  refine .array fun value hvalue => ?_
  obtain ⟨text, -, rfl⟩ := List.mem_map.1 hvalue
  exact .str text

theorem Plain.nullable (text : Option String) : Plain (.nullable .str text) := by
  cases text with
  | none => exact .null
  | some text => exact .str text

theorem Plain.member {name : String} {value : Json} (h : Plain value) :
    Plain (.record [(name, value)]) :=
  .record fun member hmember => by rw [List.mem_singleton.1 hmember]; exact h

end Json

/-! ## Actions and programs -/

theorem Source.plain_toJson (source : Source) : source.toJson.Plain := by
  cases source with
  | file path => exact .member (.member (.str path))
  | queryFile path connection =>
    exact .member (.record (by simp [Json.Plain.str]))
  | queryText text connection =>
    exact .member (.record (by simp [Json.Plain.str]))

theorem Direction.plain_toJson (direction : Direction) : direction.toJson.Plain := by
  cases direction <;> exact .str _

theorem Operator.plain_toJson (operator : Operator) : operator.toJson.Plain := by
  cases operator <;> exact .str _

theorem Action.plain_toJson (action : Action) : action.toJson.Plain := by
  cases action with
  | load source => exact .member (.member source.plain_toJson)
  | remove column => exact .member (.member (.str column))
  | rename column name => exact .member (.record (by simp [Json.Plain.str]))
  | move column direction =>
    exact .member (.record (by simp [Json.Plain.str, direction.plain_toJson]))
  | filter column operator values negate =>
    exact .member (.record (by
      simp [Json.Plain.str, operator.plain_toJson, Json.Plain.strings, Json.Plain.boolean]))
  | distinct => exact .str _
  | scope name => exact .member (.member (.str name))
  | cross first second key =>
    exact .member (.record (by simp [Json.Plain.str, Json.Plain.nullable]))
  | save path => exact .member (.member (.str path))
  | copy source target => exact .member (.record (by simp [Json.Plain.str]))
  | add column fill => exact .member (.record (by simp [Json.Plain.str, Json.Plain.nullable]))
  | merge name => exact .member (.member (.str name))

theorem Source.ofJson?_toJson (source : Source) : ofJson? source.toJson = some source := by
  cases source <;> rfl

theorem Direction.ofJson?_toJson (direction : Direction) :
    ofJson? direction.toJson = some direction := by
  cases direction <;> rfl

theorem Operator.ofJson?_toJson (operator : Operator) :
    ofJson? operator.toJson = some operator := by
  cases operator <;> rfl

/-- An action is read back from its JSON form. -/
theorem Action.ofJson?_toJson (action : Action) : ofJson? action.toJson = some action := by
  cases action with
  | load source =>
    show (do return load (← Source.ofJson? source.toJson)) = _
    rw [source.ofJson?_toJson]
    rfl
  | move column direction =>
    show (do return move column (← Direction.ofJson? direction.toJson)) = _
    rw [direction.ofJson?_toJson]
    rfl
  | filter column operator values negate =>
    have hvalues : (Json.strings values).list? Json.text? = some values :=
      Json.texts?_eq_some_iff.2 rfl
    show (do
      return filter column (← Operator.ofJson? operator.toJson)
        (← (Json.strings values).list? Json.text?) negate) = _
    rw [operator.ofJson?_toJson, hvalues]
    rfl
  | cross first second key => cases key <;> rfl
  | add column fill => cases fill <;> rfl
  | _ => rfl

theorem Program.plain_toJson (program : Program) : program.toJson.Plain := by
  refine .member (.array fun value hvalue => ?_)
  obtain ⟨action, -, rfl⟩ := List.mem_map.1 hvalue
  exact action.plain_toJson

/-- A program is read back from its JSON form. -/
theorem Program.ofJson?_toJson (program : Program) : ofJson? program.toJson = some program := by
  show (Json.array (program.map Action.toJson)).list? Action.ofJson? = some program
  rw [Json.list?, Json.mapM_eq_some_iff_forall₂, List.forall₂_map_left_iff, List.forall₂_same]
  exact fun action _ => action.ofJson?_toJson

/-! ## Tables -/

namespace Table

variable {value : Json} {table : Table}

theorem toOption_eq_some_iff {ε α : Type} {result : Except ε α} {found : α} :
    result.toOption = some found ↔ result = .ok found := by
  cases result <;> simp [Except.toOption]

theorem rows?_eq_some_iff {rows : List (List String)} :
    value.list? (Json.list? Json.text?) = some rows ↔ value = .array (rows.map .strings) :=
  Json.list?_eq_some_iff fun _ _ => Json.texts?_eq_some_iff

/-- A value is read as a table when it has the form of the table and the table is valid. -/
theorem ofJson?_eq_some_iff : ofJson? value = some table ↔ Form value table ∧ table.Valid := by
  constructor
  · intro h
    obtain ⟨members, hmembers, h⟩ := Option.bind_eq_some_iff.1 h
    split at h
    · obtain ⟨names, hnames, h⟩ := Option.bind_eq_some_iff.1 h
      obtain ⟨rows, hrows, h⟩ := Option.bind_eq_some_iff.1 h
      obtain ⟨rfl, hvalid⟩ := ofRows_eq_ok_iff.1 (toOption_eq_some_iff.1 h)
      rw [Json.texts?_eq_some_iff.1 hnames, rows?_eq_some_iff.1 hrows] at hmembers
      exact ⟨Json.members?_eq_some_iff.1 hmembers, hvalid⟩
    · cases h
  · rintro ⟨hform, hvalid⟩
    have hnames : (Json.strings table.columns).list? Json.text? = some table.columns :=
      Json.texts?_eq_some_iff.2 rfl
    have hrows := rows?_eq_some_iff.2 (rfl : Json.array (table.rows.map .strings) = _)
    have htable := toOption_eq_some_iff.2 (ofRows_eq_ok_iff.2 ⟨rfl, hvalid⟩)
    rw [ofJson?, Json.members?_eq_some_iff.2 hform]
    simp only [List.map_cons, List.map_nil, Option.bind_eq_bind, Option.bind_some, hnames, hrows,
      htable]

/-- One value has the form of one table. -/
theorem Form.unique {table' : Table} (h : Form value table) (h' : Form value table') :
    table = table' := by
  have hvalues := Json.Gives.unique h h'
  simp only [List.cons.injEq] at hvalues
  obtain ⟨hcolumns, hrows, -⟩ := hvalues
  have hnames := Json.texts?_eq_some_iff.2 hcolumns
  rw [Json.texts?_eq_some_iff.2 rfl, Option.some.injEq] at hnames
  have hcells := rows?_eq_some_iff.2 hrows
  rw [rows?_eq_some_iff.2 rfl, Option.some.injEq] at hcells
  obtain ⟨columns, rows⟩ := table
  obtain ⟨columns', rows'⟩ := table'
  rw [Table.mk.injEq]
  exact ⟨hnames, hcells⟩

theorem plain_toJson (table : Table) : table.toJson.Plain := by
  have hrows : Json.Plain (.array (table.rows.map .strings)) := by
    refine .array fun value hvalue => ?_
    obtain ⟨row, -, rfl⟩ := List.mem_map.1 hvalue
    exact .strings row
  exact .record (by simp [Json.Plain.strings, hrows])

theorem form_toJson (table : Table) : Form table.toJson table :=
  .byName (by simp)

end Table

/-! ## Scopes -/

namespace Scopes

variable {value : Json} {scopes : Scopes} {entries : List (String × Table)}

theorem lookup_eq_some_iff_mem {name : String} {table : Table}
    (h : (entries.map Prod.fst).Nodup) :
    entries.lookup name = some table ↔ (name, table) ∈ entries := by
  induction entries with
  | nil => simp
  | cons entry entries ih =>
    obtain ⟨other, stored⟩ := entry
    rw [List.map_cons, List.nodup_cons] at h
    obtain ⟨hfresh, hrest⟩ := h
    rw [List.lookup_cons, List.mem_cons, Prod.mk.injEq, ← ih hrest]
    by_cases hname : name = other
    · subst hname
      have hnone : entries.lookup name = none := by
        rw [List.lookup_eq_none_iff]
        intro entry hentry
        exact bne_iff_ne.2 fun heq => hfresh (List.mem_map.2 ⟨entry, hentry, heq.symm⟩)
      simp [hnone, eq_comm]
    · simp [hname, beq_false_of_ne hname]

/-- The last entry under a name counts. -/
theorem get?_ofList (entries : List (String × Table)) (name : String) :
    (ofList entries).get? name = entries.reverse.lookup name := by
  induction entries using List.reverseRecOn with
  | nil => simp [ofList, empty, get?]
  | append_singleton entries entry ih =>
    have hlast : ofList (entries ++ [entry]) = (ofList entries).insert entry.1 entry.2 := by
      simp only [ofList, List.foldl_append, List.foldl_cons, List.foldl_nil]
    rw [hlast, get?_insert, List.reverse_append, List.reverse_singleton, List.singleton_append,
      List.lookup_cons, ih]
    by_cases hname : entry.1 = name
    · simp [hname]
    · simp [hname, beq_false_of_ne (Ne.symm hname)]

/-- Every stored table is the one of an entry. -/
theorem mem_of_get?_ofList {name : String} {table : Table}
    (h : (ofList entries).get? name = some table) : (name, table) ∈ entries := by
  rw [get?_ofList, List.lookup_eq_some_iff] at h
  obtain ⟨before, after, hentries, -⟩ := h
  rw [← List.mem_reverse, hentries]
  exact List.mem_append_right before List.mem_cons_self

theorem nodup_names (scopes : Scopes) : (scopes.toList.map Prod.fst).Nodup := by
  refine List.pairwise_map.2 (scopes.tables.distinct_keys_toList.imp fun hne heq => hne ?_)
  exact Std.LawfulEqCmp.compare_eq_iff_eq.2 heq

/-- The entries of scopes make these scopes, in whatever order they stand. -/
theorem ofList_of_perm (h : entries.Perm scopes.toList) : ofList entries = scopes := by
  have hnodup : (entries.reverse.map Prod.fst).Nodup :=
    (((List.reverse_perm entries).trans h).map Prod.fst).nodup_iff.2 scopes.nodup_names
  have hget : ∀ name, (ofList entries).get? name = scopes.get? name := by
    intro name
    refine Option.ext fun table => ?_
    rw [get?_ofList, lookup_eq_some_iff_mem hnodup, List.mem_reverse, h.mem_iff]
    exact Std.ExtTreeMap.mem_toList_iff_getElem?_eq_some
  have htables := Std.ExtTreeMap.ext_getElem? hget
  exact congrArg Scopes.mk htables

theorem entry?_eq_some_iff {member : String × Json} {entry : String × Table} :
    entry? (Json.named member) = some entry ↔
      entry.2.Valid ∧ member.1 = entry.1 ∧ Table.Form member.2 entry.2 := by
  obtain ⟨name, table⟩ := entry
  unfold entry?
  simp only [Json.named, Option.bind_eq_bind, Option.bind_some, Option.bind_eq_some_iff,
    Table.ofJson?_eq_some_iff, Option.pure_def, Option.some.injEq, Prod.mk.injEq]
  constructor
  · rintro ⟨found, ⟨hform, hvalid⟩, rfl, rfl⟩
    exact ⟨hvalid, rfl, hform⟩
  · rintro ⟨hvalid, rfl, hform⟩
    exact ⟨table, ⟨hform, hvalid⟩, rfl, rfl⟩

theorem entries?_eq_some_iff {members : List (String × Json)} :
    (members.map Json.named).mapM entry? = some entries ↔
      (∀ entry ∈ entries, entry.2.Valid) ∧
        List.Forall₂ (fun member entry => member.1 = entry.1 ∧ Table.Form member.2 entry.2)
          members entries := by
  rw [Json.mapM_eq_some_iff_forall₂, List.forall₂_map_left_iff]
  simp only [entry?_eq_some_iff]
  -- the entries stand on the right, so the relation is turned over to split it
  constructor
  · intro h
    obtain ⟨hvalid, htables⟩ := (List.forall₂_and_left entries members).1 h.flip
    exact ⟨hvalid, htables.flip⟩
  · rintro ⟨hvalid, htables⟩
    exact ((List.forall₂_and_left entries members).2 ⟨hvalid, htables.flip⟩).flip

/-- Entries are read only where all their names can be read. -/
theorem exists_names {members : List (Option String × Json)}
    (h : members.mapM entry? = some entries) :
    ∃ found : List (String × Json), members = found.map Json.named := by
  induction members generalizing entries with
  | nil => exact ⟨[], rfl⟩
  | cons member members ih =>
    rw [List.mapM_cons] at h
    obtain ⟨entry, hentry, h⟩ := Option.bind_eq_some_iff.1 h
    obtain ⟨rest, hrest, -⟩ := Option.bind_eq_some_iff.1 h
    obtain ⟨found, rfl⟩ := ih hrest
    obtain ⟨name, hname, -⟩ := Option.bind_eq_some_iff.1 hentry
    refine ⟨(name, member.2) :: found, ?_⟩
    rw [List.map_cons, Json.named, ← hname]

/-- A value is read as scopes when it has their form and every entry is valid. -/
theorem ofJson?_eq_some_iff :
    ofJson? value = some scopes ↔ ∃ entries, Form value entries ∧
      (∀ entry ∈ entries, entry.2.Valid) ∧ scopes = ofList entries := by
  constructor
  · intro h
    obtain ⟨contents, hcontents, h⟩ := Option.bind_eq_some_iff.1 h
    split at h
    · obtain ⟨entries, hentries, hscopes⟩ := Option.bind_eq_some_iff.1 h
      obtain ⟨members, rfl⟩ := exists_names hentries
      obtain ⟨hvalid, htables⟩ := entries?_eq_some_iff.1 hentries
      cases hscopes
      exact ⟨entries, ⟨members, Json.members?_eq_some_iff.1 hcontents, htables⟩, hvalid, rfl⟩
    · cases h
  · rintro ⟨entries, ⟨members, hmembers, htables⟩, hvalid, rfl⟩
    have hentries := entries?_eq_some_iff.2 ⟨hvalid, htables⟩
    rw [ofJson?, Json.members?_eq_some_iff.2 hmembers]
    simp only [List.map_cons, List.map_nil, Json.record_eq, Option.bind_eq_bind, Option.bind_some,
      hentries, Option.pure_def]

/-- One value has the form of scopes with one list of entries. -/
theorem Form.unique {entries' : List (String × Table)} (h : Form value entries)
    (h' : Form value entries') : entries = entries' := by
  obtain ⟨members, hmembers, htables⟩ := h
  obtain ⟨members', hmembers', htables'⟩ := h'
  have hvalues := List.head_eq_of_cons_eq (hmembers.unique hmembers')
  obtain rfl : members = members' := Json.record_injective hvalues
  refine List.right_unique_forall₂' ?_ htables htables'
  rintro member ⟨name, table⟩ ⟨name', table'⟩ ⟨rfl, htable⟩ ⟨rfl, htable'⟩
  rw [Prod.mk.injEq]
  exact ⟨rfl, htable.unique htable'⟩

theorem plain_written (entries : List (String × Table)) : (written entries).Plain := by
  refine .member (.record fun member hmember => ?_)
  obtain ⟨entry, -, rfl⟩ := List.mem_map.1 hmember
  exact entry.2.plain_toJson

theorem form_written (entries : List (String × Table)) : Form (written entries) entries := by
  refine ⟨entries.map fun (name, table) => (name, table.toJson), .byName (by simp), ?_⟩
  rw [List.forall₂_map_left_iff, List.forall₂_same]
  exact fun entry _ => ⟨rfl, entry.2.form_toJson⟩

end Scopes

/-! ## Texts -/

open Json (decode?)

section Texts

variable {text : String} {value : Json}

theorem Table.decode?_eq_some {table : Table} (h : decode? Table.ofJson? text = some table) :
    table.Valid ∧ ∃ value, Json.parse text = some value ∧ Form value table := by
  obtain ⟨value, hparse, hread⟩ := Option.bind_eq_some_iff.1 h
  obtain ⟨hform, hvalid⟩ := ofJson?_eq_some_iff.1 hread
  exact ⟨hvalid, value, hparse, hform⟩

theorem Scopes.decode?_eq_some {scopes : Scopes}
    (h : decode? Scopes.ofJson? text = some scopes) :
    scopes.Valid ∧ ∃ value entries, Json.parse text = some value ∧ Form value entries ∧
      scopes = ofList entries := by
  obtain ⟨value, hparse, hread⟩ := Option.bind_eq_some_iff.1 h
  obtain ⟨entries, hform, hvalid, rfl⟩ := ofJson?_eq_some_iff.1 hread
  exact ⟨fun name table hget => hvalid _ (mem_of_get?_ofList hget), value, entries, hparse, hform,
    rfl⟩

/-- Of the texts in the form of a table the valid ones are read. -/
theorem Table.decode?_of_form {table : Table} (hparse : Json.parse text = some value)
    (hform : Form value table) :
    decode? Table.ofJson? text = if table.Valid then some table else none := by
  rw [decode?, hparse, Option.bind_some]
  split
  · rename_i hvalid
    exact ofJson?_eq_some_iff.2 ⟨hform, hvalid⟩
  · rename_i hinvalid
    refine Option.eq_none_iff_forall_ne_some.2 fun other hread => hinvalid ?_
    obtain ⟨hother, hvalid⟩ := ofJson?_eq_some_iff.1 hread
    rwa [hform.unique hother]

/-- Of the texts in the form of scopes those with valid entries only are read. -/
theorem Scopes.decode?_of_form {entries : List (String × Table)}
    (hparse : Json.parse text = some value) (hform : Form value entries) :
    decode? Scopes.ofJson? text =
      if ∀ entry ∈ entries, entry.2.Valid then some (ofList entries) else none := by
  rw [decode?, hparse, Option.bind_some]
  split
  · rename_i hvalid
    exact ofJson?_eq_some_iff.2 ⟨entries, hform, hvalid, rfl⟩
  · rename_i hinvalid
    refine Option.eq_none_iff_forall_ne_some.2 fun other hread => hinvalid ?_
    obtain ⟨entries', hother, hvalid, -⟩ := ofJson?_eq_some_iff.1 hread
    rwa [hform.unique hother]

/-- Scopes of valid tables are read back from their entries in any order. -/
theorem Scopes.decode?_written {scopes : Scopes} {entries : List (String × Table)}
    (hscopes : scopes.Valid) (hentries : entries.Perm scopes.toList) :
    decode? Scopes.ofJson? (written entries).render = some scopes := by
  have hvalid : ∀ entry ∈ entries, entry.2.Valid := by
    intro entry hentry
    refine hscopes entry.1 entry.2 ?_
    exact Std.ExtTreeMap.mem_toList_iff_getElem?_eq_some.1 (hentries.mem_iff.1 hentry)
  rw [decode?_of_form (plain_written entries).parse_render (form_written entries), if_pos hvalid,
    ofList_of_perm hentries]

end Texts

/-- What is written for an action, a program, a valid table or scopes of valid tables is read back
as the same.  What is read as a table or as scopes has that form and is valid, and of the texts in
that form just the valid ones are read. -/
theorem json_reads_back :
    (∀ action : Action, decode? Action.ofJson? action.toJson.render = some action) ∧
    (∀ program : Program, decode? Program.ofJson? program.toJson.render = some program) ∧
    (∀ table : Table, table.Valid → decode? Table.ofJson? table.toJson.render = some table) ∧
    (∀ scopes : Scopes, scopes.Valid →
      decode? Scopes.ofJson? scopes.toJson.render = some scopes ∧
        ∀ entries, entries.Perm scopes.toList →
          decode? Scopes.ofJson? (Scopes.written entries).render = some scopes) ∧
    (∀ text table, decode? Table.ofJson? text = some table →
      table.Valid ∧ ∃ value, Json.parse text = some value ∧ Table.Form value table) ∧
    (∀ text value table, Json.parse text = some value → Table.Form value table →
      decode? Table.ofJson? text = if table.Valid then some table else none) ∧
    (∀ text scopes, decode? Scopes.ofJson? text = some scopes →
      scopes.Valid ∧ ∃ value entries, Json.parse text = some value ∧ Scopes.Form value entries ∧
        scopes = Scopes.ofList entries) ∧
    (∀ text value entries, Json.parse text = some value → Scopes.Form value entries →
      decode? Scopes.ofJson? text =
        if ∀ entry ∈ entries, entry.2.Valid then some (Scopes.ofList entries) else none) := by
  refine ⟨fun action => ?_, fun program => ?_, fun table htable => ?_, fun scopes hscopes => ?_,
    fun text table => Table.decode?_eq_some, fun text value table => Table.decode?_of_form,
    fun text scopes => Scopes.decode?_eq_some, fun text value entries => Scopes.decode?_of_form⟩
  · rw [Json.decode?_of_plain action.plain_toJson, action.ofJson?_toJson]
  · rw [Json.decode?_of_plain program.plain_toJson, program.ofJson?_toJson]
  · rw [Table.decode?_of_form table.plain_toJson.parse_render table.form_toJson, if_pos htable]
  · exact ⟨Scopes.decode?_written hscopes (.refl _), fun _ => Scopes.decode?_written hscopes⟩

/-- A table with a quote, a line end and a letter outside ASCII is read back, and one with two
spellings of a name is refused. -/
theorem json_reads_back_of_spellings :
    decode? Table.ofJson? (Table.toJson ⟨["A", "\\"], [["\"\n", "ä"]]⟩).render =
        some ⟨["A", "\\"], [["\"\n", "ä"]]⟩ ∧
      decode? Table.ofJson? (Table.toJson ⟨["A", "a"], [["1", "2"]]⟩).render = none := by
  obtain ⟨-, -, htable, -, -, hform, -, -⟩ := json_reads_back
  refine ⟨htable _ (by decide), ?_⟩
  rw [hform _ _ ⟨["A", "a"], [["1", "2"]]⟩ (Table.plain_toJson _).parse_render
    (Table.form_toJson _)]
  exact if_neg (by decide)

end CaseScript
