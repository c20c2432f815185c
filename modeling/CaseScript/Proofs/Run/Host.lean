import CaseScript.Proofs.Run.Step

/-!
# What hosts promise and what they are asked

`Host.Keeps` says that a host gives only valid tables and keeps an invariant of its world,
`Host.Preserves` that it keeps an invariant whatever it is handed, and `Host.KeepsOnLoad` that it
does so on a load.  `Host.noting` is the host that also notes the tables it is handed to write.

There are three groups.

* Computations.  `Effect.Ensures` and `Effect.ensures_bind` carry an invariant of the world through
  a computation, `Effect.Mirrors` and `Effect.mirrors_bind` relate one with notes to one without.
* Hosts.  `Host.Keeps.fetch`, `Host.Keeps.noting` and `Host.keeps_true_iff`.
* Runs.  `Host.Preserves.execute` carries an invariant through a run, and `Program.execute_noting`
  says that a run that takes notes is the run without them.
-/

namespace CaseScript

variable {σ ε α β : Type}

/-! ## Computations -/

namespace Effect

/-- In a world with the invariant the computation leaves one with it, and what it gives has the
property. -/
def Ensures (effect : Effect σ ε α) (inv : σ → Prop) (post : α → Prop) : Prop :=
  ∀ world, inv world → inv (effect.run world).2 ∧
    ∀ value, (effect.run world).1 = .ok value → post value

variable {inv : σ → Prop} {post : α → Prop} {after : β → Prop}

theorem ensures_pure {value : α} (h : post value) :
    Ensures (pure value : Effect σ ε α) inv post := by
  intro world hworld
  refine ⟨hworld, ?_⟩
  rintro _ ⟨⟩
  exact h

theorem ensures_bind {first : Effect σ ε α} {next : α → Effect σ ε β}
    (hfirst : first.Ensures inv post)
    (hnext : ∀ value, post value → (next value).Ensures inv after) :
    (first >>= next).Ensures inv after := by
  intro world hworld
  obtain ⟨hkept, hvalue⟩ := hfirst world hworld
  rw [run_bind]
  cases hrun : first.run world with
  | mk result world' =>
    rw [hrun] at hkept hvalue
    cases result with
    | error error => exact ⟨hkept, by simp⟩
    | ok value => exact hnext value (hvalue value rfl) world' hkept

/-- The computation with more notes at the end. -/
def noting {ν : Type} (notes : List ν) (effect : Effect σ ε α) : Effect (σ × List ν) ε α :=
  ExceptT.mk fun world =>
    ((effect.run world.1).1, (effect.run world.1).2, world.2 ++ notes)

/-- The first computation does what the second one does, and may take notes. -/
def Mirrors {ν : Type} (noted : Effect (σ × List ν) ε α) (plain : Effect σ ε α) : Prop :=
  ∀ world notes, ∃ more,
    noted.run (world, notes) = ((plain.run world).1, (plain.run world).2, notes ++ more)

variable {ν : Type}

theorem ensures_noting {effect : Effect σ ε α} {notes : List ν} {good : ν → Prop}
    (h : effect.Ensures inv post) (hnotes : ∀ note ∈ notes, good note) :
    (effect.noting notes).Ensures
      (fun world => inv world.1 ∧ ∀ note ∈ world.2, good note) post := by
  rintro ⟨world, before⟩ ⟨hworld, hbefore⟩
  obtain ⟨hkept, hvalue⟩ := h world hworld
  refine ⟨⟨hkept, ?_⟩, hvalue⟩
  intro note hnote
  rcases List.mem_append.1 hnote with hnote | hnote
  · exact hbefore note hnote
  · exact hnotes note hnote

theorem mirrors_noting (notes : List ν) (effect : Effect σ ε α) :
    (effect.noting notes).Mirrors effect :=
  fun _ _ => ⟨notes, rfl⟩

theorem mirrors_pure (value : α) :
    Mirrors (pure value : Effect (σ × List ν) ε α) (pure value) :=
  fun _ notes => ⟨[], by simp⟩

theorem mirrors_bind {noted : Effect (σ × List ν) ε α} {plain : Effect σ ε α}
    {next : α → Effect (σ × List ν) ε β} {next' : α → Effect σ ε β}
    (hfirst : noted.Mirrors plain) (hnext : ∀ value, (next value).Mirrors (next' value)) :
    (noted >>= next).Mirrors (plain >>= next') := by
  intro world notes
  obtain ⟨more, hmore⟩ := hfirst world notes
  rw [run_bind, run_bind, hmore]
  rcases plain.run world with ⟨error | value, world⟩
  · exact ⟨more, rfl⟩
  · obtain ⟨rest, hrest⟩ := hnext value world (notes ++ more)
    exact ⟨more ++ rest, by rw [← List.append_assoc]; exact hrest⟩

end Effect

/-! ## Hosts -/

/-- In worlds with the invariant the host gives only valid tables, and it leaves the invariant as
long as the tables that it is handed are valid. -/
structure Host.Keeps (host : Host σ) (inv : σ → Prop) : Prop where
  readTable : ∀ path, (host.readTable path).Ensures inv Table.Valid
  writeTable : ∀ path (table : Table), table.Valid →
    (host.writeTable path table).Ensures inv fun _ => True
  readQuery : ∀ path, (host.readQuery path).Ensures inv fun _ => True
  render : ∀ bindings text, (host.render bindings text).Ensures inv fun _ => True
  answer : ∀ call, (host.answer call).Ensures inv Table.Valid

/-- The host leaves an invariant of its worlds with the requests of a load, also where they fail. -/
structure Host.KeepsOnLoad (host : Host σ) (inv : σ → Prop) : Prop where
  readTable : ∀ path, (host.readTable path).Ensures inv fun _ => True
  readQuery : ∀ path, (host.readQuery path).Ensures inv fun _ => True
  render : ∀ bindings text, (host.render bindings text).Ensures inv fun _ => True
  answer : ∀ call, (host.answer call).Ensures inv fun _ => True

/-- The host leaves an invariant of its worlds with every request. -/
structure Host.Preserves (host : Host σ) (inv : σ → Prop) : Prop extends
    host.KeepsOnLoad inv where
  writeTable : ∀ path table, (host.writeTable path table).Ensures inv fun _ => True

/-- The host that also notes the tables it is handed to write, the first one first. -/
def Host.noting (host : Host σ) : Host (σ × List Table) where
  readTable path := (host.readTable path).noting []
  writeTable path table := (host.writeTable path table).noting [table]
  readQuery path := (host.readQuery path).noting []
  render bindings text := (host.render bindings text).noting []
  answer call := (host.answer call).noting []

section Contracts

variable {host : Host σ} {inv : σ → Prop} (settings : Settings)

theorem Host.Keeps.renderQuery (h : host.Keeps inv) (text : String) :
    (settings.renderQuery host text).Ensures inv fun _ => True := by
  unfold Settings.renderQuery
  split
  · exact Effect.ensures_pure trivial
  · exact h.render settings.bindings text

theorem Host.Keeps.ask (h : host.Keeps inv) (connection text : String) :
    (settings.ask host connection text).Ensures inv Table.Valid :=
  Effect.ensures_bind (h.renderQuery settings text) fun _ _ => h.answer _

/-- Every source gives a valid table. -/
theorem Host.Keeps.fetch (h : host.Keeps inv) (source : Source) :
    (source.fetch host settings).Ensures inv Table.Valid := by
  cases source with
  | file path => exact h.readTable _
  | queryFile path connection =>
    exact Effect.ensures_bind (h.readQuery _) fun text _ => h.ask settings connection text
  | queryText text connection => exact h.ask settings connection text

/-- Noted tables are valid where those that are handed over are. -/
theorem Host.Keeps.noting (h : host.Keeps inv) :
    host.noting.Keeps fun world => inv world.1 ∧ ∀ table ∈ world.2, table.Valid where
  readTable path := Effect.ensures_noting (h.readTable path) (by simp)
  writeTable path table htable :=
    Effect.ensures_noting (h.writeTable path table htable) (by simpa using htable)
  readQuery path := Effect.ensures_noting (h.readQuery path) (by simp)
  render bindings text := Effect.ensures_noting (h.render bindings text) (by simp)
  answer call := Effect.ensures_noting (h.answer call) (by simp)

/-- A host whose worlds need no invariant: every table that it gives is valid. -/
theorem Host.keeps_true_iff :
    host.Keeps (fun _ => True) ↔
      (∀ path world table, ((host.readTable path).run world).1 = .ok table → table.Valid) ∧
        ∀ call world table, ((host.answer call).run world).1 = .ok table → table.Valid := by
  constructor
  · intro h
    exact ⟨fun path world table => (h.readTable path world trivial).2 table,
      fun call world table => (h.answer call world trivial).2 table⟩
  · intro h
    rcases h with ⟨hread, hanswer⟩
    exact {
      readTable := fun path world _ => ⟨trivial, hread path world⟩
      writeTable := fun path table _ world _ => ⟨trivial, fun _ _ => trivial⟩
      readQuery := fun path world _ => ⟨trivial, fun _ _ => trivial⟩
      render := fun bindings text world _ => ⟨trivial, fun _ _ => trivial⟩
      answer := fun call world _ => ⟨trivial, hanswer call world⟩ }

end Contracts

/-! ## Runs -/

section Invariants

variable {host : Host σ} {inv : σ → Prop} {world : σ} (settings : Settings)

theorem Host.KeepsOnLoad.renderQuery (h : host.KeepsOnLoad inv) (text : String) :
    (settings.renderQuery host text).Ensures inv fun _ => True := by
  unfold Settings.renderQuery
  split
  · exact Effect.ensures_pure trivial
  · exact h.render settings.bindings text

theorem Host.KeepsOnLoad.ask (h : host.KeepsOnLoad inv) (connection text : String) :
    (settings.ask host connection text).Ensures inv fun _ => True :=
  Effect.ensures_bind (h.renderQuery settings text) fun _ _ => h.answer _

theorem Host.KeepsOnLoad.fetch (h : host.KeepsOnLoad inv) (source : Source) :
    (source.fetch host settings).Ensures inv fun _ => True := by
  cases source with
  | file path => exact h.readTable _
  | queryFile path connection =>
    exact Effect.ensures_bind (h.readQuery _) fun text _ => h.ask settings connection text
  | queryText text connection => exact h.ask settings connection text

variable [RegexLibrary]

/-- What the requests of a load leave, every action but a save leaves. -/
theorem Host.KeepsOnLoad.apply (h : host.KeepsOnLoad inv) (hworld : inv world) (state : RunState)
    {action : Action} (hsave : ∀ path, action ≠ .save path) :
    inv ((action.apply host settings state).run world).2 := by
  cases hext : action.isExternal with
  | false =>
    rw [Action.run_apply_inside _ _ _ _ hext]
    exact hworld
  | true =>
    cases action with
    | load source =>
      have hfetch := (h.fetch settings source world hworld).1
      rw [Action.run_apply_load]
      rcases hrun : (source.fetch host settings).run world with ⟨_ | _, after⟩
      all_goals
        rw [hrun] at hfetch
        exact hfetch
    | save path => exact absurd rfl (hsave path)
    | _ => cases hext

theorem Host.Preserves.apply (h : host.Preserves inv) (hworld : inv world) (state : RunState)
    (action : Action) : inv ((action.apply host settings state).run world).2 := by
  cases action with
  | save path =>
    have hwrite := (h.writeTable (settings.resolve ⟨path⟩) state.active world hworld).1
    rw [Action.run_apply_save]
    rcases hrun : (host.writeTable (settings.resolve ⟨path⟩) state.active).run world with
      ⟨_ | _, after⟩
    all_goals
      rw [hrun] at hwrite
      exact hwrite
  | _ => exact h.toKeepsOnLoad.apply settings hworld state (by simp)

theorem Host.Preserves.runFrom (h : host.Preserves inv) (hworld : inv world) (index : Nat)
    (program : Program) (state : RunState) :
    inv (program.runFrom host settings index state world).world := by
  induction program generalizing index state world with
  | nil => exact hworld
  | cons action program ih =>
    have hstep := h.apply settings hworld state action
    rw [Program.runFrom]
    rcases hrun : (action.apply host settings state).run world with ⟨cause | next, after⟩
    · rw [hrun] at hstep
      exact hstep
    · rw [hrun] at hstep
      exact ih hstep (index + 1) next

/-- What every request leaves, every run leaves. -/
theorem Host.Preserves.execute (h : host.Preserves inv) (hworld : inv world) (program : Program)
    (state : RunState) : inv (program.execute host settings state world).world := by
  unfold Program.execute
  dsimp only
  split
  · exact hworld
  · exact h.runFrom settings hworld 0 program state

end Invariants

section Notes

variable (host : Host σ) (settings : Settings)

theorem Settings.mirrors_ask (connection text : String) :
    (settings.ask host.noting connection text).Mirrors (settings.ask host connection text) := by
  refine Effect.mirrors_bind ?_ fun _ => Effect.mirrors_noting _ _
  unfold Settings.renderQuery
  split
  · exact Effect.mirrors_pure text
  · exact Effect.mirrors_noting _ _

theorem Source.mirrors_fetch (source : Source) :
    (source.fetch host.noting settings).Mirrors (source.fetch host settings) := by
  cases source with
  | file path => exact Effect.mirrors_noting _ _
  | queryFile path connection =>
    exact Effect.mirrors_bind (Effect.mirrors_noting _ _) fun text =>
      settings.mirrors_ask host connection text
  | queryText text connection => exact settings.mirrors_ask host connection text

variable [RegexLibrary]

theorem Action.mirrors_apply (state : RunState) (action : Action) :
    (action.apply host.noting settings state).Mirrors (action.apply host settings state) := by
  intro world notes
  cases hext : action.isExternal with
  | false =>
    rw [run_apply_inside _ _ _ _ hext, run_apply_inside _ _ _ _ hext]
    exact ⟨[], by simp⟩
  | true =>
    cases action with
    | load source =>
      obtain ⟨more, hmore⟩ := source.mirrors_fetch host settings world notes
      refine ⟨more, ?_⟩
      rw [run_apply_load, run_apply_load, hmore]
      rcases (source.fetch host settings).run world with ⟨_ | _, _⟩ <;> rfl
    | save path =>
      obtain ⟨more, hmore⟩ : ∃ more,
          (host.noting.writeTable (settings.resolve ⟨path⟩) state.active).run (world, notes) =
            (((host.writeTable (settings.resolve ⟨path⟩) state.active).run world).1,
              ((host.writeTable (settings.resolve ⟨path⟩) state.active).run world).2,
              notes ++ more) := Effect.mirrors_noting _ _ world notes
      refine ⟨more, ?_⟩
      rw [run_apply_save, run_apply_save, hmore]
      rcases (host.writeTable (settings.resolve ⟨path⟩) state.active).run world with
        ⟨_ | _, _⟩ <;> rfl
    | _ => simp [isExternal] at hext

/-- A run that takes notes is the run without them. -/
theorem Program.runFrom_noting (index : Nat) (program : Program) (state : RunState) (world : σ)
    (notes : List Table) :
    ∃ more, program.runFrom host.noting settings index state (world, notes) =
      let outcome := program.runFrom host settings index state world
      ⟨outcome.state, (outcome.world, notes ++ more), outcome.error⟩ := by
  induction program generalizing index state world notes with
  | nil => exact ⟨[], by simp [runFrom]⟩
  | cons action program ih =>
    obtain ⟨more, hmore⟩ := action.mirrors_apply host settings state world notes
    simp only [runFrom, hmore]
    rcases (action.apply host settings state).run world with ⟨error | next, after⟩
    · exact ⟨more, rfl⟩
    · obtain ⟨rest, hrest⟩ := ih (index + 1) next after (notes ++ more)
      refine ⟨more ++ rest, ?_⟩
      rw [← List.append_assoc]
      exact hrest

theorem Program.execute_noting (program : Program) (state : RunState) (world : σ) :
    ∃ notes, program.execute host.noting settings state (world, []) =
      let outcome := program.execute host settings state world
      ⟨outcome.state, (outcome.world, notes), outcome.error⟩ := by
  unfold execute
  dsimp only
  split
  · exact ⟨[], rfl⟩
  · exact program.runFrom_noting host settings 0 state world []

end Notes

end CaseScript
