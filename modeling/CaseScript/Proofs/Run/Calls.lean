import CaseScript.Proofs.Run.Failure
import CaseScript.Proofs.Run.Host
import CaseScript.Proofs.Run.Point
import CaseScript.Proofs.World
import Mathlib.Data.List.Basic

/-!
# The calls of a run

What a run asks of the outside is what its actions say, in their order and once each, up to the
action that fails.  A script that is not read, or that is stopped by the check beforehand, asks for
nothing.

There are six groups.

* Calls.  `Host.recording` is a host that also records its calls, `Action.calls` says which calls an
  action makes and `Program.calls` which ones a run makes.
* Steps.  `Action.run_apply_recording`: an action on the recording host does what it does without
  the record, and its calls are added to the record.
* Runs.  `Program.execute_recording` carries that through a run.
* Records of query services.  `Host.Logs` says that a part of the world is a record of the queries,
  and `Host.Logs.execute` what a run adds to it.
* Inside and outside.  `Program.cause_of_execute` tells from the action that fails where the cause
  comes from, and `Program.execute_inside` is about programs without a load and a save.
* The result.  `performScript` runs a script, and `performScript_recording` is the result.
-/

namespace CaseScript

variable {σ τ : Type}

/-! ## Calls -/

/-- A call to what keeps table files or to what answers queries. -/
inductive Call where
  | read (path : Path)
  | write (path : Path) (table : Table)
  | query (call : QueryCall)
  deriving DecidableEq

/-- The query of a call, where it is one. -/
def Call.query? : Call → Option QueryCall
  | query call => some call
  | _ => none

/-- The host that also records its calls, the first one first. -/
def Host.recording (host : Host σ) : Host (σ × List Call) where
  readTable path := (host.readTable path).noting [.read path]
  writeTable path table := (host.writeTable path table).noting [.write path table]
  readQuery path := (host.readQuery path).noting []
  render bindings text := (host.render bindings text).noting []
  answer call := (host.answer call).noting [.query call]

/-- The host with another query service, whose record is kept beside the world. -/
def Host.withRunner (host : Host σ) (service : QueryService) : Host (σ × List QueryCall) where
  readTable path := (host.readTable path).noting []
  writeTable path table := (host.writeTable path table).noting []
  readQuery path := (host.readQuery path).noting []
  render bindings text := (host.render bindings text).noting []
  answer call := ExceptT.mk fun world =>
    (service.answer call, (world.1, service.record world.2 call))

section Calls

variable (host : Host σ) (settings : Settings)

/-- The calls for the query with the given text.  Without any variable the text is asked as it is,
and otherwise the rendered text is; where rendering fails nothing is asked. -/
def queryCalls (connection text : String) (world : σ) : List Call :=
  if settings.bindings.isEmpty then [.query ⟨connection, text⟩]
  else match ((host.render settings.bindings text).run world).1 with
    | .ok query => [.query ⟨connection, query⟩]
    | .error _ => []

/-- The calls for the table of a source.  Where a query file is not read nothing is asked. -/
def Source.calls (world : σ) : Source → List Call
  | file path => [.read (settings.resolve ⟨path⟩)]
  | queryFile path connection =>
    match (host.readQuery (settings.resolve ⟨path⟩)).run world with
    | (.ok text, after) => queryCalls host settings connection text after
    | (.error _, _) => []
  | queryText text connection => queryCalls host settings connection text world

/-- The calls of an action. -/
def Action.calls (state : RunState) (world : σ) : Action → List Call
  | load source => source.calls host settings world
  | save path => [.write (settings.resolve ⟨path⟩) state.active]
  | _ => []

namespace Program

/-- The actions up to the one that an error names; all of them where there is no error. -/
def upThrough (program : Program) : Option RunError → Program
  | none => program
  | some error => program.take (error.index + 1)

@[simp] theorem upThrough_later (action : Action) (program : Program) (error : Option RunError) :
    upThrough (action :: program) (error.map (·.later 1)) =
      action :: program.upThrough error := by
  cases error <;> rfl

/-- The actions that a run begins: those up to the one that fails, and none where the check
beforehand stops the run. -/
def begun [RegexLibrary] (program : Program) (state : RunState) (world : σ) : Program :=
  match program.fault? settings state.scopes with
  | some _ => []
  | none => program.upThrough (program.execute host settings state world).error

/-- The calls of a run: those of the actions that it begins, each from the point before it. -/
def calls [RegexLibrary] (program : Program) (state : RunState) (world : σ) : List Call :=
  (program.begun host settings state world).zipIdx.flatMap fun (action, place) =>
    let before := program.point host settings state world place
    action.calls host settings before.state before.world

end Program

end Calls

/-! ## Steps -/

section Steps

variable (host : Host σ) (settings : Settings)

theorem Settings.run_ask_recording (connection text : String) (world : σ) (calls : List Call) :
    (settings.ask host.recording connection text).run (world, calls) =
      (((settings.ask host connection text).run world).1,
        ((settings.ask host connection text).run world).2,
        calls ++ queryCalls host settings connection text world) := by
  unfold ask renderQuery queryCalls
  by_cases hempty : settings.bindings.isEmpty
  · rw [if_pos hempty, if_pos hempty, if_pos hempty]
    rfl
  · have hrender : (host.recording.render settings.bindings text).run (world, calls) =
        (((host.render settings.bindings text).run world).1,
          ((host.render settings.bindings text).run world).2, calls ++ []) := rfl
    rw [if_neg hempty, if_neg hempty, if_neg hempty, Effect.run_bind, Effect.run_bind, hrender,
      List.append_nil]
    rcases (host.render settings.bindings text).run world with ⟨error | query, after⟩
    · dsimp only
      rw [List.append_nil]
    · rfl

theorem Source.run_fetch_recording (source : Source) (world : σ) (calls : List Call) :
    (source.fetch host.recording settings).run (world, calls) =
      (((source.fetch host settings).run world).1, ((source.fetch host settings).run world).2,
        calls ++ source.calls host settings world) := by
  cases source with
  | file path => rfl
  | queryText text connection => exact settings.run_ask_recording host connection text world calls
  | queryFile path connection =>
    have hread : (host.recording.readQuery (settings.resolve ⟨path⟩)).run (world, calls) =
        (((host.readQuery (settings.resolve ⟨path⟩)).run world).1,
          ((host.readQuery (settings.resolve ⟨path⟩)).run world).2, calls ++ []) := rfl
    rw [fetch, fetch, Source.calls, Effect.run_bind, Effect.run_bind, hread, List.append_nil]
    rcases (host.readQuery (settings.resolve ⟨path⟩)).run world with ⟨error | text, after⟩
    · dsimp only
      rw [List.append_nil]
    · exact settings.run_ask_recording host connection text after calls

/-- An action does on the recording host what it does without the record, and adds its calls. -/
theorem Action.run_apply_recording [RegexLibrary] (action : Action) (state : RunState) (world : σ)
    (calls : List Call) :
    (action.apply host.recording settings state).run (world, calls) =
      (((action.apply host settings state).run world).1,
        ((action.apply host settings state).run world).2,
        calls ++ action.calls host settings state world) := by
  cases hext : action.isExternal with
  | false =>
    have hnone : action.calls host settings state world = [] := by
      cases action with
      | load | save => cases hext
      | _ => rfl
    rw [run_apply_inside _ _ _ _ hext, run_apply_inside _ _ _ _ hext, hnone, List.append_nil]
  | true =>
    cases action with
    | load source =>
      rw [run_apply_load, run_apply_load, source.run_fetch_recording host settings, Action.calls]
      rcases (source.fetch host settings).run world with ⟨_ | _, _⟩ <;> rfl
    | save path =>
      have hwrite : (host.recording.writeTable (settings.resolve ⟨path⟩) state.active).run
          (world, calls) =
          (((host.writeTable (settings.resolve ⟨path⟩) state.active).run world).1,
            ((host.writeTable (settings.resolve ⟨path⟩) state.active).run world).2,
            calls ++ [.write (settings.resolve ⟨path⟩) state.active]) := rfl
      rw [run_apply_save, run_apply_save, hwrite]
      rcases (host.writeTable (settings.resolve ⟨path⟩) state.active).run world with
        ⟨_ | _, _⟩ <;> rfl
    | _ => cases hext

end Steps

/-! ## Runs -/

namespace Program

section Runs

variable [RegexLibrary] (host : Host σ) (settings : Settings)

/-- The calls of an action at a place of a program, from what the actions before it leave behind. -/
def callsAt (program : Program) (state : RunState) (world : σ) (step : Action × Nat) : List Call :=
  let before := runFrom host settings 0 (program.take step.2) state world
  step.1.calls host settings before.state before.world

/-- A later place is a place of the program without its first action. -/
theorem callsAt_cons {action : Action} {program : Program} {state next : RunState}
    {world after : σ} (h : (action.apply host settings state).run world = (.ok next, after))
    (step : Action × Nat) :
    callsAt host settings (action :: program) state world (step.1, step.2 + 1) =
      program.callsAt host settings next after step := by
  unfold callsAt
  dsimp only
  rw [List.take_succ_cons, runFrom_cons_ok host settings h]
  rfl

/-- A run on the recording host is the run without the record, and each action up to the one that
fails adds its calls to the record. -/
theorem runFrom_recording (program : Program) (state : RunState) (world : σ) (calls : List Call) :
    program.runFrom host.recording settings 0 state (world, calls) =
      let outcome := program.runFrom host settings 0 state world
      let added := (program.upThrough outcome.error).zipIdx.flatMap
        (program.callsAt host settings state world)
      ⟨outcome.state, (outcome.world, calls ++ added), outcome.error⟩ := by
  induction program generalizing state world calls with
  | nil => simp [runFrom, upThrough]
  | cons action program ih =>
    have hrecording := action.run_apply_recording host settings state world calls
    cases hstep : (action.apply host settings state).run world with
    | mk result after =>
      rw [hstep] at hrecording
      cases result with
      | error cause =>
        rw [runFrom, runFrom, hrecording, hstep]
        simp [upThrough, RunError.ofStep, callsAt, runFrom]
      | ok next =>
        -- the actions behind the first one start from what this one leaves behind
        have hlater : ∀ steps : Program,
            (steps.zipIdx 1).flatMap (callsAt host settings (action :: program) state world) =
              steps.zipIdx.flatMap (callsAt host settings program next after) := by
          intro steps
          rw [List.zipIdx_succ, List.flatMap_map]
          exact List.flatMap_congr fun step _ => callsAt_cons host settings hstep step
        have hfirst : callsAt host settings (action :: program) state world (action, 0) =
            action.calls host settings state world := rfl
        rw [runFrom_cons_ok _ _ hrecording, runFrom_cons_ok _ _ hstep, ih]
        simp only [Outcome.later, upThrough_later, List.zipIdx_cons, List.flatMap_cons, hfirst,
          hlater, List.append_assoc, Nat.zero_add]

/-- A run on the recording host is the run without the record, and the calls of the run are added to
the record. -/
theorem execute_recording (program : Program) (state : RunState) (world : σ) (calls : List Call) :
    program.execute host.recording settings state (world, calls) =
      let outcome := program.execute host settings state world
      ⟨outcome.state,
        (outcome.world, calls ++ program.calls host settings state world),
        outcome.error⟩ := by
  unfold Program.calls begun
  cases hfault : program.fault? settings state.scopes with
  | some fault =>
    rw [execute_of_fault?_eq_some _ hfault, execute_of_fault?_eq_some _ hfault]
    simp
  | none =>
    rw [execute_of_fault?_eq_none _ hfault, execute_of_fault?_eq_none _ hfault,
      runFrom_recording]
    simp only [point_of_fault?_eq_none hfault]
    rfl

end Runs

end Program

/-! ## Records of query services -/

section Records

variable {host : Host σ} {log : σ → List QueryCall}

/-- A part of the world is a record of the queries that are asked, and of nothing else. -/
structure Host.Logs (host : Host σ) (log : σ → List QueryCall) : Prop where
  readTable : ∀ path world, log ((host.readTable path).run world).2 = log world
  writeTable : ∀ path table world, log ((host.writeTable path table).run world).2 = log world
  readQuery : ∀ path world, log ((host.readQuery path).run world).2 = log world
  render : ∀ bindings text world, log ((host.render bindings text).run world).2 = log world
  answer : ∀ call world, log ((host.answer call).run world).2 = log world ++ [call]

theorem Host.logs_withRunner (host : Host σ) (book : AnswerBook) (failure : Option SourceError) :
    (host.withRunner (.recording book failure)).Logs Prod.snd where
  readTable _ _ := List.append_nil _
  writeTable _ _ _ := List.append_nil _
  readQuery _ _ := List.append_nil _
  render _ _ _ := List.append_nil _
  answer _ _ := rfl

/-- The part of a request in the recorded calls is its part in the record of the service. -/
theorem Effect.ensures_recorded {ε α : Type} {effect : Effect σ ε α} {added : List Call}
    (h : ∀ world, log (effect.run world).2 = log world ++ added.filterMap Call.query?)
    (start : List QueryCall) :
    (effect.noting added).Ensures
      (fun world => log world.1 = start ++ world.2.filterMap Call.query?) fun _ => True := by
  rintro ⟨world, calls⟩ hworld
  refine ⟨?_, fun _ _ => trivial⟩
  have hlog : log (effect.run world).2 =
      start ++ (calls ++ added).filterMap Call.query? := by
    rw [h world, hworld, List.filterMap_append, List.append_assoc]
  exact hlog

theorem Host.Logs.preserves (h : host.Logs log) (start : List QueryCall) :
    host.recording.Preserves fun world =>
      log world.1 = start ++ world.2.filterMap Call.query? where
  readTable path := Effect.ensures_recorded (by simp [h.readTable, Call.query?]) start
  writeTable path table := Effect.ensures_recorded (by simp [h.writeTable, Call.query?]) start
  readQuery path := Effect.ensures_recorded (by simp [h.readQuery]) start
  render bindings text := Effect.ensures_recorded (by simp [h.render]) start
  answer call := Effect.ensures_recorded (by simp [h.answer, Call.query?]) start

/-- After a run the record holds the queries among the calls of the run, behind what it held. -/
theorem Host.Logs.execute [RegexLibrary] (h : host.Logs log) (settings : Settings)
    (program : Program) (state : RunState) (world : σ) :
    log (program.execute host settings state world).world =
      log world ++ (program.calls host settings state world).filterMap Call.query? := by
  have hkept : log (program.execute host.recording settings state (world, [])).world.1 =
      log world ++
        (program.execute host.recording settings state (world, [])).world.2.filterMap
          Call.query? :=
    (h.preserves (log world)).execute settings (by simp) program state
  rw [Program.execute_recording, List.nil_append] at hkept
  exact hkept

end Records

theorem World.host_logs (store : TableStore) (book : AnswerBook) (failure : Option SourceError) :
    (World.host store (.recording book failure)).Logs World.calls where
  readTable path world := by rw [run_readTable]
  writeTable path table world := by
    rw [run_writeTable]
    split
    · rename_i after hafter
      rcases eq_of_withTable hafter with rfl | ⟨disk, rfl⟩ <;> rfl
    · rfl
  readQuery path world := by rw [run_readQuery]
  render bindings text world := by rw [run_render]
  answer call world := by
    rw [run_answer]
    rfl

/-- With the query service that keeps a record, the record of a world in memory holds the queries
among the calls of a run. -/
theorem World.calls_execute [RegexLibrary] (store : TableStore) (book : AnswerBook)
    (failure : Option SourceError) (settings : Settings) (program : Program) (state : RunState)
    (world : World) :
    let host := World.host store (.recording book failure)
    (program.execute host settings state world).world.calls =
      world.calls ++ (program.calls host settings state world).filterMap Call.query? :=
  (World.host_logs store book failure).execute settings program state world

/-! ## Inside and outside -/

section Kinds

variable {host : Host σ} {settings : Settings}

/-- An action that looks up a scope stays inside. -/
theorem Action.isExternal_of_mem_scopeReads {action : Action} {name : String}
    (h : name ∈ action.scopeReads) : action.isExternal = false := by
  cases action with
  | load | save => cases h
  | _ => rfl

/-- The cause of a failure comes from outside just where the action at its place reaches outside. -/
theorem Program.cause_of_execute [RegexLibrary] {program : Program} {state : RunState} {world : σ}
    {error : RunError}
    (h : (program.execute host settings state world).error = some error) :
    ∃ action, program[error.index]? = some action ∧
      ((∃ cause, error.cause = .source cause) ↔ action.isExternal = true) := by
  cases hfault : program.fault? settings state.scopes with
  | some fault =>
    rw [execute_of_fault?_eq_some world hfault] at h
    cases h
    unfold fault? at hfault
    split at hfault
    · -- the check beforehand stops a run at an action that looks up a scope, so at none outside
      obtain ⟨place, action, name, hplace, hname, rfl⟩ := unknownScope?_eq_some hfault
      refine ⟨action, by simpa [RunError.ofStep] using hplace, ?_⟩
      simp [RunError.ofStep, Action.isExternal_of_mem_scopeReads hname]
    · cases hfault
  | none =>
    obtain ⟨action, before, hget, -, -, hfailed⟩ := execute_failure_of_fault?_eq_none hfault h
    refine ⟨action, hget, ?_⟩
    rcases Action.run_apply_eq_error hfailed with ⟨hext, hcause⟩ | ⟨hext, -, cause, hcause, -⟩
    · exact ⟨fun _ => hext, fun _ => hcause⟩
    · rw [hcause, hext]
      simp

/-- Without a load and a save a run leaves the world alone, and the host and the settings say
nothing to it once it has started. -/
theorem Program.runFrom_inside [RegexLibrary] {program : Program}
    (h : ∀ action ∈ program, action.isExternal = false) (host : Host σ) (other : Host τ)
    (settings settings' : Settings) (index : Nat) (state : RunState) (world : σ) (world' : τ) :
    program.runFrom host settings index state world =
      let outcome := program.runFrom other settings' index state world'
      ⟨outcome.state, world, outcome.error⟩ := by
  induction program generalizing index state with
  | nil => rfl
  | cons action program ih =>
    obtain ⟨haction, hprogram⟩ := List.forall_mem_cons.1 h
    rw [runFrom, runFrom, Action.run_apply_inside _ _ _ _ haction,
      Action.run_apply_inside _ _ _ _ haction]
    cases action.edit state with
    | error error => rfl
    | ok next => exact ih hprogram (index + 1) next

theorem Program.execute_inside [RegexLibrary] {program : Program}
    (h : ∀ action ∈ program, action.isExternal = false) (host : Host σ) (other : Host τ)
    {settings settings' : Settings} (hcheck : settings.checkScopes = settings'.checkScopes)
    (state : RunState) (world : σ) (world' : τ) :
    program.execute host settings state world =
      let outcome := program.execute other settings' state world'
      ⟨outcome.state, world, outcome.error⟩ := by
  have hfault : program.fault? settings' state.scopes = program.fault? settings state.scopes := by
    unfold fault?
    rw [hcheck]
  rw [execute_eq, execute_eq, hfault]
  cases program.fault? settings state.scopes with
  | some fault => rfl
  | none => exact runFrom_inside h host other settings settings' 0 state world world'

end Kinds

/-! ## The result -/

/-- Why a script gives no tables. -/
inductive ScriptError where
  /-- It is no program. -/
  | unreadable (error : SyntaxError)
  | failed (error : RunError)

section Scripts

variable [RegexLibrary] (host : Host σ) (settings : Settings)

/-- A script as one effect: what `runScript` gives, and the world that it leaves behind. -/
def performScript (script : String) : Effect σ ScriptError RunState :=
  ExceptT.mk fun world =>
    match runScript host settings script world with
    | .error error => (.error (.unreadable error), world)
    | .ok outcome =>
      match outcome.error with
      | some error => (.error (.failed error), outcome.world)
      | none => (.ok outcome.state, outcome.world)

/-- The calls of a script: those of its program, and none where it is no program. -/
def scriptCalls (script : String) (world : σ) : List Call :=
  match Program.parse script with
  | .error _ => []
  | .ok program => program.calls host settings .empty world

theorem performScript_of_parse_eq_error {script : String} {error : SyntaxError}
    (h : Program.parse script = .error error) (world : σ) :
    (performScript host settings script).run world = (.error (.unreadable error), world) := by
  unfold performScript runScript
  rw [ExceptT.run_mk, h]
  rfl

theorem performScript_of_parse_eq_ok {script : String} {program : Program}
    (h : Program.parse script = .ok program) (world : σ) :
    (performScript host settings script).run world =
      let outcome := program.execute host settings .empty world
      match outcome.error with
      | some error => (.error (.failed error), outcome.world)
      | none => (.ok outcome.state, outcome.world) := by
  unfold performScript runScript
  rw [ExceptT.run_mk, h]
  rfl

/-- A script on the recording host gives what it gives without the record, and its calls are added
to the record. -/
theorem run_performScript_recording (script : String) (world : σ) (calls : List Call) :
    (performScript host.recording settings script).run (world, calls) =
      let result := (performScript host settings script).run world
      (result.1, result.2, calls ++ scriptCalls host settings script world) := by
  unfold scriptCalls
  cases hparse : Program.parse script with
  | error error =>
    rw [performScript_of_parse_eq_error _ _ hparse, performScript_of_parse_eq_error _ _ hparse]
    simp
  | ok program =>
    rw [performScript_of_parse_eq_ok _ _ hparse, performScript_of_parse_eq_ok _ _ hparse,
      Program.execute_recording]
    dsimp only
    cases (program.execute host settings .empty world).error <;> rfl

variable {host}

theorem Host.Logs.performScript {log : σ → List QueryCall} (h : host.Logs log) (script : String)
    (world : σ) :
    log ((performScript host settings script).run world).2 =
      log world ++ (scriptCalls host settings script world).filterMap Call.query? := by
  unfold scriptCalls
  cases hparse : Program.parse script with
  | error error =>
    rw [performScript_of_parse_eq_error _ _ hparse]
    simp
  | ok program =>
    rw [performScript_of_parse_eq_ok _ _ hparse]
    dsimp only
    rw [← h.execute settings program .empty world]
    cases (program.execute host settings .empty world).error <;> rfl

end Scripts

/-- What reaches the outside follows the program.

* A script calls for nothing when it is not read or is stopped by the check beforehand, and
  otherwise makes the calls of its actions up to the one that fails, in their order and once each;
  apart from the record everything is as without it.
* A query service that keeps a record has recorded the queries among these calls.
* An action that stays inside calls for nothing and leaves the world alone.
* The cause of a failure comes from outside just where the action at its place reaches outside.
* Without a load and a save, the tables and the error are the same with every other host and all
  other settings, as long as these agree on whether the scopes are checked beforehand. -/
theorem performScript_recording [RegexLibrary] (host : Host σ) (settings : Settings) :
    (∀ script world calls,
      (performScript host.recording settings script).run (world, calls) =
        let result := (performScript host settings script).run world
        (result.1, result.2, calls ++ scriptCalls host settings script world)) ∧
    (∀ book failure script world log,
      let recorded := host.withRunner (.recording book failure)
      ((performScript recorded settings script).run (world, log)).2.2 =
        log ++ (scriptCalls recorded settings script (world, log)).filterMap Call.query?) ∧
    (∀ (action : Action) state world calls, action.isExternal = false →
      ((action.apply host.recording settings state).run (world, calls)).2 = (world, calls)) ∧
    (∀ (program : Program) state world error,
      (program.execute host settings state world).error = some error →
      ∃ action, program[error.index]? = some action ∧
        ((∃ cause, error.cause = .source cause) ↔ action.isExternal = true)) ∧
    ∀ {τ : Type} (other : Host τ) (settings' : Settings) (program : Program) state world world',
      (∀ action ∈ program, action.isExternal = false) →
      settings.checkScopes = settings'.checkScopes →
      program.execute host settings state world =
        let outcome := program.execute other settings' state world'
        ⟨outcome.state, world, outcome.error⟩ := by
  refine ⟨run_performScript_recording host settings, ?_, ?_, ?_, ?_⟩
  · intro book failure script world log
    exact (host.logs_withRunner book failure).performScript settings script (world, log)
  · intro action state world calls hext
    rw [Action.run_apply_inside _ _ _ _ hext]
  · intro program state world error h
    exact Program.cause_of_execute h
  · intro τ other settings' program state world world' hinside hcheck
    exact Program.execute_inside hinside host other hcheck state world world'

end CaseScript
