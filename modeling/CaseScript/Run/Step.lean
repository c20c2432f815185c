import CaseScript.Run.Error
import CaseScript.Run.Host
import CaseScript.Scopes
import CaseScript.Settings.Basic
import CaseScript.Table.Columns
import CaseScript.Table.Combine
import CaseScript.Table.Filter

/-!
# Steps

What one action does.  `Action.edit` is what it does to the active table and the scopes by itself;
`Action.apply` adds what the actions `load` and `save` ask of the host.
-/

namespace CaseScript

/-- The tables of a run: the active one and those stored under names. -/
structure RunState where
  active : Table
  scopes : Scopes
  deriving DecidableEq

/-- No tables at all. -/
def RunState.empty : RunState := ⟨Table.blank, Scopes.empty⟩

/-- The state after an action that stays inside; an action that reaches outside changes nothing by
itself. -/
def Action.edit [RegexLibrary] (state : RunState) : Action → Except TableError RunState
  | load _ => .ok state
  | save _ => .ok state
  | remove column => do return { state with active := ← state.active.removeColumn column }
  | rename column name => do
    return { state with active := ← state.active.renameColumn column name }
  | move column direction => do
    return { state with active := ← state.active.moveColumn column direction }
  | filter column operator values negate => do
    return { state with active := ← state.active.filter column operator values negate }
  | distinct => .ok { state with active := state.active.distinct }
  | scope name => .ok { state with scopes := state.scopes.insert name state.active }
  | cross first second key => do
    let left ← state.scopes.get first
    let right ← state.scopes.get second
    match key with
    | none => return { state with active := ← left.cross right }
    | some column => return { state with active := ← left.join right column }
  | copy source target => do return { state with scopes := ← state.scopes.copy source target }
  | add column fill => do return { state with active := ← state.active.addColumn column fill }
  | merge name => do
    return { state with active := ← state.active.union (← state.scopes.get name) }

section Outside

variable {σ : Type}

/-- The text of a query with the values of variables in it.  Without any variable the text stays as
it is, and the host is not asked. -/
def Settings.renderQuery (settings : Settings) (host : Host σ) (text : String) :
    Effect σ SourceError String :=
  if settings.bindings.isEmpty then pure text else host.render settings.bindings text

/-- The answer to the query with the given text, once the values of variables stand in it. -/
def Settings.ask (settings : Settings) (host : Host σ) (connection text : String) :
    Effect σ SourceError Table := do
  let query ← settings.renderQuery host text
  host.answer ⟨connection, query⟩

/-- The table that a source gives. -/
def Source.fetch (host : Host σ) (settings : Settings) : Source → Effect σ SourceError Table
  | file path => host.readTable (settings.resolve ⟨path⟩)
  | queryFile path connection => do
    let text ← host.readQuery (settings.resolve ⟨path⟩)
    settings.ask host connection text
  | queryText text connection => settings.ask host connection text

/-- The state after an action. -/
def Action.apply [RegexLibrary] (host : Host σ) (settings : Settings) (state : RunState)
    (action : Action) : Effect σ StepError RunState :=
  match action with
  | load source => do
    let table ← (source.fetch host settings).adapt StepError.source
    return { state with active := table }
  | save path => do
    (host.writeTable (settings.resolve ⟨path⟩) state.active).adapt StepError.source
    return state
  | action => liftExcept ((action.edit state).mapError StepError.table)

end Outside

end CaseScript
