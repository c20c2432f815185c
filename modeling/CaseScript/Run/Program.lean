import CaseScript.Run.Step
import CaseScript.Syntax.Script

/-!
# Runs

A program runs action by action on a state, and each action sees what the ones before it did.  The
first failure ends the run; what was done before it stays done.

Where the settings ask for it, the scopes that a program looks up are checked before its first
action: each has to be there at the start or to be stored by an earlier action.
-/

namespace CaseScript

/-- The end of a run: the last state, the world, and the error if an action failed. -/
structure Outcome (σ : Type) where
  state : RunState
  world : σ
  error : Option RunError

namespace Program

variable {σ : Type}

/-- The error of the first action that looks up a scope before it is stored.  Scopes with the known
names are there at the start, and `index` actions come before the program. -/
def unknownScope? (known : List String) (index : Nat) : Program → Option RunError
  | [] => none
  | action :: program =>
    match action.scopeReads.find? fun name => !known.contains name with
    | some name => some (.ofStep index action (.table (.scopeNotFound name)))
    | none => unknownScope? (action.scopeWrite.toList ++ known) (index + 1) program

/-- Runs a program of which `index` actions have run already. -/
def runFrom [RegexLibrary] (host : Host σ) (settings : Settings) (index : Nat) :
    Program → RunState → σ → Outcome σ
  | [], state, world => ⟨state, world, none⟩
  | action :: program, state, world =>
    match (action.apply host settings state).run world with
    | (.ok next, world) => runFrom host settings (index + 1) program next world
    | (.error cause, world) => ⟨state, world, some (.ofStep index action cause)⟩

/-- Runs a program on a state. -/
def execute [RegexLibrary] (host : Host σ) (settings : Settings) (program : Program)
    (state : RunState) (world : σ) : Outcome σ :=
  let fault := if settings.checkScopes then program.unknownScope? state.scopes.names 0 else none
  match fault with
  | some error => ⟨state, world, some error⟩
  | none => program.runFrom host settings 0 state world

end Program

/-- Reads a script and runs its program from no tables at all; nothing runs if it is no program. -/
def runScript [RegexLibrary] {σ : Type} (host : Host σ) (settings : Settings) (script : String)
    (world : σ) : Except SyntaxError (Outcome σ) := do
  let program ← Program.parse script
  return program.execute host settings .empty world

end CaseScript
