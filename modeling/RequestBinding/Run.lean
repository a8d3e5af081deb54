import RequestBinding.Failure
import RequestBinding.Log.Event

/-!
# Runs

A run works on a file tree, prints lines and tells events, and may fail. What it did before it
failed stays done.
-/

namespace RequestBinding

/-- What a run works on and what it has put out. -/
structure RunState where
  files : FileTree
  /-- The lines printed so far. -/
  printed : List String
  /-- The events told so far. -/
  events : List Event
deriving Repr

/-- The state before anything was done. -/
def RunState.of (files : FileTree) : RunState := ⟨files, [], []⟩

/-- The printed text. -/
def RunState.output (state : RunState) : String := String.join (state.printed.map (· ++ "\n"))

abbrev Run := ExceptT Failure (StateM RunState)

namespace Run

/-- Prints a line. -/
def print (line : String) : Run Unit :=
  modify fun state => { state with printed := state.printed ++ [line] }

/-- Tells events. -/
def tellAll (events : List Event) : Run Unit :=
  modify fun state => { state with events := state.events ++ events }

def tell (event : Event) : Run Unit := tellAll [event]

/-- The file tree as it is. -/
def files : Run FileTree := return (← get).files

/-- Replaces the file tree. -/
def setFiles (files : FileTree) : Run Unit := modify fun state => { state with files }

/-- The result of something that was done to a path. -/
def require (step : Step) (path : String) : Except FileError α → Run α
  | .ok a => pure a
  | .error e => throw (.during step path (.file e))

end Run

end RequestBinding
