import RequestBinding.ModuleName
import RequestBinding.Text.Quoted

/-!
# Output plans

Where bindings modules go: beside the sources of each directory, into one module for each directory,
or into one module for all. A plan is made from a strategy and the targets that were given, and is
checked against the directories before anything is read.
-/

namespace RequestBinding

inductive Strategy where
  | same
  | per
  | single
deriving Repr, DecidableEq

namespace Strategy

/-- The word for a strategy. -/
def word : Strategy → String
  | same => "same"
  | per => "per"
  | single => "single"

/-- The strategy with this word. -/
def ofWord? (word : String) : Option Strategy := [same, per, single].find? (·.word = word)

end Strategy

inductive OutputPlan where
  | sameLocation
  | perGroup (directory : String) (modules : List String)
  | singleGroup (directory module : String)
deriving Repr, DecidableEq

/-- Why there is no plan, or why it does not fit the directories. -/
inductive PlanError where
  | noDirectories
  | countMismatch (modules directories : Nat)
  | badModule (module : String)
  | perNeedsTargets
  | singleNeedsTarget
deriving Repr, DecidableEq

def PlanError.message : PlanError → String
  | noDirectories => "at least one input directory is required"
  | countMismatch modules directories =>
    s!"number of target packages ({modules}) must match number of input directories ({directories})"
  | badModule module => "target package " ++ Text.quoted module ++ " is not a valid module name"
  | perNeedsTargets => "per strategy requires --target-dir and --target-pkgs"
  | singleNeedsTarget => "single strategy requires --target-pkg and --target-dir"

namespace OutputPlan

/-- The plan of a strategy and the targets given for it. -/
def make (strategy : Strategy) (module directory : Option String) (modules : Option (List String)) :
    Except PlanError OutputPlan :=
  match strategy with
  | .same => .ok .sameLocation
  | .per =>
    match directory, modules with
    | some directory, some (module :: more) => .ok (.perGroup directory (module :: more))
    | _, _ => .error .perNeedsTargets
  | .single =>
    match module, directory with
    | some module, some directory =>
      if module.isEmpty then .error .singleNeedsTarget else .ok (.singleGroup directory module)
    | _, _ => .error .singleNeedsTarget

/-- The names of modules that the plan fixes. -/
def modules : OutputPlan → List String
  | sameLocation => []
  | perGroup _ modules => modules
  | singleGroup _ module => [module]

/-- How many directories the plan is for, if it says so. -/
def directoryCount? : OutputPlan → Option Nat
  | perGroup _ modules => some modules.length
  | _ => none

/-- What is wrong with the plan for so many directories, if anything. -/
def error? (plan : OutputPlan) (directories : Nat) : Option PlanError :=
  if directories = 0 then some .noDirectories
  else
    match plan.directoryCount?.filter (· ≠ directories) with
    | some modules => some (.countMismatch modules directories)
    | none => (plan.modules.find? fun module => !isModuleName module).map .badModule

end OutputPlan

end RequestBinding
