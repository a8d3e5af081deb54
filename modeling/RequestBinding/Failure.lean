import RequestBinding.Files.Tree
import RequestBinding.OutputPlan
import RequestBinding.Source.Problem

/-!
# Failures

Why a run ends early. What happened while something was done to a path has a cause of its own, which
is told after it.
-/

namespace RequestBinding

/-- What is done to a path when a run fails. -/
inductive Step where
  | resolving
  | listing
  | reading
  | parsing
  | creating
  | writing
deriving Repr, DecidableEq

/-- What failed, without the path. -/
def Step.words : Step → String
  | resolving => "Failed to canonicalize directory: "
  | listing => "Failed to read directory: "
  | reading => "Failed to read source file: "
  | parsing => "Failed to parse "
  | creating => "Failed to create output directory: "
  | writing => "Failed to write generated file: "

/-- Why a step fails. -/
inductive Cause where
  | file (error : FileError)
  | source (error : Source.SourceError)

def Cause.message : Cause → String
  | file error => error.message
  | source error => error.message

inductive Failure where
  | plan (error : PlanError)
  /-- The directory has no name. -/
  | noGroupName (directory : String)
  /-- No module can have the name of the directory. -/
  | badGroupName (name : String)
  | during (step : Step) (path : String) (cause : Cause)

namespace Failure

/-- What happened, without the cause. -/
def summary : Failure → String
  | plan error => error.message
  | noGroupName directory => "Cannot derive a module name from " ++ Text.quoted directory
  | badGroupName name => "Directory name " ++ Text.quoted name ++ " is not a valid module name"
  | during step path _ => step.words ++ Text.quoted path

def cause? : Failure → Option Cause
  | during _ _ cause => some cause
  | _ => none

/-- What happened, then its cause. -/
def chain (failure : Failure) : List String :=
  failure.summary :: (failure.cause?.map Cause.message).toList

def message (failure : Failure) : String := ": ".intercalate failure.chain

/-- The lines that report the failure at the end of a run. -/
def report (failure : Failure) : List String :=
  ("Error: " ++ failure.summary) ::
    match failure.cause? with
    | none => []
    | some cause => ["", "Caused by:", "    " ++ cause.message]

end Failure

end RequestBinding
