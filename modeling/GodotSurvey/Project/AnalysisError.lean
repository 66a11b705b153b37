import GodotSurvey.Text.Basic

/-!
# Failures of an analysis

Why a file could not be analysed. The wording of every failure is in one place.
-/

namespace GodotSurvey

/-- The kinds of failure. -/
inductive Failure where
  | notFound
  | unreadable
  | empty
  | invalidStructure
  deriving DecidableEq, Repr

def Failure.message : Failure → Text
  | notFound => "file not found"
  | unreadable => "file could not be read"
  | empty => "file is empty"
  | invalidStructure => "invalid structure"

/-- A failure at a path, with what caused it if that is known. -/
structure AnalysisError where
  failure : Failure
  path : Text
  cause : Option Text := none
  deriving DecidableEq, Repr

namespace AnalysisError

def message (e : AnalysisError) : Text :=
  let head := e.path ++ ": " ++ e.failure.message
  match e.cause with
  | some c => head ++ ": " ++ c
  | none => head

/-- The number of failures named by the error: its kind, and its cause if it has one. -/
def depth (e : AnalysisError) : Nat := if e.cause.isSome then 2 else 1

end AnalysisError

end GodotSurvey
