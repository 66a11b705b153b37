import GodotSurvey.Text.Number

/-!
# Batches of files

Work on many files, of which some may fail. Results keep the order of the paths, and failures are
collected beside them instead of stopping the batch.
-/

namespace GodotSurvey.Batch

/-- A path whose work failed, and why. -/
structure Failed where
  path : Text
  cause : Text
  deriving DecidableEq, Repr

def Failed.message (f : Failed) : Text := f.path ++ ": " ++ f.cause

/-- One message for several failures; a single one speaks for itself. -/
def summary : List Failed → Text
  | [] => "no errors"
  | [f] => f.message
  | f :: rest =>
    Text.ofNat (rest.length + 1) ++ " files failed to process (first: " ++ f.message ++ ")"

/-- The cause of every failure in a batch that was called off. -/
def cancelledCause : Text := "context canceled"

/-- Does the work for every path; a batch that was called off starts none. -/
def run {α : Type} (cancelled : Bool) (work : Text → Except Text α) (paths : List Text) :
    List (Text × Except Text α) :=
  paths.map fun p => (p, if cancelled then .error cancelledCause else work p)

/-- The values of the paths that succeeded, in order. -/
def values {α : Type} (results : List (Text × Except Text α)) : List (Text × α) :=
  results.filterMap fun (p, r) => r.toOption.map (p, ·)

/-- The failures, in order. -/
def failures {α : Type} (results : List (Text × Except Text α)) : List Failed :=
  results.filterMap fun (p, r) => match r with
    | .error cause => some ⟨p, cause⟩
    | .ok _ => none

/-- The failures by path. -/
def sortedFailures {α : Type} (results : List (Text × Except Text α)) : List Failed :=
  (failures results).mergeSort fun a b => Text.le a.path b.path

end GodotSurvey.Batch
