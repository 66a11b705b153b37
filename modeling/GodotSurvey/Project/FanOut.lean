import GodotSurvey.Project.Batch

/-!
# Fan-out

The work on many files is done by several workers at once. Every path is a task with a slot of its
own in the vector of results. A worker that takes a task up writes the path into the slot, asks
whether the batch was called off, and if not calls the work and writes what it returns. No more than
a bounded number of tasks is under way at a time. Which task moves next is open, so that a schedule
is any list of moves that are possible one after the other.

What is done with the results is done in one pass, after all tasks are finished.
-/

namespace GodotSurvey.Batch

/-! ## The pool -/

/-- How far a task is. -/
inductive Stage where
  | waiting
  /-- A worker has taken the task up. -/
  | started
  /-- The work was called, and has not returned. -/
  | working
  | finished
  deriving DecidableEq, Repr

/-- The task is in the hands of a worker. -/
def Stage.isUnderWay : Stage → Bool
  | started | working => true
  | waiting | finished => false

/-- A place in the vector of results; at first it is blank. -/
structure Slot (α : Type) where
  path : Text := []
  outcome : Option (Except Text α) := none

/-- What is to be done: the work, the paths, and how many tasks may be under way at once. -/
structure Job (α : Type) where
  work : Text → Except Text α
  paths : List Text
  bound : Nat

/-- The number of workers: as configured, or two for each processor. -/
def workerBound (configured : Int) (processors : Nat) : Nat :=
  if configured ≤ 0 then processors * 2 else configured.toNat

/-- A pool at work. -/
structure Pool (α : Type) where
  stages : List Stage
  slots : List (Slot α)
  cancelled : Bool := false
  /-- The tasks for which the work was called, in the order of the calls. -/
  calls : List Nat := []
  /-- The finished tasks, in the order in which they finished and progress was reported. -/
  ended : List Nat := []

/-- One thing that can happen. -/
inductive Move where
  | start (task : Nat)
  | call (task : Nat)
  | finish (task : Nat)
  /-- The batch is called off. -/
  | cancel
  deriving DecidableEq, Repr

namespace Pool

variable {α : Type}

/-- The pool before anything has happened, in a batch that may be called off already. -/
def initial (cancelled : Bool) (paths : List Text) : Pool α where
  stages := paths.map fun _ => .waiting
  slots := paths.map fun _ => {}
  cancelled

/-- The path of a task that has come this far. -/
def pathAt? (j : Job α) (p : Pool α) (stage : Stage) (task : Nat) : Option Text :=
  if p.stages[task]? = some stage then j.paths[task]? else none

/-- Writes the outcome of a task. -/
def store (p : Pool α) (task : Nat) (path : Text) (outcome : Except Text α) : Pool α :=
  { p with
    stages := p.stages.set task .finished
    slots := p.slots.set task ⟨path, some outcome⟩
    ended := p.ended ++ [task] }

/-- Makes a move, if it is possible. -/
def step (j : Job α) (p : Pool α) : Move → Option (Pool α)
  | .start task =>
    (p.pathAt? j .waiting task).bind fun path =>
      if p.stages.countP Stage.isUnderWay < j.bound then
        some { p with
          stages := p.stages.set task .started
          slots := p.slots.set task { path } }
      else none
  | .call task =>
    (p.pathAt? j .started task).map fun path =>
      if p.cancelled then p.store task path (.error cancelledCause)
      else { p with stages := p.stages.set task .working, calls := p.calls ++ [task] }
  | .finish task => (p.pathAt? j .working task).map fun path => p.store task path (j.work path)
  | .cancel => if p.cancelled then none else some { p with cancelled := true }

/-- Makes the moves of a schedule. -/
def follow (j : Job α) (p : Pool α) : List Move → Option (Pool α)
  | [] => some p
  | m :: ms => (p.step j m).bind fun q => q.follow j ms

/-- Every task is finished. -/
def isDone (p : Pool α) : Bool := p.stages.all (· == .finished)

/-- The vector of results, once every slot is filled. -/
def results? (p : Pool α) : Option (List (Text × Except Text α)) :=
  p.slots.mapM fun s => s.outcome.map (s.path, ·)

end Pool

/-! ## What is done with the results -/

/-- Merges the values one after the other, and collects the failures beside them. -/
def fold {α β : Type} (merge : β → Text → α → β) (start : β)
    (results : List (Text × Except Text α)) : β × List Failed :=
  results.foldl (fun (acc, failed) (path, r) => match r with
    | .error cause => (acc, failed ++ [⟨path, cause⟩])
    | .ok v => (merge acc path v, failed)) (start, [])

/-- Lists the values, and the failures by path. -/
def mapFiles {α : Type} (results : List (Text × Except Text α)) : List α × List Failed :=
  let (values, failed) := fold (fun vs _ v => vs ++ [v]) [] results
  (values, failed.mergeSort fun a b => Text.le a.path b.path)

end GodotSurvey.Batch
