import GodotSurvey.Proofs.Project.Results
import Mathlib.Algebra.GroupWithZero.Nat
import Mathlib.Data.List.Count

/-!
# Many workers and one pass

Workers take turns in any order, and yet a batch gives what one pass over the paths gives. Every
task owns its slot: a move touches the slot, the stage and the counts of one task only, so what is
known about a task depends on its own moves alone (`Owned`, `Moved.sound`).

* `Sound` holds of every pool that a schedule leads to, with or without a cancellation.
* `results_of_done` – in a pool that is done, every path has the outcome of the work if the work was
  called for it, and the cause of the cancellation otherwise.
* `exists_move`, `length_schedule` – a pool that is not done can move, and it is done after at most
  three moves for each path.
* `results_calledOff` – a batch that was called off before it began has no work called.
-/

namespace GodotSurvey.Batch

variable {α : Type}

/-! ## What one move does -/

/-- The task that a move is about. -/
def Move.task? : Move → Option Nat
  | .start i | .call i | .finish i => some i
  | .cancel => none

/-- The moves of a pool, with what makes each of them possible. -/
inductive Moved (j : Job α) (p : Pool α) : Move → Pool α → Prop where
  | start {i : Nat} {path : Text} (hstage : p.stages[i]? = some .waiting)
      (hpath : j.paths[i]? = some path) (hfree : p.stages.countP Stage.isUnderWay < j.bound) :
      Moved j p (.start i)
        { p with stages := p.stages.set i .started, slots := p.slots.set i { path } }
  | call {i : Nat} {path : Text} (hstage : p.stages[i]? = some .started)
      (hpath : j.paths[i]? = some path) (hoff : p.cancelled = false) :
      Moved j p (.call i)
        { p with stages := p.stages.set i .working, calls := p.calls ++ [i] }
  | callOff {i : Nat} {path : Text} (hstage : p.stages[i]? = some .started)
      (hpath : j.paths[i]? = some path) (hoff : p.cancelled = true) :
      Moved j p (.call i) (p.store i path (.error cancelledCause))
  | finish {i : Nat} {path : Text} (hstage : p.stages[i]? = some .working)
      (hpath : j.paths[i]? = some path) : Moved j p (.finish i) (p.store i path (j.work path))
  | cancel (hoff : p.cancelled = false) : Moved j p .cancel { p with cancelled := true }

theorem Pool.pathAt?_eq_some_iff {j : Job α} {p : Pool α} {stage : Stage} {i : Nat} {path : Text} :
    p.pathAt? j stage i = some path ↔ p.stages[i]? = some stage ∧ j.paths[i]? = some path := by
  rw [Pool.pathAt?]
  by_cases h : p.stages[i]? = some stage
  · simp [h]
  · simp [h]

theorem Pool.step_eq_some_iff {j : Job α} {p q : Pool α} {m : Move} :
    p.step j m = some q ↔ Moved j p m q := by
  constructor
  · intro h
    cases m with
    | start i =>
      obtain ⟨path, hpath, hq⟩ := Option.bind_eq_some_iff.1 h
      obtain ⟨hstage, hpath⟩ := pathAt?_eq_some_iff.1 hpath
      by_cases hfree : p.stages.countP Stage.isUnderWay < j.bound
      · rw [if_pos hfree] at hq
        cases hq
        exact .start hstage hpath hfree
      · rw [if_neg hfree] at hq
        cases hq
    | call i =>
      obtain ⟨path, hpath, rfl⟩ := Option.map_eq_some_iff.1 h
      obtain ⟨hstage, hpath⟩ := pathAt?_eq_some_iff.1 hpath
      cases hoff : p.cancelled with
      | true =>
        rw [if_pos rfl]
        exact .callOff hstage hpath hoff
      | false =>
        rw [if_neg (by decide), ← hoff]
        exact .call hstage hpath hoff
    | finish i =>
      obtain ⟨path, hpath, rfl⟩ := Option.map_eq_some_iff.1 h
      obtain ⟨hstage, hpath⟩ := pathAt?_eq_some_iff.1 hpath
      exact .finish hstage hpath
    | cancel =>
      cases hoff : p.cancelled with
      | true => simp [step, hoff] at h
      | false =>
        rw [step, if_neg (by simp [hoff])] at h
        cases h
        exact .cancel hoff
  · intro h
    cases h with
    | start hstage hpath hfree =>
      rw [step, pathAt?_eq_some_iff.2 ⟨hstage, hpath⟩, Option.bind_some, if_pos hfree]
    | call hstage hpath hoff =>
      rw [step, pathAt?_eq_some_iff.2 ⟨hstage, hpath⟩, Option.map_some, if_neg (by simp [hoff])]
    | callOff hstage hpath hoff =>
      rw [step, pathAt?_eq_some_iff.2 ⟨hstage, hpath⟩, Option.map_some, if_pos hoff]
    | finish hstage hpath =>
      rw [step, pathAt?_eq_some_iff.2 ⟨hstage, hpath⟩, Option.map_some]
    | cancel hoff => rw [step, if_neg (by simp [hoff])]

/-! ## Every task owns its slot -/

/-- What is known about one task: its path, its stage, its slot, how often the work was called for
it, and how often it finished. -/
inductive Owned (work : Text → Except Text α) (off : Bool) :
    Option Text → Option Stage → Option (Slot α) → Nat → Nat → Prop where
  | absent : Owned work off none none none 0 0
  | waiting {path : Text} : Owned work off (some path) (some .waiting) (some {}) 0 0
  | started {path : Text} : Owned work off (some path) (some .started) (some { path }) 0 0
  | working {path : Text} : Owned work off (some path) (some .working) (some { path }) 1 0
  | finished {path : Text} :
      Owned work off (some path) (some .finished) (some ⟨path, some (work path)⟩) 1 1
  | calledOff {path : Text} (hoff : off = true) :
      Owned work off (some path) (some .finished) (some ⟨path, some (.error cancelledCause)⟩) 0 1

/-- What is known about the task at an index. -/
def Pool.Keeps (j : Job α) (p : Pool α) (i : Nat) : Prop :=
  Owned j.work p.cancelled j.paths[i]? p.stages[i]? p.slots[i]? (p.calls.count i) (p.ended.count i)

/-- Every task owns its slot. -/
def Pool.Sound (j : Job α) (p : Pool α) : Prop := ∀ i, p.Keeps j i

theorem Owned.called_off {work : Text → Except Text α} {off : Bool} {path : Option Text}
    {stage : Option Stage} {slot : Option (Slot α)} {called ended : Nat}
    (h : Owned work off path stage slot called ended) :
    Owned work true path stage slot called ended := by
  cases h with
  | absent => exact .absent
  | waiting => exact .waiting
  | started => exact .started
  | working => exact .working
  | finished => exact .finished
  | calledOff => exact .calledOff rfl

/-- A move leaves everything that is known about the other tasks. -/
theorem Moved.keeps_other {j : Job α} {p q : Pool α} {m : Move} (h : Moved j p m q) {k : Nat}
    (hk : m.task? ≠ some k) (hkeeps : p.Keeps j k) : q.Keeps j k := by
  cases h with
  | start =>
    have hne : ¬ _ = k := fun heq => hk (congrArg some heq)
    simpa [Pool.Keeps, List.getElem?_set_ne hne] using hkeeps
  | call =>
    have hne : ¬ _ = k := fun heq => hk (congrArg some heq)
    simpa [Pool.Keeps, List.getElem?_set_ne hne, List.count_singleton, hne] using hkeeps
  | callOff =>
    have hne : ¬ _ = k := fun heq => hk (congrArg some heq)
    simpa [Pool.Keeps, Pool.store, List.getElem?_set_ne hne, List.count_singleton, hne] using hkeeps
  | finish =>
    have hne : ¬ _ = k := fun heq => hk (congrArg some heq)
    simpa [Pool.Keeps, Pool.store, List.getElem?_set_ne hne, List.count_singleton, hne] using hkeeps
  | cancel => exact hkeeps.called_off

/-- A task that is not finished has no outcome, and the work was called for it if it is working. -/
theorem Pool.Keeps.before_end {j : Job α} {p : Pool α} {i : Nat} {path : Text} {stage : Stage}
    (h : p.Keeps j i) (hstage : p.stages[i]? = some stage) (hpath : j.paths[i]? = some path)
    (hne : stage ≠ .finished) :
    i < p.stages.length ∧ i < p.slots.length ∧
      p.slots[i]? = some (if stage = .waiting then {} else { path }) ∧
      p.calls.count i = (if stage = .working then 1 else 0) ∧ p.ended.count i = 0 := by
  have hin := (List.getElem?_eq_some_iff.1 hstage).1
  rw [Pool.Keeps, hstage, hpath] at h
  generalize hslot : p.slots[i]? = slot, hc : p.calls.count i = c, he : p.ended.count i = e at h
  cases h with
  | waiting | started | working =>
    exact ⟨hin, (List.getElem?_eq_some_iff.1 hslot).1, rfl, rfl, rfl⟩
  | finished | calledOff => exact absurd rfl hne

theorem Pool.Keeps.no_path {j : Job α} {p : Pool α} {i : Nat} (h : p.Keeps j i)
    (hpath : j.paths[i]? = none) :
    p.slots[i]? = none ∧ p.calls.count i = 0 ∧ p.ended.count i = 0 := by
  rw [Pool.Keeps, hpath] at h
  generalize p.stages[i]? = stage, p.slots[i]? = slot, p.calls.count i = c,
    p.ended.count i = e at h
  cases h
  exact ⟨rfl, rfl, rfl⟩

/-- A move takes the task that it is about to its next stage. -/
theorem Moved.keeps_self {j : Job α} {p q : Pool α} {m : Move} (h : Moved j p m q) {k : Nat}
    (hk : m.task? = some k) (hkeeps : p.Keeps j k) : q.Keeps j k := by
  cases h with
  | start hstage hpath =>
    cases hk
    obtain ⟨hin, hin', hslot, hcalls, hended⟩ := hkeeps.before_end hstage hpath (by decide)
    simp [Pool.Keeps, hpath, hcalls, hended, hin, hin', Owned.started]
  | call hstage hpath =>
    cases hk
    obtain ⟨hin, hin', hslot, hcalls, hended⟩ := hkeeps.before_end hstage hpath (by decide)
    simp [Pool.Keeps, hpath, hslot, hcalls, hended, hin, Owned.working]
  | callOff hstage hpath hoff =>
    cases hk
    obtain ⟨hin, hin', hslot, hcalls, hended⟩ := hkeeps.before_end hstage hpath (by decide)
    simp [Pool.Keeps, Pool.store, hpath, hcalls, hended, hin, hin', Owned.calledOff hoff]
  | finish hstage hpath =>
    cases hk
    obtain ⟨hin, hin', hslot, hcalls, hended⟩ := hkeeps.before_end hstage hpath (by decide)
    simp [Pool.Keeps, Pool.store, hpath, hcalls, hended, hin, hin', Owned.finished]
  | cancel => cases hk

theorem Moved.sound {j : Job α} {p q : Pool α} {m : Move} (h : Moved j p m q) (hp : p.Sound j) :
    q.Sound j := by
  intro k
  by_cases hk : m.task? = some k
  · exact h.keeps_self hk (hp k)
  · exact h.keeps_other hk (hp k)

theorem Pool.sound_initial (j : Job α) (off : Bool) : (initial off j.paths).Sound j := by
  intro i
  cases hpath : j.paths[i]? with
  | none =>
    simp only [Keeps, initial, List.getElem?_map, hpath, Option.map_none, List.count_nil]
    exact .absent
  | some path =>
    simp only [Keeps, initial, List.getElem?_map, hpath, Option.map_some, List.count_nil]
    exact .waiting

/-! ## Schedules -/

/-- The moves of a schedule, one after the other. -/
inductive Followed (j : Job α) : Pool α → List Move → Pool α → Prop where
  | done {p : Pool α} : Followed j p [] p
  | move {p q r : Pool α} {m : Move} {ms : List Move} (hm : Moved j p m q)
      (hms : Followed j q ms r) : Followed j p (m :: ms) r

theorem Pool.follow_eq_some_iff {j : Job α} {p q : Pool α} {ms : List Move} :
    p.follow j ms = some q ↔ Followed j p ms q := by
  induction ms generalizing p with
  | nil =>
    constructor
    · intro h
      cases h
      exact .done
    · intro h
      cases h
      rfl
  | cons m ms ih =>
    rw [follow, Option.bind_eq_some_iff]
    constructor
    · rintro ⟨r, hr, hms⟩
      exact .move (step_eq_some_iff.1 hr) (ih.1 hms)
    · rintro (_ | ⟨hm, hms⟩)
      exact ⟨_, step_eq_some_iff.2 hm, ih.2 hms⟩

theorem Followed.sound {j : Job α} {p q : Pool α} {ms : List Move} (h : Followed j p ms q)
    (hp : p.Sound j) : q.Sound j := by
  induction h with
  | done => exact hp
  | move hm _ ih => exact ih (hm.sound hp)

/-- A batch stays as it is until it is called off. -/
theorem Followed.cancelled_eq {j : Job α} {p q : Pool α} {ms : List Move} (h : Followed j p ms q)
    (hms : .cancel ∉ ms) : q.cancelled = p.cancelled := by
  induction h with
  | done => rfl
  | move hm _ ih =>
    rw [List.mem_cons, not_or] at hms
    rw [ih hms.2]
    cases hm with
    | cancel => exact absurd rfl hms.1
    | _ => rfl

/-! ## Every schedule ends -/

/-- How many moves a task has before it. -/
def Stage.movesLeft : Stage → Nat
  | .waiting => 3
  | .started => 2
  | .working => 1
  | .finished => 0

def Pool.movesLeft (p : Pool α) : Nat := (p.stages.map Stage.movesLeft).sum

theorem sum_movesLeft_set {stages : List Stage} {i : Nat} {old : Stage}
    (h : stages[i]? = some old) (new : Stage) :
    ((stages.set i new).map Stage.movesLeft).sum + old.movesLeft =
      (stages.map Stage.movesLeft).sum + new.movesLeft := by
  induction stages generalizing i with
  | nil => cases h
  | cons s rest ih =>
    cases i with
    | zero =>
      cases h
      simp only [List.set_cons_zero, List.map_cons, List.sum_cons]
      omega
    | succ i =>
      have hrest := ih h
      simp only [List.set_cons_succ, List.map_cons, List.sum_cons]
      omega

/-- A move that is no cancellation leaves fewer moves. -/
theorem Moved.movesLeft_lt {j : Job α} {p q : Pool α} {m : Move} (h : Moved j p m q)
    (hm : m ≠ .cancel) : q.movesLeft < p.movesLeft := by
  cases h with
  | start hstage =>
    have hsum := sum_movesLeft_set hstage .started
    simp only [Pool.movesLeft, Stage.movesLeft] at hsum ⊢
    omega
  | call hstage =>
    have hsum := sum_movesLeft_set hstage .working
    simp only [Pool.movesLeft, Stage.movesLeft] at hsum ⊢
    omega
  | callOff hstage | finish hstage =>
    have hsum := sum_movesLeft_set hstage .finished
    simp only [Pool.movesLeft, Pool.store, Stage.movesLeft] at hsum ⊢
    omega
  | cancel => exact absurd rfl hm

theorem Followed.length_le {j : Job α} {p q : Pool α} {ms : List Move} (h : Followed j p ms q)
    (hms : .cancel ∉ ms) : ms.length + q.movesLeft ≤ p.movesLeft := by
  induction h with
  | done => simp
  | move hm _ ih =>
    rw [List.mem_cons, not_or] at hms
    have hlt := hm.movesLeft_lt (Ne.symm hms.1)
    have hle := ih hms.2
    rw [List.length_cons]
    omega

theorem Pool.movesLeft_initial (off : Bool) (paths : List Text) :
    (initial off paths : Pool α).movesLeft = 3 * paths.length := by
  have hwaiting : ((initial off paths : Pool α).stages.map Stage.movesLeft) =
      List.replicate paths.length 3 := by
    rw [initial, List.map_map]
    exact List.map_const'
  rw [movesLeft, hwaiting, List.sum_replicate_nat, Nat.mul_comm]

theorem length_schedule {j : Job α} {off : Bool} {p : Pool α} {ms : List Move}
    (h : Followed j (.initial off j.paths) ms p) (hms : .cancel ∉ ms) :
    ms.length ≤ 3 * j.paths.length := by
  have hle := h.length_le hms
  rw [Pool.movesLeft_initial] at hle
  omega

/-- The path of a task that has a stage. -/
theorem Pool.Sound.path_of_stage {j : Job α} {p : Pool α} (hp : p.Sound j) {i : Nat} {stage : Stage}
    (hstage : p.stages[i]? = some stage) : ∃ path, j.paths[i]? = some path := by
  have h := hp i
  rw [Keeps, hstage] at h
  generalize j.paths[i]? = path, p.slots[i]? = slot, p.calls.count i = c, p.ended.count i = e at h
  cases h <;> exact ⟨_, rfl⟩

/-- Some task can move in a pool that is not done: one that a worker has, or else the next one, for
which a worker is free. -/
theorem exists_move {j : Job α} {p : Pool α} (hp : p.Sound j) (hbound : 0 < j.bound)
    (h : p.isDone = false) : ∃ m q, m ≠ .cancel ∧ Moved j p m q := by
  by_cases hfree : p.stages.countP Stage.isUnderWay = 0
  · obtain ⟨stage, hmem, hne⟩ := List.all_eq_false.1 h
    obtain ⟨i, hi⟩ := List.mem_iff_getElem?.1 hmem
    obtain ⟨path, hpath⟩ := hp.path_of_stage hi
    have hidle := List.countP_eq_zero.1 hfree stage hmem
    cases stage with
    | waiting => exact ⟨_, _, by simp, .start hi hpath (by omega)⟩
    | started | working => exact absurd rfl hidle
    | finished => exact absurd rfl hne
  · obtain ⟨stage, hmem, hbusy⟩ := List.countP_pos_iff.1 (Nat.pos_of_ne_zero hfree)
    obtain ⟨i, hi⟩ := List.mem_iff_getElem?.1 hmem
    obtain ⟨path, hpath⟩ := hp.path_of_stage hi
    cases stage with
    | started =>
      cases hoff : p.cancelled with
      | true => exact ⟨_, _, by simp, .callOff hi hpath hoff⟩
      | false => exact ⟨_, _, by simp, .call hi hpath hoff⟩
    | working => exact ⟨_, _, by simp, .finish hi hpath⟩
    | waiting | finished => cases hbusy

/-! ## A pool that is done -/

/-- A task of a pool that is done has an outcome: the one of the work, if it was called. -/
theorem Pool.Sound.slot_of_done {j : Job α} {p : Pool α} (hp : p.Sound j) (hdone : p.isDone)
    {i : Nat} {path : Text} (hpath : j.paths[i]? = some path) :
    p.slots[i]? = some ⟨path, some (if i ∈ p.calls then j.work path else .error cancelledCause)⟩ ∧
      (p.cancelled = false → i ∈ p.calls) ∧ p.calls.count i ≤ 1 ∧ p.ended.count i = 1 := by
  have h := hp i
  rw [Keeps, hpath] at h
  generalize hstage : p.stages[i]? = stage, hslot : p.slots[i]? = slot,
    hc : p.calls.count i = c, he : p.ended.count i = e at h
  have hended : ∀ s, stage = some s → s = .finished := by
    intro s hs
    exact beq_iff_eq.1 (List.all_eq_true.1 hdone s (List.mem_of_getElem? (hstage.trans hs)))
  cases h with
  | waiting | started | working => cases hended _ rfl
  | finished =>
    have hmem : i ∈ p.calls := List.count_pos_iff.1 (by omega)
    simp [hmem]
  | calledOff hoff =>
    have hmem : i ∉ p.calls := List.count_eq_zero.1 hc
    simp [hmem, hoff]

/-- The results of a batch: of every path, in order, the outcome of the work if it was called for
the path, and else the cause of the cancellation. -/
def outcomes (work : Text → Except Text α) (calls : List Nat) (paths : List Text) :
    List (Text × Except Text α) :=
  paths.mapIdx fun i path => (path, if i ∈ calls then work path else .error cancelledCause)

theorem Pool.results?_eq {p : Pool α} {results : List (Text × Except Text α)}
    (h : p.slots = results.map fun r => ⟨r.1, some r.2⟩) : p.results? = some results := by
  rw [results?, h, List.mapM_map]
  exact (List.mapM_pure (f := id)).trans (congrArg some (List.map_id results))

theorem results_of_done {j : Job α} {p : Pool α} (hp : p.Sound j) (hdone : p.isDone) :
    p.results? = some (outcomes j.work p.calls j.paths) := by
  apply Pool.results?_eq
  apply List.ext_getElem?
  intro i
  rw [List.getElem?_map, outcomes, List.getElem?_mapIdx]
  cases hpath : j.paths[i]? with
  | none => exact ((hp i).no_path hpath).1
  | some path => exact (hp.slot_of_done hdone hpath).1

/-- The tasks that are counted once each are all the tasks. -/
theorem perm_range_of_count {tasks : List Nat} {n : Nat}
    (h : ∀ i, tasks.count i = if i < n then 1 else 0) : tasks.Perm (List.range n) := by
  rw [List.perm_iff_count]
  intro i
  rw [h i, List.count_range]

theorem Pool.Sound.counts {j : Job α} {p : Pool α} (hp : p.Sound j) (hdone : p.isDone)
    (hoff : p.cancelled = false) (i : Nat) :
    p.calls.count i = (if i < j.paths.length then 1 else 0) ∧
      p.ended.count i = (if i < j.paths.length then 1 else 0) := by
  cases hpath : j.paths[i]? with
  | none =>
    rw [if_neg (by simpa using hpath)]
    exact ((hp i).no_path hpath).2
  | some path =>
    obtain ⟨-, hcalled, hle, hended⟩ := hp.slot_of_done hdone hpath
    rw [if_pos (List.getElem?_eq_some_iff.1 hpath).1]
    exact ⟨Nat.le_antisymm hle (List.count_pos_iff.2 (hcalled hoff)), hended⟩

/-! ## Any schedule and one pass -/

/-- The pool has the work called and finished once for each task, and its results are those of one
pass over the paths. -/
structure Pool.Sequential (j : Job α) (p : Pool α) : Prop where
  calls_perm : p.calls.Perm (List.range j.paths.length)
  ended_perm : p.ended.Perm (List.range j.paths.length)
  results_eq : p.results? = some (run false j.work j.paths)

theorem Pool.Sound.sequential {j : Job α} {p : Pool α} (hp : p.Sound j) (hdone : p.isDone)
    (hoff : p.cancelled = false) : p.Sequential j := by
  refine ⟨perm_range_of_count fun i => (hp.counts hdone hoff i).1,
    perm_range_of_count fun i => (hp.counts hdone hoff i).2, ?_⟩
  have hcalls : ∀ i < j.paths.length, i ∈ p.calls := by
    intro i hi
    have hcount := (hp.counts hdone hoff i).1
    rw [if_pos hi] at hcount
    exact List.count_pos_iff.1 (by omega)
  rw [results_of_done hp hdone, outcomes, run]
  congr 1
  apply List.ext_getElem
  · simp
  · intro i hi _
    rw [List.length_mapIdx] at hi
    simp [hcalls i hi]

theorem Moved.calls_eq {j : Job α} {p q : Pool α} {m : Move} (h : Moved j p m q)
    (hoff : p.cancelled = true) : q.cancelled = true ∧ q.calls = p.calls := by
  cases h with
  | start | callOff | finish => exact ⟨hoff, rfl⟩
  | call _ _ hon => rw [hon] at hoff; cases hoff
  | cancel => exact ⟨rfl, rfl⟩

theorem Followed.calls_eq {j : Job α} {p q : Pool α} {ms : List Move} (h : Followed j p ms q)
    (hoff : p.cancelled = true) : q.calls = p.calls := by
  induction h with
  | done => rfl
  | move hm _ ih => exact (ih (hm.calls_eq hoff).1).trans (hm.calls_eq hoff).2

/-- A batch that is called off before it begins has the same results as a pass that was. -/
theorem results_calledOff {j : Job α} {p : Pool α} {ms : List Move}
    (h : Followed j (.initial true j.paths) ms p) (hdone : p.isDone) :
    p.results? = some (run true j.work j.paths) := by
  rw [results_of_done (h.sound (Pool.sound_initial j true)) hdone, h.calls_eq rfl]
  congr 1
  apply List.ext_getElem
  · simp [outcomes, run]
  · simp [outcomes, run, Pool.initial]

theorem workerBound_pos (configured : Int) {processors : Nat} (h : 0 < processors) :
    0 < workerBound configured processors := by
  rw [workerBound]
  split <;> omega

/-- Whatever the order in which the workers take up and finish the tasks, the batch ends, the work
is called once for each path, and the results and what is made of them are those of one pass over
the paths; the outcome of a path depends on no other path. -/
theorem fanOut_sequential (work : Text → Except Text α) (paths : List Text) (workers : Int)
    (processors : Nat) (hprocessors : 0 < processors) (schedule : List Move) (p : Pool α)
    (hcancel : .cancel ∉ schedule)
    (hfollow : (Pool.initial false paths).follow ⟨work, paths, workerBound workers processors⟩
      schedule = some p) :
    schedule.length ≤ 3 * paths.length ∧
    (p.isDone = false → ∃ m q, m ≠ .cancel ∧
      p.step ⟨work, paths, workerBound workers processors⟩ m = some q) ∧
    (p.isDone → p.Sequential ⟨work, paths, workerBound workers processors⟩ ∧
      (∀ results, p.results? = some results → Collected work paths results) ∧
      ∀ (j : Job α) (schedule' : List Move) (p' : Pool α), j.paths = paths →
        .cancel ∉ schedule' → (Pool.initial false paths).follow j schedule' = some p' → p'.isDone →
        ∀ (i : Nat) (path : Text), paths[i]? = some path → j.work path = work path →
          (p'.results?.bind fun results => results[i]?) =
            p.results?.bind fun results => results[i]?) := by
  have hfollowed := Pool.follow_eq_some_iff.1 hfollow
  have hsound := hfollowed.sound (Pool.sound_initial _ false)
  have hoff : p.cancelled = false := hfollowed.cancelled_eq hcancel
  refine ⟨length_schedule hfollowed hcancel, ?_, ?_⟩
  · intro hdone
    obtain ⟨m, q, hm, hmoved⟩ := exists_move hsound (workerBound_pos workers hprocessors) hdone
    exact ⟨m, q, hm, Pool.step_eq_some_iff.2 hmoved⟩
  · intro hdone
    have hseq := hsound.sequential hdone hoff
    refine ⟨hseq, ?_, ?_⟩
    · intro results hresults
      rw [hseq.results_eq] at hresults
      cases hresults
      exact collected_run work paths
    · rintro j schedule' p' rfl hcancel' hfollow' hdone' i path hpath hwork
      have hfollowed' := Pool.follow_eq_some_iff.1 hfollow'
      have hseq' := (hfollowed'.sound (Pool.sound_initial j false)).sequential hdone'
        (hfollowed'.cancelled_eq hcancel')
      rw [hseq.results_eq, hseq'.results_eq]
      simp [run, hpath, hwork]

/-- A work that cannot read one file. -/
def sampleWork (path : Text) : Except Text Nat :=
  if path = "b.gd" then .error "no such file" else .ok path.length

/-- Two workers; the second path is finished first, and the last one waits for a worker. -/
def sampleSchedule : List Move :=
  [.start 1, .start 0, .call 0, .call 1, .finish 1, .start 2, .finish 0, .call 2, .finish 2]

/-- The pool that the schedule leads to. -/
def samplePool : Pool Nat where
  stages := [.finished, .finished, .finished]
  slots := [⟨"b.gd", some (.error "no such file")⟩, ⟨"a.gd", some (.ok 4)⟩,
    ⟨"b.gd", some (.error "no such file")⟩]
  calls := [0, 1, 2]
  ended := [1, 0, 2]

theorem fanOut_sequential_samplePool : 0 < 1 ∧ Move.cancel ∉ sampleSchedule ∧
    (Pool.initial false ["b.gd", "a.gd", "b.gd"]).follow
      ⟨sampleWork, ["b.gd", "a.gd", "b.gd"], workerBound 2 1⟩ sampleSchedule = some samplePool ∧
    samplePool.isDone ∧
    samplePool.Sequential ⟨sampleWork, ["b.gd", "a.gd", "b.gd"], workerBound 2 1⟩ :=
  have hfollow : (Pool.initial false ["b.gd", "a.gd", "b.gd"]).follow
      ⟨sampleWork, ["b.gd", "a.gd", "b.gd"], workerBound 2 1⟩ sampleSchedule = some samplePool := by
    rfl
  ⟨by decide, by decide, hfollow, by decide,
    ((fanOut_sequential sampleWork ["b.gd", "a.gd", "b.gd"] 2 1 (by decide) sampleSchedule
      samplePool (by decide) hfollow).2.2 (by decide)).1⟩

end GodotSurvey.Batch
