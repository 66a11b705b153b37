import GodotSurvey.Proofs.Text.Path
import Mathlib.Data.List.Induction

/-!
# Walking along segments

A name leads one step down and `..` one step up. So segments lead from any directory first up, past
the last of its names, and then down along other names. Cleaning an absolute path walks its segments
from the root, above which there is nothing.

* `Walk`, `walk` — where segments lead; `Walk.target` — the names of that place.
* `Walk.Moved` — what one segment does; `isName_of_mem_walk` — what leads down is a name.
* `resolve_target` — resolving segments behind names walks on from there. So the cleaned path
  (`clean_of_walk`) and the joined path (`join_rooted_eq`) end where the walk does.
* `walk_balance` — the steps up and down, counted against where the walk ends.
* `walk_up_eq_zero_iff` — **a walk leads nowhere but down if and only if no beginning of its
  segments has more steps up than down.**
-/

namespace GodotSurvey.Path

open Text

def goesUp (s : Text) : Bool := s == ".."

def goesDown (s : Text) : Bool := s != "." && s != ".."

theorem goesUp_iff {s : Text} : goesUp s = true ↔ s = ofString ".." := by
  rw [goesUp, beq_iff_eq]

theorem goesDown_iff {s : Text} :
    goesDown s = true ↔ s ≠ ofString "." ∧ s ≠ ofString ".." := by
  rw [goesDown, Bool.and_eq_true, bne_iff_ne, bne_iff_ne]

theorem goesDown_of_goesUp {s : Text} (h : goesUp s = true) : goesDown s = false := by
  rw [goesUp_iff.mp h]
  rfl

theorem goesUp_of_goesDown {s : Text} (h : goesDown s = true) : goesUp s = false := by
  rw [goesUp, beq_eq_false_iff_ne]
  exact (goesDown_iff.mp h).2

/-- Where segments lead: so many steps up from the start, and from there down along names. -/
structure Walk where
  up : Nat := 0
  down : List Text := []

namespace Walk

def step (w : Walk) (s : Text) : Walk :=
  if goesUp s then
    if w.down.isEmpty then { w with up := w.up + 1 } else { w with down := w.down.dropLast }
  else if goesDown s then { w with down := w.down ++ [s] }
  else w

/-- The names of the place that is reached from the place with these names. -/
def target (w : Walk) (names : List Text) : List Text :=
  names.take (names.length - w.up) ++ w.down

/-- What a segment does to a walk. -/
inductive Moved (w : Walk) (s : Text) : Walk → Prop
  | climbs (hup : goesUp s = true) (hdown : w.down = []) : Moved w s ⟨w.up + 1, []⟩
  | returns (hup : goesUp s = true) (hdown : w.down ≠ []) : Moved w s ⟨w.up, w.down.dropLast⟩
  | descends (hdown : goesDown s = true) : Moved w s ⟨w.up, w.down ++ [s]⟩
  | stays (hup : goesUp s = false) (hdown : goesDown s = false) : Moved w s w

end Walk

def walk (segs : List Text) : Walk := segs.foldl Walk.step {}

/-- No beginning of the segments has more steps up than down. -/
def StaysBelow (segs : List Text) : Prop :=
  ∀ pre, pre <+: segs → pre.countP goesUp ≤ pre.countP goesDown

variable {s : Text} {names segs : List Text} {w w' : Walk}

/-! ## Steps -/

namespace Walk

theorem moved (w : Walk) (s : Text) : Moved w s (w.step s) := by
  cases hup : goesUp s with
  | true =>
    by_cases hdown : w.down = []
    · have hstep : w.step s = ⟨w.up + 1, []⟩ := by simp [step, hup, hdown]
      rw [hstep]
      exact .climbs hup hdown
    · have hstep : w.step s = ⟨w.up, w.down.dropLast⟩ := by simp [step, hup, hdown]
      rw [hstep]
      exact .returns hup hdown
  | false =>
    cases hdown : goesDown s with
    | true =>
      have hstep : w.step s = ⟨w.up, w.down ++ [s]⟩ := by simp [step, hup, hdown]
      rw [hstep]
      exact .descends hdown
    | false =>
      have hstep : w.step s = w := by simp [step, hup, hdown]
      rw [hstep]
      exact .stays hup hdown

namespace Moved

/-- A walk that climbs has nothing left below it. -/
theorem up_cases (h : Moved w s w') : w'.up = w.up ∨ w'.up = w.up + 1 ∧ w'.down = [] := by
  cases h with
  | climbs hup hdown => exact .inr ⟨rfl, rfl⟩
  | returns hup hdown => exact .inl rfl
  | descends hdown => exact .inl rfl
  | stays hup hdown => exact .inl rfl

theorem balance (h : Moved w s w') :
    (goesDown s).toNat + w'.up + w.down.length = (goesUp s).toNat + w'.down.length + w.up := by
  cases h with
  | climbs hup hdown =>
    rw [hup, goesDown_of_goesUp hup, hdown]
    simp [Nat.add_comm]
  | returns hup hdown =>
    have hpos := List.length_pos_iff.mpr hdown
    rw [hup, goesDown_of_goesUp hup, List.length_dropLast]
    simp only [Bool.toNat_false, Bool.toNat_true]
    omega
  | descends hdown =>
    rw [hdown, goesUp_of_goesDown hdown, List.length_append, List.length_singleton]
    simp only [Bool.toNat_false, Bool.toNat_true]
    omega
  | stays hup hdown =>
    rw [hup, hdown]
    omega

theorem isName (h : Moved w s w') (hne : s ≠ []) (hslash : 47 ∉ s)
    (hw : ∀ n ∈ w.down, isName n = true) : ∀ n ∈ w'.down, isName n = true := by
  intro n hn
  cases h with
  | climbs hup hdown => contradiction
  | returns hup hdown => exact hw n (List.dropLast_subset _ hn)
  | descends hdown =>
    rcases List.mem_append.mp hn with hn | hn
    · exact hw n hn
    · rw [List.mem_singleton.mp hn]
      exact isName_iff.mpr ⟨hne, hslash, goesDown_iff.mp hdown⟩
  | stays hup hdown => exact hw n hn

end Moved

theorem target_start (names : List Text) : ({} : Walk).target names = names := by
  simp [target]

theorem isName_of_mem_target (hnames : ∀ n ∈ names, isName n = true)
    (hw : ∀ n ∈ w.down, isName n = true) : ∀ n ∈ w.target names, isName n = true := by
  intro n hn
  rcases List.mem_append.mp hn with hn | hn
  · exact hnames n (List.mem_of_mem_take hn)
  · exact hw n hn

/-- Climbing takes one more of the names away, as long as there are any. -/
theorem target_climbs (hdown : w.down = []) :
    target ⟨w.up + 1, []⟩ names = (w.target names).dropLast := by
  rw [target, target, hdown, List.append_nil, List.append_nil, List.dropLast_eq_take,
    List.take_take, List.length_take]
  apply congrArg (List.take · names)
  show names.length - (w.up + 1) = _
  omega

theorem target_returns (hdown : w.down ≠ []) :
    target ⟨w.up, w.down.dropLast⟩ names = (w.target names).dropLast := by
  rw [target, target, List.dropLast_append_of_ne_nil hdown]

end Walk

/-! ## Resolving -/

/-- A step up leaves the last name; at the root there is none. -/
theorem resolve_goesUp (h : goesUp s = true) {done : List Text}
    (hdone : ∀ n ∈ done, isName n = true) (rest : List Text) :
    resolve true done (s :: rest) = resolve true done.tail rest := by
  rw [goesUp_iff.mp h]
  cases done with
  | nil => rfl
  | cons d done =>
    have hd := (isName_iff.mp (hdone d List.mem_cons_self)).2.2.2
    simp [resolve, hd, show ofString ".." ≠ ofString "." by decide]

theorem resolve_goesDown (h : goesDown s = true) (done rest : List Text) :
    resolve true done (s :: rest) = resolve true (s :: done) rest := by
  obtain ⟨hdot, hdots⟩ := goesDown_iff.mp h
  simp [resolve, hdot, hdots]

theorem resolve_stays (hup : goesUp s = false) (hdown : goesDown s = false)
    (done rest : List Text) : resolve true done (s :: rest) = resolve true done rest := by
  have hdot : s = ofString "." := by
    by_contra hdot
    have hdots : s ≠ ofString ".." := fun hs => by simp [goesUp_iff.mpr hs] at hup
    rw [goesDown_iff.mpr ⟨hdot, hdots⟩] at hdown
    contradiction
  simp [resolve, hdot]

/-- Resolving a segment behind the names where a walk has led goes where the walk goes. -/
theorem Walk.Moved.resolve_target (h : Moved w s w') (hnames : ∀ n ∈ names, Path.isName n = true)
    (hw : ∀ n ∈ w.down, Path.isName n = true) (rest : List Text) :
    resolve true (w.target names).reverse (s :: rest) =
      resolve true (w'.target names).reverse rest := by
  have hdone : ∀ n ∈ (w.target names).reverse, Path.isName n = true := by
    intro n hn
    exact isName_of_mem_target hnames hw n (List.mem_reverse.mp hn)
  cases h with
  | climbs hup hdown =>
    rw [resolve_goesUp hup hdone, target_climbs hdown, List.tail_reverse]
  | returns hup hdown =>
    rw [resolve_goesUp hup hdone, target_returns hdown, List.tail_reverse]
  | descends hdown =>
    have htarget : target ⟨w.up, w.down ++ [s]⟩ names = w.target names ++ [s] :=
      (List.append_assoc ..).symm
    rw [resolve_goesDown hdown, htarget, List.reverse_append]
    rfl
  | stays hup hdown => rw [resolve_stays hup hdown]

theorem resolve_target (hnames : ∀ n ∈ names, isName n = true)
    (hw : ∀ n ∈ w.down, isName n = true) (hsegs : ∀ s ∈ segs, s ≠ [] ∧ 47 ∉ s) :
    resolve true (w.target names).reverse segs = (segs.foldl Walk.step w).target names := by
  induction segs generalizing w with
  | nil => rw [resolve, List.reverse_reverse, List.foldl_nil]
  | cons s segs ih =>
    obtain ⟨hne, hslash⟩ := hsegs s List.mem_cons_self
    have hmoved := w.moved s
    rw [List.foldl_cons, hmoved.resolve_target hnames hw]
    apply ih (hmoved.isName hne hslash hw)
    intro t ht
    exact hsegs t (List.mem_cons_of_mem s ht)

theorem walk_concat (segs : List Text) (s : Text) : walk (segs ++ [s]) = (walk segs).step s :=
  List.foldl_append

theorem isName_of_mem_walk (hsegs : ∀ s ∈ segs, s ≠ [] ∧ 47 ∉ s) :
    ∀ n ∈ (walk segs).down, isName n = true := by
  induction segs using List.reverseRecOn with
  | nil => simp [walk]
  | append_singleton segs s ih =>
    obtain ⟨hne, hslash⟩ := hsegs s (by simp)
    rw [walk_concat]
    apply ((walk segs).moved s).isName hne hslash
    exact ih fun t ht => hsegs t (List.mem_append_left [s] ht)

/-- Behind names, the other segments are walked from there. -/
theorem clean_of_walk {p : Text} (hp : isAbsolute p = true) (hnames : ∀ n ∈ names, isName n = true)
    (hsegs : ∀ s ∈ segs, s ≠ [] ∧ 47 ∉ s) (h : segments p = names ++ segs) :
    clean p = rooted ((walk segs).target names) := by
  have hwalk := resolve_target (w := {}) hnames (by simp) hsegs
  rw [Walk.target_start] at hwalk
  rw [clean, cleanSegments, h, hp, resolve_append true hnames, List.append_nil, hwalk]
  rfl

theorem exists_names_of_clean {p : Text} (hp : isAbsolute p = true) (h : clean p = p) :
    ∃ names, (∀ n ∈ names, isName n = true) ∧ p = rooted names := by
  have hroot : ∀ n ∈ ([] : List Text), isName n = true := by simp
  have hwalk := clean_of_walk hp hroot (fun _ => of_mem_segments) rfl
  refine ⟨(walk (segments p)).target [], ?_, h.symm.trans hwalk⟩
  exact Walk.isName_of_mem_target hroot (isName_of_mem_walk fun _ => of_mem_segments)

theorem join_rooted_eq (hnames : ∀ n ∈ names, isName n = true) (q : Text) :
    join [rooted names, q] = rooted ((walk (segments q)).target names) := by
  cases q with
  | nil =>
    have hjoin : join [rooted names, []] = clean (rooted names) := rfl
    rw [hjoin, clean_rooted hnames]
    exact congrArg rooted (Walk.target_start names).symm
  | cons c q =>
    rw [join_pair (rooted_ne_nil names) (List.cons_ne_nil c q)]
    apply clean_of_walk rfl hnames fun _ => of_mem_segments
    rw [segments_append, segments_rooted hnames]

/-! ## Climbing -/

theorem walk_balance (segs : List Text) :
    segs.countP goesDown + (walk segs).up = segs.countP goesUp + (walk segs).down.length := by
  induction segs using List.reverseRecOn with
  | nil => rfl
  | append_singleton segs s ih =>
    have hstep := ((walk segs).moved s).balance
    have hcount (f : Text → Bool) : (segs ++ [s]).countP f = segs.countP f + (f s).toNat := by
      rw [List.countP_append, List.countP_singleton]
      cases f s <;> rfl
    rw [walk_concat, hcount, hcount]
    omega

theorem staysBelow_concat (segs : List Text) (s : Text) :
    StaysBelow (segs ++ [s]) ↔
      StaysBelow segs ∧ (segs ++ [s]).countP goesUp ≤ (segs ++ [s]).countP goesDown := by
  constructor
  · intro h
    exact ⟨fun pre hpre => h pre (hpre.trans (List.prefix_append segs [s])), h _ List.prefix_rfl⟩
  · intro h pre hpre
    rcases List.prefix_concat_iff.mp hpre with rfl | hpre
    · exact h.2
    · exact h.1 pre hpre

theorem walk_up_eq_zero_iff (segs : List Text) : (walk segs).up = 0 ↔ StaysBelow segs := by
  induction segs using List.reverseRecOn with
  | nil =>
    refine iff_of_true rfl ?_
    intro pre hpre
    rw [List.prefix_nil.mp hpre]
    rfl
  | append_singleton segs s ih =>
    have hbalance := walk_balance (segs ++ [s])
    have hmoved := (walk segs).moved s
    rw [staysBelow_concat, ← ih]
    rw [walk_concat] at hbalance ⊢
    rcases hmoved.up_cases with hup | ⟨hup, hdown⟩
    · rw [hup] at hbalance ⊢
      constructor
      · intro h
        exact ⟨h, by omega⟩
      · intro h
        exact h.1
    · -- Nothing is below the place that is climbed to, so the steps up are more.
      rw [hup, hdown, List.length_nil] at hbalance
      rw [hup]
      omega

end GodotSurvey.Path
