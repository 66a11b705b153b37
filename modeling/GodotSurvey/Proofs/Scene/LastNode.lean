import GodotSurvey.Proofs.Text.Table
import GodotSurvey.Scene.Parser

/-!
# Setting properties

The reader sets properties of the node that it has read last. A list of nodes is empty or has a last
one, and `updateLast` changes that alone (`updateLast_append`); a property is replaced where it
stands, or put last (`lookup_putProperty`).
-/

namespace GodotSurvey.Scene

/-! ## The last node -/

theorem updateLast_append (f : NodeDecl → NodeDecl) (ns : List NodeDecl) (n : NodeDecl) :
    updateLast f (ns ++ [n]) = ns ++ [f n] := by
  induction ns with
  | nil => rfl
  | cons m ns ih =>
    cases ns with
    | nil => rfl
    | cons k ns => exact congrArg (m :: ·) ih

theorem map_updateLast {f g k : NodeDecl → NodeDecl} (h : ∀ n, k (f n) = g (k n))
    (ns : List NodeDecl) : (updateLast f ns).map k = updateLast g (ns.map k) := by
  rcases List.eq_nil_or_concat ns with rfl | ⟨front, n, rfl⟩
  · rfl
  · simp [updateLast_append, h]

theorem updateLast_id (ns : List NodeDecl) : updateLast id ns = ns := by
  rcases List.eq_nil_or_concat ns with rfl | ⟨front, n, rfl⟩
  · rfl
  · simp [updateLast_append]

theorem updateLast_updateLast (f g : NodeDecl → NodeDecl) (ns : List NodeDecl) :
    updateLast g (updateLast f ns) = updateLast (g ∘ f) ns := by
  rcases List.eq_nil_or_concat ns with rfl | ⟨front, n, rfl⟩
  · rfl
  · simp [updateLast_append]

theorem length_updateLast (f : NodeDecl → NodeDecl) (ns : List NodeDecl) :
    (updateLast f ns).length = ns.length := by
  rcases List.eq_nil_or_concat ns with rfl | ⟨front, n, rfl⟩
  · rfl
  · simp [updateLast_append]

theorem getLast?_updateLast (f : NodeDecl → NodeDecl) (ns : List NodeDecl) :
    (updateLast f ns).getLast? = ns.getLast?.map f := by
  rcases List.eq_nil_or_concat ns with rfl | ⟨front, n, rfl⟩
  · rfl
  · simp [updateLast_append]

/-! ## Its properties -/

theorem putProperty_new {key : Text} {ps : List (Text × Property)} (h : key ∉ ps.map (·.1))
    (p : Property) : putProperty key p ps = ps ++ [(key, p)] := by
  induction ps with
  | nil => rfl
  | cons q ps ih =>
    simp only [List.map_cons, List.mem_cons, not_or] at h
    have hne : (q.1 == key) = false := by simpa using Ne.symm h.1
    simp [putProperty, hne, ih h.2]

theorem putProperty_putProperty (key : Text) (p q : Property) (ps : List (Text × Property)) :
    putProperty key q (putProperty key p ps) = putProperty key q ps := by
  induction ps with
  | nil => simp [putProperty]
  | cons r ps ih =>
    by_cases hr : r.1 = key
    · simp [putProperty, hr]
    · have hne : (r.1 == key) = false := by simpa using hr
      simp [putProperty, hne, ih]

theorem putProperty_eq_put (key : Text) (p : Property) (ps : List (Text × Property)) :
    putProperty key p ps = Text.put key p ps := by
  induction ps with
  | nil => rfl
  | cons q ps ih => rw [putProperty, Text.put, ih]

theorem lookup_putProperty (key other : Text) (p : Property) (ps : List (Text × Property)) :
    (putProperty key p ps).lookup other = if other = key then some p else ps.lookup other := by
  rw [putProperty_eq_put, Text.lookup_put]

/-- Setting a property that is left out changes nothing of what is kept. -/
theorem filter_putProperty_of_not (keep : Text → Bool) {key : Text} (h : keep key = false)
    (p : Property) (ps : List (Text × Property)) :
    (putProperty key p ps).filter (fun q => keep q.1) = ps.filter fun q => keep q.1 := by
  induction ps with
  | nil => simp [putProperty, h]
  | cons q ps ih =>
    by_cases hq : q.1 = key
    · simp [putProperty, hq, h]
    · have hne : (q.1 == key) = false := by simpa using hq
      simp only [putProperty, hne, Bool.false_eq_true, if_false, List.filter_cons, ih]

/-- A property that is kept can be set before or after the others are left out. -/
theorem filter_putProperty (keep : Text → Bool) {key : Text} (h : keep key = true) (p : Property)
    (ps : List (Text × Property)) :
    (putProperty key p ps).filter (fun q => keep q.1) =
      putProperty key p (ps.filter fun q => keep q.1) := by
  induction ps with
  | nil => simp [putProperty, h]
  | cons q ps ih =>
    by_cases hq : q.1 = key
    · simp [putProperty, hq, h]
    · have hne : (q.1 == key) = false := by simpa using hq
      cases hkeep : keep q.1 <;> simp [putProperty, hne, hkeep, ih]

end GodotSurvey.Scene
