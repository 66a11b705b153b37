import GodotSurvey.Proofs.Analysis.Scopes
import GodotSurvey.Proofs.Text.Distinct
import GodotSurvey.Proofs.Text.Table

/-!
# Which names a scope knows

A name is looked up from the innermost frame outwards, and the first entry decides. The flat table of
a scope is made the other way round: from the outermost frame inwards, each frame is laid over what
is there, and an entry without a type takes its name out. Both ways give each name the same type,
because no frame has two entries of one name. Frames are like this from the start, and stay so
whatever is declared in whichever frame of the chain.

* `lookup_overlay` — what is found after a frame has been laid over a table.
* `HasDistinctNames` — no frame has two entries of one name; kept by each operation on a chain
  (`HasDistinctNames.perform`), so it holds after any run of them (`hasDistinctNames_after`).
* `lookup_types` — the flat table of such a scope is the lookup; `lookup_types_ofScript` — so it is
  for the scopes of a script.
* `types_after` — **after any operations on a chain of scopes, the flat table has a type for a name
  exactly if the lookup has, and the known names come in strictly ascending order.**
-/

namespace GodotSurvey.Scope

/-! ## Laying a frame over a table -/

theorem names_setType (name type : Text) (frame : List (Text × Text)) :
    (setType name type frame).map Prod.fst = Text.insertNew (frame.map Prod.fst) name := by
  induction frame with
  | nil => simp [setType, Text.insertNew]
  | cons entry frame ih =>
    obtain ⟨n, t⟩ := entry
    by_cases hn : n = name
    · simp [setType, Text.insertNew, hn]
    · have hne : (n == name) = false := by simpa using hn
      by_cases hmem : name ∈ frame.map Prod.fst
      · rw [Text.insertNew_of_mem hmem] at ih
        simp [setType, hne, ih, Text.insertNew_of_mem (List.mem_cons_of_mem n hmem)]
      · have hmem' : name ∉ n :: frame.map Prod.fst := by simp [Ne.symm hn, hmem]
        rw [Text.insertNew_of_not_mem hmem] at ih
        simp [setType, hne, ih, Text.insertNew_of_not_mem hmem']

theorem nodup_setType {frame : List (Text × Text)} (h : (frame.map Prod.fst).Nodup)
    (name type : Text) : ((setType name type frame).map Prod.fst).Nodup := by
  rw [names_setType]
  exact Text.nodup_insertNew h

/-- What one entry of a frame makes of a table. -/
def overlayEntry (table : List (Text × Text)) (name type : Text) : List (Text × Text) :=
  if type.isEmpty then table.filter (·.1 != name) else setType name type table

theorem overlay_cons (table frame : List (Text × Text)) (name type : Text) :
    overlay table ((name, type) :: frame) = overlay (overlayEntry table name type) frame := rfl

theorem nodup_overlayEntry {table : List (Text × Text)} (h : (table.map Prod.fst).Nodup)
    (name type : Text) : ((overlayEntry table name type).map Prod.fst).Nodup := by
  rw [overlayEntry]
  split
  · exact h.sublist (List.filter_sublist.map Prod.fst)
  · exact nodup_setType h name type

theorem nodup_overlay {table : List (Text × Text)} (h : (table.map Prod.fst).Nodup)
    (frame : List (Text × Text)) : ((overlay table frame).map Prod.fst).Nodup := by
  induction frame generalizing table with
  | nil => exact h
  | cons entry frame ih =>
    rw [overlay_cons]
    exact ih (nodup_overlayEntry h entry.1 entry.2)

theorem lookup_overlayEntry (table : List (Text × Text)) (name type x : Text) :
    (overlayEntry table name type).lookup x =
      if x = name then (some type).filter (!·.isEmpty) else table.lookup x := by
  by_cases hx : x = name
  · subst hx
    cases type with
    | nil =>
      have hgone : x ∉ (table.filter (·.1 != x)).map Prod.fst := by
        intro hmem
        obtain ⟨entry, hentry, hname⟩ := List.mem_map.1 hmem
        simpa [hname] using (List.mem_filter.1 hentry).2
      rw [if_pos rfl]
      exact Text.lookup_eq_none_iff_not_mem.2 hgone
    | cons b type =>
      rw [if_pos rfl]
      exact (lookup_setType x (b :: type) x table).trans (if_pos rfl)
  · have hkeep : (x != name) = true := by simpa using hx
    cases type with
    | nil => simp [overlayEntry, hx, Text.lookup_filter_key (· != name) hkeep table]
    | cons b type => simp [overlayEntry, hx, lookup_setType]

/-- An entry of the frame decides; other names keep what the table has for them. -/
theorem lookup_overlay {frame : List (Text × Text)} (h : (frame.map Prod.fst).Nodup)
    (table : List (Text × Text)) (x : Text) :
    (overlay table frame).lookup x =
      match frame.lookup x with
      | some t => (some t).filter (!·.isEmpty)
      | none => table.lookup x := by
  induction frame generalizing table with
  | nil => rfl
  | cons entry frame ih =>
    obtain ⟨n, t⟩ := entry
    obtain ⟨hn, hframe⟩ := List.nodup_cons.1 h
    rw [overlay_cons, ih hframe, lookup_overlayEntry, List.lookup_cons]
    by_cases hx : x = n
    · subst hx
      have hnone : frame.lookup x = none := Text.lookup_eq_none_iff_not_mem.2 hn
      simp [hnone]
    · simp [hx, beq_false_of_ne hx]

/-! ## Chains of scopes -/

/-- No frame of the scope has two entries of one name. -/
def HasDistinctNames (s : Scope) : Prop := ∀ frame ∈ s.frames, (frame.map Prod.fst).Nodup

/-- Sets the type of a name in the frame that lies `k` frames further out, if there is one. -/
def defineAt (name type : Text) : Nat → Scope → Scope
  | 0, s => s.define name type
  | _ + 1, ⟨inner, []⟩ => ⟨inner, []⟩
  | k + 1, ⟨inner, f :: fs⟩ => ⟨inner, (defineAt name type k ⟨f, fs⟩).frames⟩

/-- What is done to a chain of scopes: a scope is opened inside the innermost one, the innermost one
is left, or a name is declared in one of them. -/
inductive Operation where
  | push
  | pop
  | define (k : Nat) (name type : Text)

/-- The scope after an operation. -/
def Operation.perform (s : Scope) : Operation → Scope
  | push => s.push
  | pop => s.pop
  | define k name type => s.defineAt name type k

/-- The innermost scope after operations that start with a single new one. -/
def after (ops : List Operation) : Scope := ops.foldl Operation.perform {}

variable {s : Scope}

theorem hasDistinctNames_new : HasDistinctNames {} := by simp [HasDistinctNames, frames]

theorem HasDistinctNames.define (h : s.HasDistinctNames) (name type : Text) :
    (s.define name type).HasDistinctNames := by
  intro frame hframe
  rcases List.mem_cons.1 hframe with rfl | hframe
  · exact nodup_setType (h _ List.mem_cons_self) name type
  · exact h frame (List.mem_cons_of_mem _ hframe)

theorem HasDistinctNames.push (h : s.HasDistinctNames) : s.push.HasDistinctNames := by
  intro frame hframe
  rcases List.mem_cons.1 hframe with rfl | hframe
  · exact List.nodup_nil
  · exact h frame hframe

theorem HasDistinctNames.pop (h : s.HasDistinctNames) : s.pop.HasDistinctNames := by
  obtain ⟨inner, outer⟩ := s
  cases outer with
  | nil => exact h
  | cons f fs => exact fun frame hframe => h frame (List.mem_cons_of_mem inner hframe)

theorem HasDistinctNames.defineAt (h : s.HasDistinctNames) (k : Nat) (name type : Text) :
    (s.defineAt name type k).HasDistinctNames := by
  induction k generalizing s with
  | zero => exact h.define name type
  | succ k ih =>
    obtain ⟨inner, outer⟩ := s
    cases outer with
    | nil => exact h
    | cons f fs =>
      have houter : HasDistinctNames ⟨f, fs⟩ := h.pop
      intro frame hframe
      rcases List.mem_cons.1 hframe with rfl | hframe
      · exact h _ List.mem_cons_self
      · exact ih houter frame hframe

/-- **An operation keeps the names of every frame distinct.** -/
theorem HasDistinctNames.perform (h : s.HasDistinctNames) (op : Operation) :
    (op.perform s).HasDistinctNames := by
  cases op with
  | push => exact h.push
  | pop => exact h.pop
  | define k name type => exact h.defineAt k name type

theorem hasDistinctNames_after (ops : List Operation) : (after ops).HasDistinctNames := by
  have hrun : ∀ s : Scope, s.HasDistinctNames →
      (ops.foldl Operation.perform s).HasDistinctNames := by
    induction ops with
    | nil => exact fun s h => h
    | cons op ops ih => exact fun s h => ih (op.perform s) (h.perform op)
  exact hrun {} hasDistinctNames_new

/-! ## The flat table -/

/-- The frames laid over one another give a name the type of its innermost entry. -/
theorem lookup_foldr_overlay {frames : List (List (Text × Text))}
    (h : ∀ frame ∈ frames, (frame.map Prod.fst).Nodup) (x : Text) :
    (frames.foldr (fun frame table => overlay table frame) []).lookup x =
      (entryIn? x frames).filter (!·.isEmpty) := by
  induction frames with
  | nil => rfl
  | cons frame frames ih =>
    obtain ⟨hframe, hframes⟩ := List.forall_mem_cons.1 h
    rw [List.foldr_cons, lookup_overlay hframe, entryIn?, ih hframes]
    cases frame.lookup x <;> rfl

theorem nodup_foldr_overlay (frames : List (List (Text × Text))) :
    ((frames.foldr (fun frame table => overlay table frame) []).map Prod.fst).Nodup := by
  induction frames with
  | nil => exact List.nodup_nil
  | cons frame frames ih => exact nodup_overlay ih frame

/-- **The flat table is the lookup.** -/
theorem lookup_types (h : s.HasDistinctNames) (x : Text) : s.types.lookup x = s.lookup? x := by
  have hperm := List.mergeSort_perm (s.frames.foldr (fun frame table => overlay table frame) [])
    fun a b => Text.le a.1 b.1
  rw [types, ← Text.lookup_perm hperm.symm (nodup_foldr_overlay s.frames), lookup_foldr_overlay h,
    lookup?]

/-- The known names are sorted, and none stands twice. -/
theorem ascending_names (s : Scope) : Text.Ascending s.names := by
  rw [names, types, Text.Ascending, List.pairwise_map]
  exact Text.ascending_mergeSort (nodup_foldr_overlay s.frames)

theorem mem_names_iff (h : s.HasDistinctNames) {x : Text} : x ∈ s.names ↔ s.known x = true := by
  rw [known, ← lookup_types h, ← Option.ne_none_iff_isSome, ne_eq,
    Text.lookup_eq_none_iff_not_mem, not_not]
  rfl

/-! ## The scopes of a script -/

/-- Declarations in the innermost scope keep the names of every frame distinct. -/
theorem HasDistinctNames.foldl_define {α : Type} (name type : α → Text) (as : List α)
    (h : s.HasDistinctNames) :
    (as.foldl (fun s a => s.define (name a) (type a)) s).HasDistinctNames := by
  induction as generalizing s with
  | nil => exact h
  | cons a as ih => exact ih (h.define (name a) (type a))

theorem hasDistinctNames_ofClass (d : ScriptDecl) : (ofClass d).HasDistinctNames :=
  (hasDistinctNames_new.foldl_define _ _ _).foldl_define _ _ _

theorem HasDistinctNames.defineLocal (h : s.HasDistinctNames) (v : VariableDecl) :
    (s.defineLocal v).HasDistinctNames := by
  rw [Scope.defineLocal]
  split
  · exact h
  · exact h.define v.name v.type

theorem HasDistinctNames.ofMethod (h : s.HasDistinctNames) (m : MethodDecl) (b : Script.Body) :
    (ofMethod s m b).HasDistinctNames := by
  have hlocals : ∀ (vs : List VariableDecl) (s : Scope), s.HasDistinctNames →
      (vs.foldl Scope.defineLocal s).HasDistinctNames := by
    intro vs
    induction vs with
    | nil => exact fun s h => h
    | cons v vs ih => exact fun s h => ih (s.defineLocal v) (h.defineLocal v)
  exact hlocals (locals b) _ (h.push.foldl_define _ _ _)

/-- In every method of a script, the flat table is the lookup. -/
theorem lookup_types_ofScript (p : Script.Parsed) {s : Scope} (hs : s ∈ ofScript p) (x : Text) :
    s.types.lookup x = s.lookup? x := by
  obtain ⟨⟨m, b⟩, -, rfl⟩ := List.mem_map.1 hs
  exact lookup_types ((hasDistinctNames_ofClass p.decl).ofMethod m b) x

/-! ## Any chain -/

/-- **The flat table of a scope agrees with the lookup.** Whatever is declared, with or without a
type, in whichever scopes of a chain of any depth: a name has a type in the table exactly if it is
found with that type, it is missing exactly if it is not known, and the names that are listed are
those that are known, strictly ascending. -/
theorem types_after (ops : List Operation) :
    (∀ x t, (after ops).types.lookup x = some t ↔ (after ops).lookup? x = some t) ∧
      (∀ x, (after ops).types.lookup x = none ↔ (after ops).known x = false) ∧
      Text.Ascending (after ops).names ∧
      ∀ x, x ∈ (after ops).names ↔ (after ops).known x = true := by
  have h := hasDistinctNames_after ops
  refine ⟨fun x t => ?_, fun x => ?_, ascending_names _, fun x => mem_names_iff h⟩
  · rw [lookup_types h]
  · rw [lookup_types h, known, Option.isSome_eq_false_iff, Option.isNone_iff_eq_none]

/-- A name without a type hides that of the scope outside, which may still get new ones. -/
example : (after [.define 0 "hp" "int", .push, .define 0 "hp" [], .define 1 "mp" "float"]).names =
    ["mp"] := by decide +kernel

end GodotSurvey.Scope
