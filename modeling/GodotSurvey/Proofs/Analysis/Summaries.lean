import GodotSurvey.Proofs.Analysis.Signals
import GodotSurvey.Proofs.Graph.Reachability

/-!
# The calls in a method's summary

The records of a method are its calls, each of one of three kinds. A summary lists what they call by
kind, each name where it is first seen, and the flows of a script are drawn from these lists.

* `foldl_insert` — what is collected without repetition is what the list holds without repetition.
* `Call.classify_internal`, `Call.classify_builtin` — what the kind of a call tells about it.
* `Partitions` — the records of a summary account for its lists.
* `ofScript_partitions` — **they do so in every script, and the call flows lead from methods of the
  script to methods of the script, each pair once.**
-/

namespace GodotSurvey

/-! ## First-seen lists -/

/-- Items that are collected unless they are there already are those of the list, each where it is
first seen. -/
theorem foldl_insert {α : Type} [BEq α] [LawfulBEq α] (xs : List α) :
    xs.foldl (fun ys x => if ys.contains x then ys else ys ++ [x]) [] = xs.eraseDups := by
  induction xs using List.reverseRecOn with
  | nil => rfl
  | append_singleton xs x ih =>
    rw [List.foldl_append, ih, List.foldl_cons, List.foldl_nil, List.eraseDups_append]
    have hseen : xs.eraseDups.contains x = xs.contains x := by
      rw [Bool.eq_iff_iff, List.contains_iff_mem, List.contains_iff_mem, List.mem_eraseDups]
    rw [hseen]
    cases hx : xs.contains x with
    | true => simp [List.removeAll, List.contains_iff_mem.1 hx]
    | false =>
      have hnot : x ∉ xs := fun hmem => by simp [hmem] at hx
      have hone : [x].eraseDups = [x] := by simp [List.eraseDups_cons]
      simp [List.removeAll, hnot, hone]

theorem Text.dedup_eq_eraseDups (ts : List Text) : dedup ts = ts.eraseDups := foldl_insert ts

/-! ## Kinds of calls -/

namespace Call

variable {ctx : Context} {c : Shape}

theorem builtinIf_cases (b : Bool) : builtinIf b = .external ∨ builtinIf b = .builtin := by
  cases b <;> simp [builtinIf]

/-- A call on something else is external or builtin. -/
theorem kindOn_cases (r : Registry) (type method : Text) :
    kindOn r type method = .external ∨ kindOn r type method = .builtin := by
  rw [kindOn]
  split
  · exact .inr rfl
  split
  · exact builtinIf_cases _
  split
  · exact .inl rfl
  split
  · exact builtinIf_cases _
  split
  · exact builtinIf_cases _
  · exact builtinIf_cases _

/-- Every call is of one of the three kinds. -/
theorem classify_cases (ctx : Context) (c : Shape) :
    classify ctx c = .internal ∨ classify ctx c = .external ∨ classify ctx c = .builtin := by
  unfold classify
  dsimp only
  split
  · split
    · exact .inl rfl
    · exact .inr (.inr rfl)
  · split
    · exact .inr (.inr rfl)
    · split
      · exact .inr (.inl rfl)
      · exact .inr (kindOn_cases _ _ _)

/-- An internal call has no receiver but `self`, and the script declares its method. -/
theorem classify_internal (h : classify ctx c = .internal) :
    (c.receiver = [] ∨ c.receiver = "self") ∧ c.method ∈ ctx.declared := by
  unfold classify at h
  dsimp only at h
  split at h
  · rename_i hself
    refine ⟨by simpa using hself, ?_⟩
    split at h
    · rename_i hdeclared
      exact List.contains_iff_mem.1 hdeclared
    · cases h
  · split at h
    · cases h
    · split at h
      · cases h
      · rcases kindOn_cases ctx.registry (receiverType (Text.stripStart c.receiver "self."))
          c.method with hkind | hkind <;> rw [hkind] at h <;> cases h

/-- The receiver of a builtin call on another object has no known type. -/
theorem classify_builtin (h : classify ctx c = .builtin) (hempty : c.receiver ≠ [])
    (hself : c.receiver ≠ "self") (hsuper : c.receiver ≠ "super") :
    ctx.scope.lookup? (Text.stripStart c.receiver "self.") = none := by
  unfold classify at h
  dsimp only at h
  rw [if_neg (by simp [hempty, hself]), if_neg (by simpa using hsuper)] at h
  split at h
  · cases h
  · rename_i hknown
    simpa [Scope.known] using hknown

theorem record_object_self (h : c.receiver = [] ∨ c.receiver = "self") :
    (record ctx c).object = selfObject := by
  rw [record]
  rcases h with h | h
  · simp [h]
  · simp [h, selfObject]

theorem record_object_of_ne (h : (record ctx c).object ≠ selfObject) :
    c.receiver ≠ [] ∧ (record ctx c).object = c.receiver := by
  have hne : c.receiver ≠ [] := fun hnil => h (record_object_self (.inl hnil))
  exact ⟨hne, if_neg (by simpa using hne)⟩

end Call

/-! ## Summaries -/

namespace MethodSummary

/-- The records of a summary account for its lists, where the script declares the given methods and
the scope tells the types that the method knows. -/
structure Partitions (declared : List Text) (scope : Scope) (s : MethodSummary) : Prop where
  kinds : ∀ c ∈ s.calls, c.kind = .internal ∨ c.kind = .external ∨ c.kind = .builtin
  internal : s.internalCalls =
    ((s.calls.filter (·.kind = .internal)).map (·.qualifiedName)).eraseDups
  external : s.externalCalls =
    ((s.calls.filter (·.kind = .external)).map (·.qualifiedName)).eraseDups
  builtin : s.builtinCalls =
    ((s.calls.filter (·.kind = .builtin)).map (·.qualifiedName)).eraseDups
  own : ∀ c ∈ s.calls, c.kind = .internal → c.object = "self" ∧ c.method ∈ declared
  unknown : ∀ c ∈ s.calls, c.kind = .builtin → c.object ≠ "self" → c.object ≠ "super" →
    scope.lookup? (Text.stripStart c.object "self.") = none

theorem namesOf_eq (kind : CallKind) (records : List CallRecord) :
    namesOf kind records = ((records.filter (·.kind = kind)).map (·.qualifiedName)).eraseDups := by
  rw [namesOf, Text.dedup_eq_eraseDups]
  rfl

/-- The records of a body are made of calls on its lines. -/
theorem exists_of_mem_bodyRecords {ctx : Call.Context} {b : Script.Body} {c : CallRecord}
    (h : c ∈ bodyRecords ctx b) :
    ∃ l ∈ b.lines, ∃ shape ∈ Call.shapes l.text l.number, c = Call.record ctx shape := by
  obtain ⟨l, hl, hc⟩ := List.mem_flatMap.1 h
  obtain ⟨shape, hshape, rfl⟩ := List.mem_map.1 hc
  exact ⟨l, hl, shape, hshape, rfl⟩

theorem ofMethod_partitions (ctx : Call.Context) (m : MethodDecl) (b : Script.Body) :
    (ofMethod ctx true m b).Partitions ctx.declared ctx.scope where
  kinds := by
    intro c hc
    obtain ⟨-, -, shape, -, rfl⟩ := exists_of_mem_bodyRecords hc
    exact Call.classify_cases ctx shape
  internal := namesOf_eq _ _
  external := namesOf_eq _ _
  builtin := namesOf_eq _ _
  own := by
    intro c hc hkind
    obtain ⟨-, -, shape, -, rfl⟩ := exists_of_mem_bodyRecords hc
    obtain ⟨hreceiver, hdeclared⟩ := Call.classify_internal hkind
    exact ⟨Call.record_object_self hreceiver, hdeclared⟩
  unknown := by
    intro c hc hkind hself hsuper
    obtain ⟨-, -, shape, -, rfl⟩ := exists_of_mem_bodyRecords hc
    obtain ⟨hempty, hobject⟩ := Call.record_object_of_ne hself
    rw [hobject] at hself hsuper ⊢
    exact Call.classify_builtin hkind hempty hself hsuper

/-- An internal call is listed under the name of a method of the script. -/
theorem Partitions.mem_declared {declared : List Text} {scope : Scope} {s : MethodSummary}
    (h : s.Partitions declared scope) {name : Text} (hname : name ∈ s.internalCalls) :
    name ∈ declared := by
  rw [h.internal, List.mem_eraseDups] at hname
  obtain ⟨c, hc, rfl⟩ := List.mem_map.1 hname
  obtain ⟨hmem, hkind⟩ := List.mem_filter.1 hc
  have hinternal : c.kind = .internal := by simpa using hkind
  have hqualified : c.qualifiedName = c.method := by simp [CallRecord.qualifiedName, hinternal]
  rw [hqualified]
  exact (h.own c hmem hinternal).2

/-- Records that are not kept leave everything else as it is. -/
theorem ofScript_dropped (p : Script.Parsed) (r : Registry) :
    ofScript p r false = (ofScript p r true).map fun s => { s with calls := [] } := by
  rw [ofScript, ofScript, List.map_map]
  rfl

/-- What the calls in the body of a method are classified by. -/
def bodyContext (p : Script.Parsed) (r : Registry) (x : MethodDecl × Script.Body) : Call.Context where
  scope := Scope.ofMethod (Scope.ofClass p.decl) x.1 x.2
  registry := r
  declared := p.decl.methods.map (·.name)

theorem zip_ofScript (p : Script.Parsed) (r : Registry) (keep : Bool) :
    (ofScript p r keep).zip (Scope.ofScript p) =
      (Scope.methodsWithBodies p).map fun x =>
        (ofMethod (bodyContext p r x) keep x.1 x.2, (bodyContext p r x).scope) := by
  rw [ofScript, Scope.ofScript, List.zip_map']
  rfl

end MethodSummary

/-! ## Flows -/

namespace Behavior

theorem callFlows_eq (rules : Rules) (d : ScriptDecl) (S : List MethodSummary) :
    (flows rules d S).callFlows =
      (S.flatMap fun s => s.internalCalls.map (CallEdge.mk s.name)).eraseDups := foldl_insert _

theorem mem_callFlows {rules : Rules} {d : ScriptDecl} {S : List MethodSummary} {e : CallEdge} :
    e ∈ (flows rules d S).callFlows ↔ ∃ s ∈ S, e.caller = s.name ∧ e.callee ∈ s.internalCalls := by
  rw [callFlows_eq, List.mem_eraseDups, List.mem_flatMap]
  refine exists_congr fun s => and_congr_right fun _ => ?_
  rw [List.mem_map]
  constructor
  · rintro ⟨callee, hcallee, rfl⟩
    exact ⟨rfl, hcallee⟩
  · rintro ⟨hcaller, hcallee⟩
    exact ⟨e.callee, hcallee, by rw [← hcaller]⟩

/-- The flows do not depend on whether records are kept. -/
theorem callFlows_ofScript (rules : Rules) (p : Script.Parsed) (r : Registry) (keep : Bool) :
    (flows rules p.decl (MethodSummary.ofScript p r keep)).callFlows =
      (flows rules p.decl (MethodSummary.ofScript p r true)).callFlows := by
  cases keep with
  | true => rfl
  | false => rw [callFlows_eq, callFlows_eq, MethodSummary.ofScript_dropped, List.flatMap_map]

end Behavior

namespace MethodSummary

open Behavior

/-- **The records of each method account for the lists of its summary.** Every record is of one of
three kinds; the names of each kind are listed where they are first seen; internal calls are calls of
the script's own methods, and no builtin call on another object has a receiver whose type is known.
Without the records, the summaries are the same. The call flows are the pairs of a method and an
internal call of it, each once, and both ends are methods of the script. -/
theorem ofScript_partitions (src : Text) (opts : Script.Options) (registry : Registry)
    (rules : Rules) (keep : Bool) :
    let p := Script.parse src opts
    let declared := p.decl.methods.map (·.name)
    let S := ofScript p registry true
    let F := flows rules p.decl (ofScript p registry keep)
    S.map (·.name) = declared ∧ (Scope.ofScript p).length = S.length ∧
      (∀ x ∈ S.zip (Scope.ofScript p), x.1.Partitions declared x.2) ∧
      ofScript p registry false = S.map (fun s => { s with calls := [] }) ∧
      F.callFlows.Nodup ∧
      (∀ e, e ∈ F.callFlows ↔ ∃ s ∈ S, e.caller = s.name ∧ e.callee ∈ s.internalCalls) ∧
      ∀ e ∈ F.callFlows, e.caller ∈ declared ∧ e.callee ∈ declared := by
  intro p declared S F
  have hnames : S.map (·.name) = declared := ofScript_name (Script.names_parse src opts) registry true
  have hlength : (Scope.ofScript p).length = S.length := by
    show ((Scope.methodsWithBodies p).map _).length = ((Scope.methodsWithBodies p).map _).length
    rw [List.length_map, List.length_map]
  have hpartitions : ∀ x ∈ S.zip (Scope.ofScript p), x.1.Partitions declared x.2 := by
    intro x hx
    rw [zip_ofScript] at hx
    obtain ⟨mb, -, rfl⟩ := List.mem_map.1 hx
    exact ofMethod_partitions (bodyContext p registry mb) mb.1 mb.2
  have hflows : F.callFlows = (flows rules p.decl S).callFlows :=
    callFlows_ofScript rules p registry keep
  refine ⟨hnames, hlength, hpartitions, ofScript_dropped p registry, ?_, ?_, ?_⟩
  · rw [hflows, callFlows_eq]
    exact Graph.nodup_eraseDups _
  · intro e
    rw [hflows]
    exact mem_callFlows
  · intro e he
    rw [hflows] at he
    obtain ⟨s, hs, hcaller, hcallee⟩ := mem_callFlows.1 he
    refine ⟨?_, ?_⟩
    · rw [hcaller, ← hnames]
      exact List.mem_map_of_mem hs
    · -- Each summary has its scope, so its internal calls are accounted for.
      obtain ⟨i, hi, hget⟩ := List.getElem_of_mem hs
      have hscope : i < (S.zip (Scope.ofScript p)).length := by
        rw [List.length_zip, hlength, Nat.min_self]
        exact hi
      have hpartition := hpartitions _ (List.getElem_mem hscope)
      rw [List.getElem_zip, hget] at hpartition
      exact hpartition.mem_declared hcallee

/-- A method that calls itself twice, a member of known type, and the constructor of a class. -/
def patrolScript : Text :=
  "var label: Label\nfunc patrol():\n\tpatrol()\n\tself.patrol()\n\tlabel.hide()\n\tPlayer.new()\n"

theorem ofScript_partitions_patrolScript :
    let p := Script.parse patrolScript {}
    let S := ofScript p ⟨[{ name := "Player" }], []⟩ true
    ∃ x ∈ S.zip (Scope.ofScript p),
      (x.1.internalCalls = [("patrol" : Text)] ∧ x.1.externalCalls = [("label.hide" : Text)] ∧
        x.1.builtinCalls = [("new" : Text)] ∧ x.1.calls.length = 4) ∧
      x.1.Partitions (p.decl.methods.map (·.name)) x.2 ∧
      ∃ e ∈ (flows {} p.decl S).callFlows, e.caller = x.1.name ∧ e.callee = "patrol" := by
  intro p S
  obtain ⟨-, -, hpartitions, -, -, hflows, -⟩ :=
    ofScript_partitions patrolScript {} ⟨[{ name := "Player" }], []⟩ {} true
  have hlists : ∃ x ∈ S.zip (Scope.ofScript p),
      x.1.internalCalls = [("patrol" : Text)] ∧ x.1.externalCalls = [("label.hide" : Text)] ∧
        x.1.builtinCalls = [("new" : Text)] ∧ x.1.calls.length = 4 := by
    decide +kernel
  obtain ⟨x, hx, hlist⟩ := hlists
  have hcallee : ("patrol" : Text) ∈ x.1.internalCalls := by
    rw [hlist.1]
    exact List.mem_cons_self
  exact ⟨x, hx, hlist, hpartitions x hx, ⟨x.1.name, "patrol"⟩,
    (hflows _).2 ⟨x.1, (List.of_mem_zip hx).1, rfl, hcallee⟩, rfl, rfl⟩

end MethodSummary

end GodotSurvey
