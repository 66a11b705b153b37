import GodotSurvey.Proofs.Text.Walk

/-!
# Relative paths

A clean relative path without `..` leads down along names, or it is `.` and leads nowhere. Leading
on from a rooted path it gives a rooted path again, and the way from the one to the other is the
relative path. The way to a place that is not below the start begins with `..`.

* `along`, `exists_names_of_descends` — the path along names, and that every such path is one.
* `relative?_below`, `relative?_outside` — the way to a place below the start, and to any other.
-/

namespace GodotSurvey.Path

open Text

/-- The relative path along names, `.` where there are none. -/
def along (names : List Text) : Text := if names.isEmpty then "." else Text.join "/" names

/-- A clean relative path that never goes up. -/
structure Descends (rel : Text) : Prop where
  relative : isAbsolute rel = false
  clean : Path.clean rel = rel
  down : ofString ".." ∉ segments rel

theorem descends_iff {rel : Text} : Descends rel ↔
    isAbsolute rel = false ∧ Path.clean rel = rel ∧ ofString ".." ∉ segments rel :=
  ⟨fun h => ⟨h.relative, h.clean, h.down⟩, fun h => ⟨h.1, h.2.1, h.2.2⟩⟩

instance (rel : Text) : Decidable (Descends rel) := decidable_of_iff' _ descends_iff

variable {names names' more segs : List Text}

/-! ## Paths along names -/

/-- Where nothing goes up, only the segments `.` are resolved. -/
theorem resolve_of_not_up (isRooted : Bool) (h : ofString ".." ∉ segs) (done : List Text) :
    resolve isRooted done segs = done.reverse ++ segs.filter (· != ofString ".") := by
  induction segs generalizing done with
  | nil => rw [resolve, List.filter_nil, List.append_nil]
  | cons s segs ih =>
    rw [List.mem_cons, not_or] at h
    have ih := ih h.2
    by_cases hdot : s = ofString "."
    · simp [resolve, hdot, ih]
    · simp [resolve, hdot, Ne.symm h.1, ih]

theorem join_ne_nil {n : Text} (hn : n ≠ []) (names : List Text) :
    Text.join "/" (n :: names) ≠ [] := by
  cases names with
  | nil => exact hn
  | cons m names =>
    rw [Text.join_cons _ _ (by simp)]
    simp [hn]

theorem exists_names_of_descends {rel : Text} (h : Descends rel) :
    ∃ names, (∀ n ∈ names, isName n = true) ∧ rel = along names := by
  have hnames : ∀ n ∈ (segments rel).filter (· != ofString "."), isName n = true := by
    intro n hn
    obtain ⟨hmem, hdot⟩ := List.mem_filter.mp hn
    obtain ⟨hne, hslash⟩ := of_mem_segments hmem
    refine isName_iff.mpr ⟨hne, hslash, by simpa using hdot, ?_⟩
    rintro rfl
    exact h.down hmem
  have hclean := h.clean
  rw [Path.clean, cleanSegments, h.relative, resolve_of_not_up false h.down] at hclean
  simp only [List.reverse_nil, List.nil_append, Bool.false_eq_true, if_false] at hclean
  refine ⟨_, hnames, hclean.symm.trans ?_⟩
  generalize (segments rel).filter (· != ofString ".") = names at hnames
  cases names with
  | nil => rfl
  | cons n names =>
    have hbody := join_ne_nil (isName_iff.mp (hnames n List.mem_cons_self)).1 names
    simp [along, hbody]

theorem segments_along (h : ∀ n ∈ names, isName n = true) :
    ofString ".." ∉ segments (along names) ∧
      (segments (along names)).filter (· != ofString ".") = names := by
  cases names with
  | nil => decide
  | cons n names =>
    have hsegments : segments (along (n :: names)) = n :: names := segments_join h
    rw [hsegments, List.filter_eq_self]
    constructor
    · intro hmem
      exact (isName_iff.mp (h _ hmem)).2.2.2 rfl
    · intro m hm
      simpa using (isName_iff.mp (h m hm)).2.2.1

theorem along_ne_nil (h : ∀ n ∈ names, isName n = true) : along names ≠ [] := by
  cases names with
  | nil => decide
  | cons n names => exact join_ne_nil (isName_iff.mp (h n List.mem_cons_self)).1 names

theorem join_rooted_along (h : ∀ n ∈ names, isName n = true) (h' : ∀ n ∈ more, isName n = true) :
    join [rooted names, along more] = rooted (names ++ more) := by
  obtain ⟨hdown, hfilter⟩ := segments_along h'
  have hup : ofString ".." ∉ names := fun hmem => (isName_iff.mp (h _ hmem)).2.2.2 rfl
  have hdot : names.filter (· != ofString ".") = names := by
    rw [List.filter_eq_self]
    intro n hn
    simpa using (isName_iff.mp (h n hn)).2.2.1
  have hnot : ofString ".." ∉ names ++ segments (along more) := by simp [hup, hdown]
  rw [join_pair (rooted_ne_nil names) (along_ne_nil h'), clean, cleanSegments, segments_append,
    segments_rooted h]
  rw [resolve_of_not_up _ hnot, List.filter_append, hdot, hfilter]
  rfl

/-! ## The way from a start -/

theorem dropCommon_append (names as bs : List Text) :
    dropCommon (names ++ as) (names ++ bs) = dropCommon as bs := by
  induction names with
  | nil => rfl
  | cons n names ih =>
    rw [List.cons_append, List.cons_append, dropCommon, beq_self_eq_true, if_pos rfl, ih]

/-- Where the start is no beginning of the target, there are names to leave. -/
theorem exists_up_of_not_prefix (h : ¬ names <+: names') :
    ∃ n up down, dropCommon names names' = (n :: up, down) ∧ n ∈ names := by
  induction names generalizing names' with
  | nil => exact absurd List.nil_prefix h
  | cons n names ih =>
    cases names' with
    | nil => exact ⟨n, names, [], rfl, List.mem_cons_self⟩
    | cons m names' =>
      rw [dropCommon]
      by_cases hnm : n = m
      · subst hnm
        rw [List.prefix_cons_inj] at h
        obtain ⟨k, up, down, hdrop, hk⟩ := ih h
        exact ⟨k, up, down, by simpa using hdrop, List.mem_cons_of_mem n hk⟩
      · exact ⟨n, names, m :: names', by simp [hnm], List.mem_cons_self⟩

theorem rooted_inj (h : ∀ n ∈ names, isName n = true) (h' : ∀ n ∈ names', isName n = true)
    (heq : rooted names = rooted names') : names = names' := by
  rw [← segments_rooted h, heq, segments_rooted h']

/-- Between rooted paths, the names that they have in common are left out. -/
theorem relative?_rooted (h : ∀ n ∈ names, isName n = true) (h' : ∀ n ∈ names', isName n = true)
    (hne : names ≠ names') :
    relative? (rooted names) (rooted names') =
      let (up, down) := dropCommon names names'
      if !down.isEmpty && up.head? == some (ofString "..") then none
      else some (Text.join "/" (up.map (fun _ => ofString "..") ++ down)) := by
  have hrooted : (rooted names == rooted names') = false := by
    rw [beq_eq_false_iff_ne]
    exact fun heq => hne (rooted_inj h h' heq)
  have hdot : (rooted names == ofString ".") = false := rfl
  have habs : (isAbsolute (rooted names) != isAbsolute (rooted names')) = false := rfl
  rw [relative?, clean_rooted h, clean_rooted h']
  simp only [hrooted, hdot, habs, Bool.false_eq_true, if_false, segments_rooted h,
    segments_rooted h']
  rfl

theorem relative?_below (h : ∀ n ∈ names, isName n = true) (h' : ∀ n ∈ more, isName n = true) :
    relative? (rooted names) (rooted (names ++ more)) = some (along more) := by
  cases more with
  | nil =>
    rw [List.append_nil, relative?, beq_self_eq_true, if_pos rfl]
    rfl
  | cons n more =>
    have happend : ∀ m ∈ names ++ n :: more, isName m = true := by
      intro m hm
      exact (List.mem_append.mp hm).elim (h m) (h' m)
    have hdrop : dropCommon names (names ++ n :: more) = ([], n :: more) := by
      have hcommon := dropCommon_append names [] (n :: more)
      rwa [List.append_nil] at hcommon
    rw [relative?_rooted h happend (by simp), hdrop]
    rfl

theorem relative?_outside (h : ∀ n ∈ names, isName n = true) (h' : ∀ n ∈ names', isName n = true)
    (hout : ¬ names <+: names') :
    ∃ rel, relative? (rooted names) (rooted names') = some rel ∧ startsWith rel ".." = true := by
  obtain ⟨n, up, down, hdrop, hn⟩ := exists_up_of_not_prefix hout
  have hne : names ≠ names' := fun heq => hout (heq ▸ List.prefix_rfl)
  have hname : n ≠ ofString ".." := (isName_iff.mp (h n hn)).2.2.2
  refine ⟨Text.join "/" ((n :: up).map (fun _ => ofString "..") ++ down), ?_, ?_⟩
  · rw [relative?_rooted h h' hne, hdrop]
    simp [hname]
  · rw [List.map_cons, List.cons_append]
    generalize up.map (fun _ => ofString "..") ++ down = rest
    cases rest with
    | nil => rfl
    | cons m rest =>
      rw [Text.join_cons _ _ (by simp)]
      rfl

end GodotSurvey.Path
