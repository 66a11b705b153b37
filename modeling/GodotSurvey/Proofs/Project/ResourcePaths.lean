import GodotSurvey.Project.ResourcePath
import GodotSurvey.Proofs.Text.Search
import GodotSurvey.Proofs.Text.Walk

/-!
# Where resource paths lead

A `res://` path is walked from the names of the project's root. As long as it has never gone up more
often than down, it leads to the root or to a place below. It may also climb past the root and come
back by the names that it left. Any other path leads out of the project, and nothing stops it.

* `Within` — a clean path is the root or below it.
* `resolve?_eq` — a `res://` path leads where its segments do; `prefix_target_iff` — when a walk ends
  below its start.
* `resolve?_within_iff` — **a `res://` path leads to the root or below exactly if it never climbs past
  the root or comes back by the names that it left.**
* `resolve?_within_every_root_iff` — so those that never climb are safe in every project, and no
  others are.
-/

namespace GodotSurvey

open GodotSurvey.Path

namespace Path

/-- The path is clean, and it leads to the root or to a place below. -/
structure Within (root p : Text) : Prop where
  absolute : isAbsolute p = true
  clean : Path.clean p = p
  below : segments root <+: segments p

theorem within_iff {root p : Text} :
    Within root p ↔ isAbsolute p = true ∧ Path.clean p = p ∧ segments root <+: segments p :=
  ⟨fun h => ⟨h.absolute, h.clean, h.below⟩, fun h => ⟨h.1, h.2.1, h.2.2⟩⟩

instance (root p : Text) : Decidable (Within root p) := decidable_of_iff' _ within_iff

/-- The walk climbs, and it goes back down by those of the names that it left. -/
structure Walk.ComesBack (w : Walk) (names : List Text) : Prop where
  climbs : 0 < w.up
  back : names.drop (names.length - w.up) <+: w.down

variable {names names' : List Text}

theorem within_rooted (h : ∀ n ∈ names, isName n = true) (h' : ∀ n ∈ names', isName n = true) :
    Within (rooted names) (rooted names') ↔ names <+: names' := by
  rw [within_iff, segments_rooted h, segments_rooted h', clean_rooted h']
  exact ⟨fun hwithin => hwithin.2.2, fun hbelow => ⟨rfl, rfl, hbelow⟩⟩

/-- A walk ends below its start if it goes back down by the names that it left. -/
theorem prefix_target_iff (w : Walk) (names : List Text) :
    names <+: w.target names ↔ names.drop (names.length - w.up) <+: w.down := by
  rw [Walk.target]
  conv => lhs; lhs; rw [← List.take_append_drop (names.length - w.up) names]
  exact List.prefix_append_right_inj _

theorem prefix_walk_target_iff (segs names : List Text) :
    names <+: (walk segs).target names ↔ StaysBelow segs ∨ (walk segs).ComesBack names := by
  rw [prefix_target_iff, ← walk_up_eq_zero_iff]
  constructor
  · intro h
    rcases Nat.eq_zero_or_pos (walk segs).up with hup | hup
    · exact .inl hup
    · exact .inr ⟨hup, h⟩
  · intro h
    rcases h with hup | h
    · rw [hup, Nat.sub_zero, List.drop_length]
      exact List.nil_prefix
    · exact h.back

end Path

namespace ResourcePath

theorem resolve?_eq {names : List Text} (h : ∀ n ∈ names, isName n = true) (rel : Text) :
    resolve? (rooted names) (resScheme ++ rel) =
      some (rooted ((walk (segments rel)).target names)) := by
  rw [resolve?, Text.dropStart?_eq_some_iff.mpr rfl]
  exact congrArg some (join_rooted_eq h rel)

/-- **When a resource path stays in its project.** From a clean absolute root, whatever follows
`res://` leads where its segments do. This is the root or a place below it if and only if no
beginning of the segments has more steps up than down, or they climb past the root and come back by
the names of it that they left. -/
theorem resolve?_within_iff {root : Text} (habs : isAbsolute root = true)
    (hclean : clean root = root) (rel : Text) :
    let w := walk (segments rel)
    let p := rooted (w.target (segments root))
    resolve? root (resScheme ++ rel) = some p ∧
      (Within root p ↔ StaysBelow (segments rel) ∨ w.ComesBack (segments root)) := by
  intro w p
  obtain ⟨names, hnames, rfl⟩ := exists_names_of_clean habs hclean
  have hsegments : segments (rooted names) = names := segments_rooted hnames
  have htarget : ∀ n ∈ w.target names, isName n = true :=
    Walk.isName_of_mem_target hnames (isName_of_mem_walk fun _ => of_mem_segments)
  have hp : p = rooted (w.target names) := congrArg (rooted <| w.target ·) hsegments
  rw [hp, hsegments]
  refine ⟨resolve?_eq hnames rel, ?_⟩
  rw [within_rooted hnames htarget, prefix_walk_target_iff]

/-- A path that climbs out of the project and comes back by its name. -/
theorem resolve?_within_iff_detour :
    isAbsolute "/home/game" = true ∧ clean "/home/game" = "/home/game" ∧
      resolve? "/home/game" "res://scenes/../../game/door.gd" = some "/home/game/door.gd" ∧
      Within "/home/game" "/home/game/door.gd" := by
  have habs : isAbsolute "/home/game" = true := by decide
  have hclean : clean "/home/game" = "/home/game" := by decide
  obtain ⟨hresolve, hwithin⟩ := resolve?_within_iff habs hclean "scenes/../../game/door.gd"
  exact ⟨habs, hclean, hresolve.trans (by decide), hwithin.mpr (.inr ⟨by decide, by decide⟩)⟩

/-- A path that climbs out of the project and goes on elsewhere. -/
theorem secret_resolved_outside :
    isAbsolute "/game" = true ∧ clean "/game" = "/game" ∧
      Text.startsWith "res://../secret.gd" resScheme = true ∧
      resolve? "/game" "res://../secret.gd" = some "/secret.gd" ∧
      ¬ Within "/game" "/secret.gd" := by
  decide

/-- There are more names than any list holds. -/
theorem exists_name_not_mem (names : List Text) : ∃ n, isName n = true ∧ n ∉ names := by
  refine ⟨List.replicate (names.flatten.length + 3) 97, ?_, ?_⟩
  · rw [isName_iff]
    refine ⟨by simp, by simp, ?_, ?_⟩
    · intro h
      have hlength : names.flatten.length + 3 = 1 :=
        List.length_replicate.symm.trans (congrArg List.length h)
      omega
    · intro h
      have hlength : names.flatten.length + 3 = 2 :=
        List.length_replicate.symm.trans (congrArg List.length h)
      omega
  · intro hmem
    have hle := (List.sublist_flatten_of_mem hmem).length_le
    rw [List.length_replicate] at hle
    omega

theorem within_target_iff {names : List Text} (h : ∀ n ∈ names, isName n = true) (rel : Text) :
    Within (rooted names) (rooted ((walk (segments rel)).target names)) ↔
      StaysBelow (segments rel) ∨ (walk (segments rel)).ComesBack names := by
  have htarget : ∀ n ∈ (walk (segments rel)).target names, isName n = true :=
    Walk.isName_of_mem_target h (isName_of_mem_walk fun _ => of_mem_segments)
  rw [within_rooted h htarget, prefix_walk_target_iff]

/-- In every project stay those paths that never climb, and no others. -/
theorem resolve?_within_every_root_iff (rel : Text) :
    (∀ root p, isAbsolute root = true → clean root = root →
      resolve? root (resScheme ++ rel) = some p → Within root p) ↔ StaysBelow (segments rel) := by
  constructor
  · intro h
    by_contra hclimbs
    obtain ⟨n, hn, hfresh⟩ := exists_name_not_mem (walk (segments rel)).down
    have hnames : ∀ m ∈ [n], isName m = true := by simpa using hn
    have hwithin := h _ _ rfl (clean_rooted hnames) (resolve?_eq hnames rel)
    rcases (within_target_iff hnames rel).mp hwithin with hstays | hback
    · exact hclimbs hstays
    · -- Any climb leaves the only name, and the walk does not go down along it again.
      have hnext := hback.back
      rw [List.length_singleton, Nat.sub_eq_zero_of_le hback.climbs, List.drop_zero] at hnext
      exact hfresh (hnext.subset List.mem_cons_self)
  · intro hstays root p habs hclean hresolve
    obtain ⟨names, hnames, rfl⟩ := exists_names_of_clean habs hclean
    rw [resolve?_eq hnames] at hresolve
    obtain rfl := Option.some.inj hresolve
    exact (within_target_iff hnames rel).mpr (.inl hstays)

end ResourcePath
end GodotSurvey
