import GodotSurvey.Proofs.Text.Lines
import GodotSurvey.Proofs.Text.Number
import GodotSurvey.Proofs.Text.Order
import GodotSurvey.Registry.Basic
import Mathlib.Data.List.Induction
import Mathlib.Data.List.Nodup
import Mathlib.Data.Set.Function

/-!
# What a class list comes to

Of a class list the registry keeps, for each name, the first class with it, and sorts what it keeps
by name. So the classes of a registry are known by what is found under each name, and the order of a
list in which no name stands twice is lost.

The text that identifies the classes has a line for each, with a zero byte between its fields.
Where no field holds either of these bytes, the lines and the fields can be told from the text.

* `find?_foldl_addClass` — what is found under a name while classes are added.
* `Snapshot`, `snapshot_ofClasses` — the classes of a registry in terms of the list.
* `identity_inj` — the classes can be told from the text that identifies them.
* `ofClasses_identified` — **a registry holds the first class of each name in the order of names,
  and its fingerprint tells these classes apart as far as the hash tells texts apart.**
-/

namespace GodotSurvey

open Text

namespace Registry

variable {cs cs' acc : List GlobalClass} {c : GlobalClass} {name : Text}

/-! ## Classes under a name -/

theorem addClass_of_taken (h : c.name = [] ∨ ∃ d ∈ cs, d.name = c.name) : addClass cs c = cs := by
  rw [addClass, if_pos]
  rcases h with h | ⟨d, hd, hname⟩
  · simp [h]
  · simp [show cs.any (·.name == c.name) = true from List.any_eq_true.mpr ⟨d, hd, by simp [hname]⟩]

theorem addClass_of_new (hname : c.name ≠ []) (hnew : ∀ d ∈ cs, d.name ≠ c.name) :
    addClass cs c = cs ++ [c] := by
  have hany : cs.any (·.name == c.name) = false := by simpa using hnew
  simp [addClass, hany, hname]

/-- A class that is added is found under its name if none was found there before. -/
theorem find?_addClass (hname : name ≠ []) (cs : List GlobalClass) (c : GlobalClass) :
    (addClass cs c).find? (·.name == name) =
      (cs.find? (·.name == name)).or ([c].find? (·.name == name)) := by
  by_cases htaken : c.name = [] ∨ ∃ d ∈ cs, d.name = c.name
  · rw [addClass_of_taken htaken]
    by_cases hc : c.name = name
    · subst hc
      obtain ⟨d, hd, hdc⟩ := htaken.resolve_left hname
      have hsome : (cs.find? (·.name == c.name)).isSome = true :=
        List.find?_isSome.mpr ⟨d, hd, by simp [hdc]⟩
      rw [Option.or_of_isSome hsome]
    · simp [hc]
  · rw [not_or] at htaken
    rw [addClass_of_new htaken.1 (fun d hd hdc => htaken.2 ⟨d, hd, hdc⟩), List.find?_append]

theorem find?_foldl_addClass (hname : name ≠ []) (acc cs : List GlobalClass) :
    (cs.foldl addClass acc).find? (·.name == name) =
      (acc.find? (·.name == name)).or (cs.find? (·.name == name)) := by
  induction cs generalizing acc with
  | nil => simp
  | cons c cs ih =>
    rw [List.foldl_cons, ih, find?_addClass hname, Option.or_assoc, ← List.find?_append]
    rfl

/-- Each class has a name of its own. -/
structure Named (cs : List GlobalClass) : Prop where
  distinct : (cs.map (·.name)).Nodup
  nonempty : ∀ c ∈ cs, c.name ≠ []

theorem named_nil : Named [] := ⟨List.nodup_nil, nofun⟩

theorem Named.addClass (h : Named cs) (c : GlobalClass) : Named (addClass cs c) := by
  by_cases htaken : c.name = [] ∨ ∃ d ∈ cs, d.name = c.name
  · rwa [addClass_of_taken htaken]
  · rw [not_or] at htaken
    have hnew : c.name ∉ cs.map (·.name) := by simpa using htaken.2
    rw [addClass_of_new htaken.1 (fun d hd hdc => htaken.2 ⟨d, hd, hdc⟩)]
    constructor
    · rw [List.map_append, List.map_singleton, ← List.concat_eq_append]
      exact h.distinct.concat hnew
    · intro d hd
      rcases List.mem_append.mp hd with hd | hd
      · exact h.nonempty d hd
      · rw [List.mem_singleton.mp hd]
        exact htaken.1

theorem Named.foldl (h : Named acc) (cs : List GlobalClass) :
    Named (cs.foldl Registry.addClass acc) := by
  induction cs generalizing acc with
  | nil => exact h
  | cons c cs ih => exact ih (h.addClass c)

/-- Where names are distinct, what is found under a name is the class with it. -/
theorem find?_eq_some_iff_mem (h : (cs.map (·.name)).Nodup) :
    cs.find? (·.name == name) = some c ↔ c ∈ cs ∧ c.name = name := by
  induction cs with
  | nil => simp
  | cons d cs ih =>
    obtain ⟨hd, hcs⟩ := List.nodup_cons.mp h
    rw [List.find?_cons]
    by_cases hname : d.name = name
    · subst hname
      rw [beq_self_eq_true, Option.some.injEq, List.mem_cons]
      constructor
      · rintro rfl
        exact ⟨.inl rfl, rfl⟩
      · rintro ⟨rfl | hmem, hc⟩
        · rfl
        · exact absurd (List.mem_map.mpr ⟨c, hmem, hc⟩) hd
    · rw [beq_false_of_ne hname, ih hcs, List.mem_cons]
      constructor
      · rintro ⟨hmem, hc⟩
        exact ⟨.inr hmem, hc⟩
      · rintro ⟨rfl | hmem, hc⟩
        · exact absurd hc hname
        · exact ⟨hmem, hc⟩

/-! ## The classes of a registry -/

/-- The registry holds for each name the first class of the list with it, in the order of names. -/
structure Snapshot (r : Registry) (cs : List GlobalClass) : Prop where
  ascending : r.classes.Pairwise fun a b => Text.lt a.name b.name = true
  first : ∀ name, name ≠ [] → r.class? name = cs.find? (·.name == name)
  mem_iff : ∀ c, c ∈ r.classes ↔ c.name ≠ [] ∧ cs.find? (·.name == c.name) = some c

theorem snapshot_ofClasses (cs : List GlobalClass) : Snapshot (ofClasses cs) cs := by
  have hnamed : Named (cs.foldl addClass []) := named_nil.foldl cs
  have hperm : (ofClasses cs).classes.Perm (cs.foldl addClass []) := List.mergeSort_perm _ _
  have hdistinct : ((ofClasses cs).classes.map (·.name)).Nodup :=
    (hperm.map (·.name)).nodup_iff.mpr hnamed.distinct
  have hfirst : ∀ name, name ≠ [] → (ofClasses cs).class? name = cs.find? (·.name == name) := by
    intro name hname
    have hfold := find?_foldl_addClass hname [] cs
    rw [List.find?_nil, Option.none_or] at hfold
    rw [← hfold]
    refine Option.ext fun c => ?_
    rw [class?, find?_eq_some_iff_mem hdistinct, find?_eq_some_iff_mem hnamed.distinct,
      hperm.mem_iff]
  refine ⟨ascending_mergeSort hnamed.distinct, hfirst, fun c => ?_⟩
  constructor
  · intro hc
    have hne := hnamed.nonempty c (hperm.mem_iff.mp hc)
    exact ⟨hne, hfirst _ hne ▸ (find?_eq_some_iff_mem hdistinct).mpr ⟨hc, rfl⟩⟩
  · rintro ⟨hne, hc⟩
    exact ((find?_eq_some_iff_mem hdistinct).mp ((hfirst _ hne).trans hc)).1

/-- Classes in the order of names are known by what is among them. -/
theorem eq_of_ascending {as bs : List GlobalClass}
    (has : as.Pairwise fun a b => Text.lt a.name b.name = true)
    (hbs : bs.Pairwise fun a b => Text.lt a.name b.name = true) (h : ∀ c, c ∈ as ↔ c ∈ bs) :
    as = bs := by
  have hne {a b : GlobalClass} (hlt : Text.lt a.name b.name = true) : a ≠ b := by
    rintro rfl
    exact Text.lt_irrefl _ hlt
  have hperm := (List.perm_ext_iff_of_nodup (has.imp hne) (hbs.imp hne)).mpr h
  exact hperm.eq_of_pairwise (fun _ _ _ _ hab hba => absurd hba (Text.lt_asymm hab)) has hbs

/-- Classes that are kept of a list, once in the order of names, are those of the registry. -/
theorem classes_eq {as : List GlobalClass}
    (hasc : as.Pairwise fun a b => Text.lt a.name b.name = true)
    (hperm : as.Perm (cs.foldl addClass [])) : (ofClasses cs).classes = as := by
  refine eq_of_ascending (snapshot_ofClasses cs).ascending hasc fun c => ?_
  rw [ofClasses, (List.mergeSort_perm _ _).mem_iff, hperm.mem_iff]

/-- The order of a list in which no name stands twice does not count. -/
theorem classes_perm (hperm : cs.Perm cs') (hdistinct : (cs.map (·.name)).Nodup) :
    (ofClasses cs).classes = (ofClasses cs').classes := by
  have hdistinct' : (cs'.map (·.name)).Nodup := (hperm.map (·.name)).nodup_iff.mp hdistinct
  have hsnapshot := snapshot_ofClasses cs
  have hsnapshot' := snapshot_ofClasses cs'
  refine eq_of_ascending hsnapshot.ascending hsnapshot'.ascending fun c => ?_
  rw [hsnapshot.mem_iff, hsnapshot'.mem_iff, find?_eq_some_iff_mem hdistinct,
    find?_eq_some_iff_mem hdistinct', hperm.mem_iff]

/-! ## The text that identifies the classes -/

/-- The fields of a class, as its line has them. -/
def lineFields (c : GlobalClass) : List Text :=
  [c.name, c.path, c.base, c.language, if c.autoload then "true" else "false"]

theorem lineFields_injective : Function.Injective lineFields := by
  intro c d h
  have hflag : ∀ a b : Bool, (if a then ofString "true" else ofString "false") =
      (if b then ofString "true" else ofString "false") → a = b := by decide
  simp only [lineFields, List.cons.injEq, and_true] at h
  obtain ⟨hname, hpath, hbase, hlanguage, hautoload⟩ := h
  have hautoload := hflag _ _ hautoload
  cases c
  cases d
  simp_all

/-- No field of the class holds a zero byte or a line feed. -/
structure Separable (c : GlobalClass) : Prop where
  name : 0 ∉ c.name ∧ 10 ∉ c.name
  path : 0 ∉ c.path ∧ 10 ∉ c.path
  base : 0 ∉ c.base ∧ 10 ∉ c.base
  language : 0 ∉ c.language ∧ 10 ∉ c.language

theorem separable_iff {c : GlobalClass} : Separable c ↔ (0 ∉ c.name ∧ 10 ∉ c.name) ∧
    (0 ∉ c.path ∧ 10 ∉ c.path) ∧ (0 ∉ c.base ∧ 10 ∉ c.base) ∧
    (0 ∉ c.language ∧ 10 ∉ c.language) :=
  ⟨fun h => ⟨h.name, h.path, h.base, h.language⟩, fun h => ⟨h.1, h.2.1, h.2.2.1, h.2.2.2⟩⟩

instance (c : GlobalClass) : Decidable (Separable c) := decidable_of_iff' _ separable_iff

theorem Separable.lineFields (h : Separable c) : ∀ t ∈ lineFields c, 0 ∉ t ∧ 10 ∉ t := by
  have hflag : ∀ b : Bool, 0 ∉ (if b then ofString "true" else ofString "false") ∧
      10 ∉ (if b then ofString "true" else ofString "false") := by decide
  intro t ht
  simp only [Registry.lineFields, List.mem_cons, List.not_mem_nil, or_false] at ht
  rcases ht with rfl | rfl | rfl | rfl | rfl
  · exact h.name
  · exact h.path
  · exact h.base
  · exact h.language
  · exact hflag c.autoload

theorem identity_eq (r : Registry) :
    r.identity = Text.lines (r.classes.map fun c => Text.join [0] (lineFields c)) := by
  rw [identity, Text.lines, List.flatMap_map]
  rfl

/-- The lines give back the fields of the classes. -/
theorem splitLines_identity {r : Registry} (h : ∀ c ∈ r.classes, Separable c) :
    (splitLines r.identity).dropLast.map (splitByte 0) = r.classes.map lineFields := by
  have hline : ∀ t ∈ r.classes.map (fun c => Text.join [0] (lineFields c)), 10 ∉ t := by
    intro t ht hmem
    obtain ⟨c, hc, rfl⟩ := List.mem_map.mp ht
    rcases mem_join hmem with hmem | ⟨u, hu, hmem⟩
    · exact absurd hmem (by decide)
    · exact ((h c hc).lineFields u hu).2 hmem
  rw [identity_eq, splitLines_lines hline, List.dropLast_concat, List.map_map]
  refine List.map_congr_left fun c hc => ?_
  exact splitByte_join (List.cons_ne_nil _ _) fun t ht => ((h c hc).lineFields t ht).1

theorem identity_inj {r r' : Registry} (h : ∀ c ∈ r.classes, Separable c)
    (h' : ∀ c ∈ r'.classes, Separable c) (heq : r.identity = r'.identity) :
    r.classes = r'.classes := by
  have hfields := splitLines_identity h
  rw [heq, splitLines_identity h'] at hfields
  exact (List.map_injective_iff.mpr lineFields_injective hfields).symm

/-- Fingerprints are equal where the hashes of the texts are. -/
theorem fingerprint_eq_iff {r r' : Registry} :
    r.fingerprint = r'.fingerprint ↔ XxHash64.hash r.identity = XxHash64.hash r'.identity := by
  rw [fingerprint, fingerprint, XxHash64.hex, XxHash64.hex]
  constructor
  · intro h
    exact UInt64.toNat_inj.mp (hexOfNat_inj h)
  · intro h
    rw [h]

theorem Snapshot.mem {r : Registry} (h : Snapshot r cs) (hc : c ∈ r.classes) : c ∈ cs :=
  List.mem_of_find?_eq_some ((h.mem_iff c).mp hc).2

/-- **What identifies a registry.** The registry of a class list holds, in the order of names, the
first class of each name that is not empty. Where names are distinct, the order of the list does not
count. Where no field holds a zero byte or a line feed, two lists give the same classes if and only
if the texts that identify them are the same; so if the hash tells these texts apart, the
fingerprints are equal exactly when the classes are. -/
theorem ofClasses_identified (cs : List GlobalClass) :
    Snapshot (ofClasses cs) cs ∧
    (∀ cs', cs.Perm cs' → (cs.map (·.name)).Nodup →
      (ofClasses cs').classes = (ofClasses cs).classes) ∧
    ∀ cs', (∀ c ∈ cs, Separable c) → (∀ c ∈ cs', Separable c) →
      ((ofClasses cs).identity = (ofClasses cs').identity ↔
        (ofClasses cs).classes = (ofClasses cs').classes) ∧
      ∀ texts : Set Text, texts.InjOn XxHash64.hash → (ofClasses cs).identity ∈ texts →
        (ofClasses cs').identity ∈ texts →
        ((ofClasses cs).fingerprint = (ofClasses cs').fingerprint ↔
          (ofClasses cs).classes = (ofClasses cs').classes) := by
  have hsnapshot := snapshot_ofClasses cs
  refine ⟨hsnapshot, fun cs' hperm hdistinct => (classes_perm hperm hdistinct).symm, ?_⟩
  intro cs' hcs hcs'
  have hidentity : (ofClasses cs).identity = (ofClasses cs').identity ↔
      (ofClasses cs).classes = (ofClasses cs').classes := by
    constructor
    · exact identity_inj (fun c hc => hcs c (hsnapshot.mem hc))
        (fun c hc => hcs' c ((snapshot_ofClasses cs').mem hc))
    · intro h
      rw [identity, identity, h]
  refine ⟨hidentity, fun texts hinj hmem hmem' => ?_⟩
  rw [fingerprint_eq_iff, hinj.eq_iff hmem hmem', hidentity]

/-- Two classes, one of them listed twice, and one that goes by no name. -/
def playerClasses : List GlobalClass :=
  [{ name := "Player", path := "res://player.gd" }, { name := "Foe", base := "Player" },
    { name := "Player", path := "res://other.gd" }, { name := "" }]

/-- The same bytes in other fields. -/
def movedClasses : List GlobalClass :=
  [{ name := "Foe", path := "Player" }, { name := "Player", base := "res://player.gd" }]

theorem ofClasses_identified_player :
    (∀ c ∈ playerClasses, Separable c) ∧ (∀ c ∈ movedClasses, Separable c) ∧
      movedClasses.Perm movedClasses.reverse ∧ (movedClasses.map (·.name)).Nodup ∧
      Set.InjOn XxHash64.hash
        {(ofClasses movedClasses).identity, (ofClasses playerClasses).identity} ∧
      (ofClasses playerClasses).class? "Player" = playerClasses.head? ∧
      (ofClasses movedClasses.reverse).classes = (ofClasses movedClasses).classes ∧
      (ofClasses movedClasses).fingerprint ≠ (ofClasses playerClasses).fingerprint := by
  have hplayer : ∀ c ∈ playerClasses, Separable c := by decide
  have hmoved : ∀ c ∈ movedClasses, Separable c := by decide
  have hperm : movedClasses.Perm movedClasses.reverse := by decide
  have hdistinct : (movedClasses.map (·.name)).Nodup := by decide
  have hplayers : (ofClasses playerClasses).classes = [{ name := "Foe", base := "Player" },
      { name := "Player", path := "res://player.gd" }] := classes_eq (by decide) (by decide)
  have hmovers : (ofClasses movedClasses).classes = movedClasses :=
    classes_eq (by decide) (by decide)
  have htext : (ofClasses playerClasses).identity =
      "Foe\x00\x00Player\x00\x00false\nPlayer\x00res://player.gd\x00\x00\x00false\n" := by
    rw [identity, hplayers]
    decide
  have htext' : (ofClasses movedClasses).identity =
      "Foe\x00Player\x00\x00\x00false\nPlayer\x00\x00res://player.gd\x00\x00false\n" := by
    rw [identity, hmovers]
    decide
  have hinj : Set.InjOn XxHash64.hash
      {(ofClasses movedClasses).identity, (ofClasses playerClasses).identity} := by
    rw [Set.injOn_pair, htext, htext']
    intro h
    exact absurd h (by decide +kernel)
  obtain ⟨-, hsame, hidentified⟩ := ofClasses_identified movedClasses
  obtain ⟨hidentity, hfingerprint⟩ := hidentified playerClasses hmoved hplayer
  have hfirst := (ofClasses_identified playerClasses).1.first "Player" (by decide)
  refine ⟨hplayer, hmoved, hperm, hdistinct, hinj, hfirst, hsame _ hperm hdistinct, ?_⟩
  intro h
  have hclasses := (hfingerprint _ hinj (by simp) (by simp)).mp h
  rw [← hidentity, htext, htext'] at hclasses
  exact absurd hclasses (by decide)

end Registry
end GodotSurvey
