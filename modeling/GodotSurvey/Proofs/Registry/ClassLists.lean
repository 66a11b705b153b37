import GodotSurvey.Proofs.Registry.Dictionary

/-!
# Written class lists

The engine writes the global classes of a project as a list of dictionaries: into its class cache,
with most strings marked as names, or into the project file, with plain strings. Both are read back,
class by class and in order, whatever the strings hold but quotes and backslashes. What no
dictionary says is whether a class is an autoload.

* `classOfBlock?_classEntries` — one dictionary is read as its class.
* `classList_listText` — behind a list, reading goes on with what follows it.
* `providers_read_classes` — **both sources give back the classes that were written.**
-/

namespace GodotSurvey

open Text Lexing Registry

/-- The class with all that a class list says of it. -/
def GlobalClass.listed (c : GlobalClass) : GlobalClass := { c with autoload := false }

/-- The class can be written into a class list. -/
structure GlobalClass.Listable (c : GlobalClass) : Prop where
  named : c.name ≠ []
  name : Quotable c.name
  path : Quotable c.path
  base : Quotable c.base
  language : Quotable c.language

theorem GlobalClass.listable_iff {c : GlobalClass} : c.Listable ↔ c.name ≠ [] ∧ Quotable c.name ∧
    Quotable c.path ∧ Quotable c.base ∧ Quotable c.language :=
  ⟨fun h => ⟨h.named, h.name, h.path, h.base, h.language⟩,
    fun h => ⟨h.1, h.2.1, h.2.2.1, h.2.2.2.1, h.2.2.2.2⟩⟩

instance (c : GlobalClass) : Decidable c.Listable := decidable_of_iff' _ GlobalClass.listable_iff

namespace Registry

/-! ## Writing -/

/-- The dictionary of a class; with `names`, the strings that are names are marked so. -/
def classEntries (names : Bool) (c : GlobalClass) : List DictEntry :=
  [⟨"base", c.base, names⟩, ⟨"class", c.name, names⟩, ⟨"icon", "", false⟩,
    ⟨"language", c.language, names⟩, ⟨"path", c.path, false⟩]

/-- The dictionaries of classes, in order. -/
def listText (names : Bool) (gap : Text) (cs : List GlobalClass) : Text :=
  Text.join ", " (cs.map fun c => dictText gap (classEntries names c))

/-- The text of a class cache. -/
def cacheText (gap : Text) (cs : List GlobalClass) : Text :=
  "list=Array[Dictionary]([" ++ listText true gap cs ++ "])"

/-- The class list in a project file. -/
def projectText (gap : Text) (cs : List GlobalClass) : Text :=
  "_global_script_classes=[ " ++ listText false gap cs ++ " ]"

variable {gap s t : Text} {c : GlobalClass} {cs : List GlobalClass}

/-! ## Reading a class -/

theorem wellFormed_classEntries (hc : c.Listable) (names : Bool) :
    ∀ e ∈ classEntries names c, e.WellFormed := by
  have hkeys : ∀ key ∈ ["base", "class", "icon", "language", "path"], Quotable (ofString key) := by
    decide
  intro e he
  simp only [classEntries, List.mem_cons, List.not_mem_nil, or_false] at he
  rcases he with rfl | rfl | rfl | rfl | rfl
  · exact ⟨hkeys _ (by simp), hc.base⟩
  · exact ⟨hkeys _ (by simp), hc.name⟩
  · exact ⟨hkeys _ (by simp), quotable_iff.mpr (by decide)⟩
  · exact ⟨hkeys _ (by simp), hc.language⟩
  · exact ⟨hkeys _ (by simp), hc.path⟩

theorem classOfBlock?_classEntries (hgap : IsGap gap) (hc : c.Listable) (names : Bool) :
    classOfBlock? (dictBody gap (classEntries names c)) = some c.listed := by
  have hread {key : Text} (hkey : ∀ b ∈ key, isIdent b = true) :=
    dictString_dictBody hkey hgap (wellFormed_classEntries hc names)
  have hname : dictString (dictBody gap (classEntries names c)) "class" = c.name :=
    (hread (by decide)).trans rfl
  have hpath : dictString (dictBody gap (classEntries names c)) "path" = c.path :=
    (hread (by decide)).trans rfl
  have hbase : dictString (dictBody gap (classEntries names c)) "base" = c.base :=
    (hread (by decide)).trans rfl
  have hlanguage : dictString (dictBody gap (classEntries names c)) "language" = c.language :=
    (hread (by decide)).trans rfl
  simp only [classOfBlock?, hname, hpath, hbase, hlanguage]
  rw [List.isEmpty_eq_false_iff.mpr hc.named, if_neg (by simp)]
  rfl

/-! ## Reading a list -/

theorem classListFrom_length (s t : Text) :
    classListFrom s.length (s ++ t) = classListFrom 0 t := by
  induction s with
  | nil => rfl
  | cons c s ih => exact ih

/-- What holds neither a quote nor a brace is passed over. -/
theorem classListFrom_append (h : ∀ b ∈ s, b ≠ 34 ∧ b ≠ 123) (t : Text) :
    classListFrom 0 (s ++ t) = classListFrom 0 t := by
  induction s with
  | nil => rfl
  | cons b s ih =>
    obtain ⟨hquote, hbrace⟩ := h b List.mem_cons_self
    have hquote : (b == '"') = false := beq_false_of_ne hquote
    have hbrace : (b == '{') = false := beq_false_of_ne hbrace
    rw [List.cons_append, classListFrom, hquote, hbrace]
    exact ih fun d hd => h d (List.mem_cons_of_mem b hd)

theorem classListFrom_dictText (hgap : IsGap gap) (hc : c.Listable) (names : Bool) (t : Text) :
    classListFrom 0 (dictText gap (classEntries names c) ++ t) =
      c.listed :: classListFrom 0 t := by
  have hclose := closeOfFirst?_dictText hgap (classEntries names c) t
  have hblock := classOfBlock?_classEntries hgap hc names
  have hskip := classListFrom_length (dictBody gap (classEntries names c) ++ [125]) t
  rw [dictText_append] at hclose ⊢
  generalize dictBody gap (classEntries names c) = body at hclose hblock hskip
  rw [List.length_append, List.length_singleton, List.append_assoc] at hskip
  have hquote : ((123 : UInt8) == '"') = false := rfl
  have hbrace : ((123 : UInt8) == '{') = true := rfl
  rw [classListFrom, hquote, hbrace, hclose]
  simp only [Bool.false_eq_true, if_false, if_true, Nat.add_sub_cancel, List.take_left, hblock]
  exact congrArg (c.listed :: ·) hskip

/-- Behind the dictionaries of a list, reading goes on with what follows. -/
theorem classListFrom_listText (hgap : IsGap gap) (hcs : ∀ c ∈ cs, c.Listable) (names : Bool)
    (t : Text) :
    classListFrom 0 (listText names gap cs ++ t) =
      cs.map GlobalClass.listed ++ classListFrom 0 t := by
  induction cs with
  | nil => rfl
  | cons c cs ih =>
    have hc := hcs c List.mem_cons_self
    have ih := ih fun d hd => hcs d (List.mem_cons_of_mem c hd)
    have hcons : listText names gap (c :: cs) ++ t = dictText gap (classEntries names c) ++
        ((if cs = [] then [] else [44, 32]) ++ (listText names gap cs ++ t)) := by
      cases cs with
      | nil => rfl
      | cons d cs =>
        rw [listText, List.map_cons, Text.join_cons _ _ (by simp), List.append_assoc,
          List.append_assoc]
        rfl
    rw [hcons, classListFrom_dictText hgap hc, classListFrom_append, ih]
    · rfl
    · split <;> decide

theorem cachedClasses_cacheText (hgap : IsGap gap) (hcs : ∀ c ∈ cs, c.Listable) :
    cachedClasses (cacheText gap cs) = cs.map GlobalClass.listed := by
  have hmarker : fromMarker (cacheText gap cs) "list=" = cacheText gap cs := rfl
  have hend : classListFrom 0 (ofString "])") = [] := by decide
  rw [cachedClasses, hmarker, classList, cacheText, List.append_assoc,
    classListFrom_append (by decide), classListFrom_listText hgap hcs, hend, List.append_nil]

theorem hides_listText (hgap : IsGap gap) (names : Bool) (cs : List GlobalClass) :
    Hides [91, 93] (listText names gap cs) := by
  apply hides_join (hides_of_forall (by decide))
  intro t ht
  obtain ⟨c, -, rfl⟩ := List.mem_map.mp ht
  exact hides_dictText hgap _

/-- The list in a project file ends at its own bracket. -/
theorem inner_projectText (hgap : IsGap gap) (cs : List GlobalClass) :
    (inner (projectText gap cs) 23).1 = 32 :: (listText false gap cs ++ [32]) := by
  have hcontent : Hides [91, 93] (32 :: (listText false gap cs ++ [32])) := by
    have hblank : Hides [91, 93] [32] := hides_of_forall (by decide)
    exact hblank.append ((hides_listText hgap false cs).append hblank)
  have hbalanced : IsBalanced 91 93 (32 :: (listText false gap cs ++ [32])) :=
    hcontent.isBalanced (by decide) (by decide)
  have hgroup := inner_group rfl hcontent.run hbalanced "_global_script_classes=" []
  have htext : projectText gap cs = ofString "_global_script_classes=" ++
      91 :: (32 :: (listText false gap cs ++ [32]) ++ 93 :: []) := by
    rw [projectText, List.append_assoc, List.cons_append, List.append_assoc]
    rfl
  rw [htext]
  exact congrArg Prod.fst hgroup

theorem listedClasses_projectText (hgap : IsGap gap) (hcs : ∀ c ∈ cs, c.Listable) :
    listedClasses (projectText gap cs) = cs.map GlobalClass.listed := by
  have hmarker : fromMarker (projectText gap cs) "_global_script_classes=" = projectText gap cs :=
    rfl
  have hopen : findByte? (projectText gap cs) '[' = some 23 := rfl
  have hend : classListFrom 0 [32] = [] := by decide
  simp only [listedClasses, hmarker, hopen]
  rw [inner_projectText hgap, classList, ← List.singleton_append, classListFrom_append (by decide),
    classListFrom_listText hgap hcs, hend, List.append_nil]

/-! ## Reading the files -/

theorem readOptional_ok {fs : FileSystem} {p : Text} (h : fs.readFile p = .ok s) :
    readOptional fs p = .ok s := by
  rw [readOptional, h]

/-- **Class lists are read as they were written.** If the class cache of a project, or its project
file, holds the list of some classes, each with a name and with strings that stand between quotes as
they are, then exactly these classes are read from it, in order. An autoload among them is read as
another class, since a list does not tell them apart. -/
theorem providers_read_classes (hgap : IsGap gap) (hcs : ∀ c ∈ cs, c.Listable) (fs : FileSystem)
    (root : Text) (skipDirs : List Text) :
    (fs.readFile (cacheFile root) = .ok (cacheText gap cs) →
      Provider.classCache.classes fs root skipDirs = .ok (cs.map GlobalClass.listed)) ∧
    (fs.readFile (Path.join [root, Source.projectMarker]) = .ok (projectText gap cs) →
      Provider.projectClasses.classes fs root skipDirs = .ok (cs.map GlobalClass.listed)) ∧
    ((∀ c ∈ cs, c.autoload = false) → cs.map GlobalClass.listed = cs) := by
  refine ⟨?_, ?_, ?_⟩
  · intro hfile
    rw [Provider.classes, readOptional_ok hfile, ← cachedClasses_cacheText hgap hcs]
    rfl
  · intro hfile
    rw [Provider.classes, readOptional_ok hfile, ← listedClasses_projectText hgap hcs]
    rfl
  · intro hplain
    have hid : cs.map GlobalClass.listed = cs.map id := by
      refine List.map_congr_left fun c hc => ?_
      rw [GlobalClass.listed, ← hplain c hc]
      rfl
    rw [hid, List.map_id]

/-- Classes whose strings look like parts of a list. -/
def trickyClasses : List GlobalClass :=
  [{ name := "class", path := "res://a\x7bb\x7d[0]/it's.gd", base := "\x7d, \x7b",
      language := "list=" },
    { name := "\x7d])", path := "res://two\nlines.gd" }]

/-- A project that lists these classes in both places. -/
def trickyProject : FileSystem where
  root := .directory [("game", .directory [
    (".godot", .directory [
      ("global_script_class_cache.cfg", .file (cacheText "\n" trickyClasses))]),
    ("project.godot", .file (projectText "\n" trickyClasses))])]

theorem providers_read_classes_tricky :
    IsGap "\n" ∧ (∀ c ∈ trickyClasses, c.Listable) ∧ (∀ c ∈ trickyClasses, c.autoload = false) ∧
      trickyProject.readFile (cacheFile "/game") = .ok (cacheText "\n" trickyClasses) ∧
      Provider.classCache.classes trickyProject "/game" [] = .ok trickyClasses ∧
      Provider.projectClasses.classes trickyProject "/game" [] = .ok trickyClasses := by
  have hgap : IsGap "\n" := by decide
  have hcs : ∀ c ∈ trickyClasses, c.Listable := by decide
  have hplain : ∀ c ∈ trickyClasses, c.autoload = false := by decide
  have hcache : trickyProject.readFile (cacheFile "/game") =
    .ok (cacheText "\n" trickyClasses) := rfl
  have hproject : trickyProject.readFile (Path.join ["/game", Source.projectMarker]) =
    .ok (projectText "\n" trickyClasses) := rfl
  obtain ⟨hcached, hlisted, hself⟩ :=
    providers_read_classes hgap hcs trickyProject "/game" []
  rw [hself hplain] at hcached hlisted
  exact ⟨hgap, hcs, hplain, hcache, hcached hcache, hlisted hproject⟩

end Registry
end GodotSurvey
