import GodotSurvey.Proofs.Project.ResourcePaths
import GodotSurvey.Proofs.Text.Relative

/-!
# Resource paths of files

A file below the project's root is named by the way to it from the root, and its resource path leads
back to it. Whether a file lies below the root is told from the text of that way: it must not begin
with two dots. So a file outside keeps its path, and so does a file below the root whose first name
begins with two dots. Either path leads to the file again.

* `ofFile_below`, `ofFile_outside` — the resource path of a file below the root, and of any other.
* `ofFile_below_iff` — **a file below the root is named by the way to it if and only if that does
  not begin with two dots; its name always leads back to it.**
-/

namespace GodotSurvey.ResourcePath

open GodotSurvey.Path Text

variable {names names' more : List Text}

theorem ofFile_below (h : ∀ n ∈ names, isName n = true) (h' : ∀ n ∈ more, isName n = true) :
    ofFile (rooted names) (rooted (names ++ more)) =
      if startsWith (along more) ".." then rooted (names ++ more)
      else resScheme ++ clean (along more) := by
  have hscheme :
      (startsWith (rooted (names ++ more)) resScheme || (rooted names).isEmpty) = false := rfl
  rw [ofFile, hscheme, relative?_below h h']
  rfl

theorem ofFile_outside (h : ∀ n ∈ names, isName n = true) (h' : ∀ n ∈ names', isName n = true)
    (hout : ¬ names <+: names') : ofFile (rooted names) (rooted names') = rooted names' := by
  have hscheme : (startsWith (rooted names') resScheme || (rooted names).isEmpty) = false := rfl
  obtain ⟨rel, hrel, hup⟩ := relative?_outside h h' hout
  rw [ofFile, hscheme, hrel]
  simp [hup]

/-- A path without scheme leads where it says. -/
theorem resolve?_rooted (root : Text) (names : List Text) :
    resolve? root (rooted names) = some (rooted names) := rfl

theorem resolve?_along (h : ∀ n ∈ names, isName n = true) (h' : ∀ n ∈ more, isName n = true) :
    resolve? (rooted names) (resScheme ++ along more) = some (rooted (names ++ more)) := by
  rw [resolve?, dropStart?_eq_some_iff.mpr rfl]
  exact congrArg some (join_rooted_along h h')

/-- **The names of files.** From a clean absolute root, a file that a clean relative path without
`..` leads to has `res://` and this path as its name if and only if the path does not begin with two
dots, and otherwise its own path. Its name leads back to it. A file that is neither the root nor
below it has its own path as its name. -/
theorem ofFile_below_iff {root rel : Text} (habs : isAbsolute root = true)
    (hclean : clean root = root) (hrel : Descends rel) :
    let p := join [root, rel]
    (ofFile root p = resScheme ++ rel ↔ startsWith rel ".." = false) ∧
      (startsWith rel ".." = true → ofFile root p = p) ∧
      resolve? root (ofFile root p) = some p ∧
      ∀ q, isAbsolute q = true → clean q = q → ¬ Within root q → ofFile root q = q := by
  intro p
  obtain ⟨names, hnames, rfl⟩ := exists_names_of_clean habs hclean
  obtain ⟨more, hmore, rfl⟩ := exists_names_of_descends hrel
  have hp : p = rooted (names ++ more) := join_rooted_along hnames hmore
  have hfile := ofFile_below hnames hmore
  rw [← hp, hrel.clean] at hfile
  refine ⟨?_, ?_, ?_, ?_⟩
  · cases hdots : startsWith (along more) ".." with
    | false =>
      rw [hdots] at hfile
      exact iff_of_true hfile rfl
    | true =>
      rw [hdots] at hfile
      refine iff_of_false ?_ nofun
      rw [hfile]
      intro heq
      rw [hp] at heq
      cases heq
  · intro hdots
    rw [hfile, if_pos hdots]
  · rw [hfile]
    split
    · rw [hp]
      exact resolve?_rooted _ _
    · rw [hp]
      exact resolve?_along hnames hmore
  · intro q hq hqclean hout
    obtain ⟨names', hnames', rfl⟩ := exists_names_of_clean hq hqclean
    rw [within_rooted hnames hnames'] at hout
    exact ofFile_outside hnames hnames' hout

theorem ofFile_below_iff_scripts :
    isAbsolute "/home/game" = true ∧ clean "/home/game" = "/home/game" ∧
      Descends "scripts/..door.gd" ∧
      ofFile "/home/game" "/home/game/scripts/..door.gd" = "res://scripts/..door.gd" ∧
      resolve? "/home/game" "res://scripts/..door.gd" = some "/home/game/scripts/..door.gd" ∧
      ofFile "/home/game" "/home/games/door.gd" = "/home/games/door.gd" := by
  have habs : isAbsolute "/home/game" = true := by decide
  have hclean : clean "/home/game" = "/home/game" := by decide
  have hrel : Descends "scripts/..door.gd" := by decide
  have hjoin : join ["/home/game", "scripts/..door.gd"] = "/home/game/scripts/..door.gd" := by
    decide
  obtain ⟨hname, -, hback, hout⟩ := ofFile_below_iff habs hclean hrel
  rw [hjoin] at hname hback
  have hfile := hname.mpr (by decide)
  rw [hfile] at hback
  exact ⟨habs, hclean, hrel, hfile, hback, hout _ (by decide) (by decide) (by decide)⟩

/-- A directory below the root whose name begins with two dots. -/
theorem backup_not_named :
    isAbsolute "/game" = true ∧ clean "/game" = "/game" ∧ Descends "..backup/door.gd" ∧
      join ["/game", "..backup/door.gd"] = "/game/..backup/door.gd" ∧
      Within "/game" "/game/..backup/door.gd" ∧
      ofFile "/game" "/game/..backup/door.gd" = "/game/..backup/door.gd" ∧
      ofFile "/game" "/game/..backup/door.gd" ≠ "res://..backup/door.gd" := by
  decide

end GodotSurvey.ResourcePath
