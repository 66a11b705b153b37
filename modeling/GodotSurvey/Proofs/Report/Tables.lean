import GodotSurvey.Proofs.Text.Lines
import GodotSurvey.Proofs.Text.Replacing
import GodotSurvey.Report.Scene
import Mathlib.Algebra.BigOperators.Group.List.Basic

/-!
# The shape of a table in Markdown

Cells hold any text that was found in a file. Their pipes are escaped, so the pipes of a row that no
backslash precedes are those around its cells. Their line feeds are written as they are, so a cell
that holds one ends the line of its row: the rows of a table are its lines exactly if no cell does.

* `barePipes_rowText` — the pipes of a row.
* `splitLines_markdown` — the lines of a table.
* `markdown_shape` — **a table keeps its shape exactly if its cells are lines.**
-/

namespace GodotSurvey.Table

open Text

/-! ## Rows -/

/-- Cells between pipes. -/
def cellLine (cells : List Text) : Text := "| " ++ join " | " cells ++ " |"

/-- The line of a row, if its cells are lines. -/
def rowText (row : List Text) : Text := cellLine (row.map escapePipes)

theorem pipeLine_eq (cells : List Text) : pipeLine cells = cellLine cells ++ [10] := by
  have hend : Text.ofString " |\n" = Text.ofString " |" ++ [10] := rfl
  simp [pipeLine, cellLine, hend]

/-! ## Escaped pipes -/

/-- What is written for a byte of a cell. -/
theorem escapePipes_cons (c : UInt8) (s : Text) :
    escapePipes (c :: s) = (if c = 124 then [92, 124] else [c]) ++ escapePipes s := by
  have hpipe : Text.ofString "|" = [124] := rfl
  have hescaped : Text.ofString "\\|" = [92, 124] := rfl
  have hone : ∀ p ∈ [(Text.ofString "|", Text.ofString "\\|")], p.1.length = 1 := by simp [hpipe]
  have hword : word [(Text.ofString "|", Text.ofString "\\|")] c =
      if c = 124 then [92, 124] else [c] := by
    rw [word, hpipe, hescaped, List.lookup_cons]
    by_cases hc : c = 124
    · subst hc
      rfl
    · have hmiss : ([c] == [(124 : UInt8)]) = false := by simpa using hc
      rw [hmiss, if_neg hc]
      rfl
  rw [escapePipes, replaceAll, replace_eq_flatMap hone, List.flatMap_cons, hword,
    ← replace_eq_flatMap hone, ← replaceAll, ← escapePipes]

theorem count_escapePipes {d : UInt8} (hpipe : d ≠ 124) (hslash : d ≠ 92) (s : Text) :
    (escapePipes s).count d = s.count d := by
  induction s with
  | nil => rfl
  | cons c s ih =>
    rw [escapePipes_cons, List.count_append, ih, ← List.count_append]
    split
    · rename_i hc
      subst hc
      simp [hpipe.symm, hslash.symm]
    · rfl

/-- The number of pipes that no backslash precedes; `previous` is the byte before the text. -/
def barePipesFrom (previous : Option UInt8) : Text → Nat
  | [] => 0
  | c :: rest =>
    (if c == '|' && previous != some '\\' then 1 else 0) + barePipesFrom (some c) rest

/-- The number of pipes that no backslash precedes. -/
def barePipes (s : Text) : Nat := barePipesFrom none s

theorem barePipesFrom_append (previous : Option UInt8) (s t : Text) :
    barePipesFrom previous (s ++ t) =
      barePipesFrom previous s + barePipesFrom (s.getLast?.or previous) t := by
  induction s generalizing previous with
  | nil => exact (Nat.zero_add _).symm
  | cons c s ih =>
    have hlast : (c :: s).getLast?.or previous = s.getLast?.or (some c) := by
      cases s <;> simp [List.getLast?_cons]
    rw [List.cons_append, barePipesFrom, barePipesFrom, ih, hlast, Nat.add_assoc]

/-- An escaped cell has none, whatever precedes it. -/
theorem barePipesFrom_escapePipes (previous : Option UInt8) (s : Text) :
    barePipesFrom previous (escapePipes s) = 0 := by
  have hpipe : '|'.toUInt8 = 124 := rfl
  have hslash : '\\'.toUInt8 = 92 := rfl
  induction s generalizing previous with
  | nil => rfl
  | cons c s ih =>
    rw [escapePipes_cons, barePipesFrom_append, ih, Nat.add_zero]
    by_cases hc : c = 124
    · simp [barePipesFrom, hpipe, hslash, hc]
    · simp [barePipesFrom, hpipe, hc]

theorem barePipesFrom_separator (previous : Option UInt8) (s : Text) :
    barePipesFrom previous (" | " ++ s) = 1 + barePipesFrom (some 32) s := by
  have hsep : Text.ofString " | " = [32, 124, 32] := rfl
  have hpipe : '|'.toUInt8 = 124 := rfl
  have hslash : '\\'.toUInt8 = 92 := rfl
  simp [barePipesFrom, hsep, hpipe, hslash]

/-- Between cells, one pipe stands between neighbours. -/
theorem barePipesFrom_join (previous : Option UInt8) (row : List Text) :
    barePipesFrom previous (join " | " (row.map escapePipes)) = row.length - 1 := by
  induction row generalizing previous with
  | nil => rfl
  | cons c row ih =>
    cases row with
    | nil => exact barePipesFrom_escapePipes previous c
    | cons d row =>
      rw [List.map_cons, join_cons _ _ (by simp), List.append_assoc, barePipesFrom_append,
        barePipesFrom_escapePipes, Nat.zero_add, barePipesFrom_separator, ih]
      simp [Nat.add_comm]

/-- The pipes of a row that no backslash precedes are those around its cells; a row without cells has
those around an empty one. -/
theorem barePipes_rowText (row : List Text) : barePipes (rowText row) = max 1 row.length + 1 := by
  have hopen : barePipesFrom none (Text.ofString "| ") = 1 := by decide
  have hclose (previous : Option UInt8) : barePipesFrom previous (Text.ofString " |") = 1 := by
    have hend : Text.ofString " |" = [32, 124] := rfl
    have hpipe : '|'.toUInt8 = 124 := rfl
    have hslash : '\\'.toUInt8 = 92 := rfl
    simp [barePipesFrom, hend, hpipe, hslash]
  rw [barePipes, rowText, cellLine, List.append_assoc, barePipesFrom_append, barePipesFrom_append,
    barePipesFrom_join, hopen, hclose]
  omega

/-! ## Lines -/

/-- The lines before the rows: a title and an empty line, the header, and the rule below it. -/
def front (t : Table) : List Text :=
  (if t.title.isEmpty then [] else ["### " ++ t.title, []]) ++
    [cellLine t.headers, cellLine (t.headers.map fun _ => Text.ofString "---")]

/-- The lines behind the rows: a footer, and an empty line. -/
def back (t : Table) : List Text :=
  (if t.footer.isEmpty then [] else [cellLine t.footer]) ++ [[]]

variable {t : Table}

theorem markdown_eq_lines (hrows : t.rows ≠ []) :
    t.markdown = lines (t.front ++ (t.rows.map rowText ++ t.back)) := by
  have hrows : t.rows.isEmpty = false := by simpa using hrows
  have hend : Text.ofString "\n" = [10] := rfl
  have hblank : Text.ofString "\n\n" = [10, 10] := rfl
  have htitle : onlyIf (!t.title.isEmpty) ("### " ++ t.title ++ "\n\n") =
      lines (if t.title.isEmpty then [] else ["### " ++ t.title, []]) := by
    cases t.title.isEmpty <;> simp [onlyIf, lines, hend, hblank]
  have hfooter : (if t.footer.isEmpty then [] else pipeLine t.footer) =
      lines (if t.footer.isEmpty then [] else [cellLine t.footer]) := by
    cases t.footer.isEmpty <;> simp [lines, hend, pipeLine_eq]
  have hbody : t.rows.flatMap (fun row => pipeLine (row.map escapePipes)) =
      lines (t.rows.map rowText) := by
    simp [lines, hend, pipeLine_eq, rowText, List.flatMap_map]
  rw [markdown, hrows, htitle, hfooter, hbody]
  simp [front, back, lines, hend, pipeLine_eq]

theorem not_mem_cellLine {cells : List Text} (h : ∀ c ∈ cells, 10 ∉ c) : 10 ∉ cellLine cells := by
  rw [cellLine, List.mem_append, List.mem_append, not_or, not_or]
  refine ⟨⟨by decide, fun hmem => ?_⟩, by decide⟩
  obtain hsep | ⟨c, hc, hmem⟩ := mem_join hmem
  · exact absurd hsep (by decide)
  · exact h c hc hmem

theorem not_mem_front (htitle : 10 ∉ t.title) (hheaders : ∀ h ∈ t.headers, 10 ∉ h) :
    ∀ line ∈ t.front, 10 ∉ line := by
  have hheader := not_mem_cellLine hheaders
  have hrule : 10 ∉ cellLine (t.headers.map fun _ => Text.ofString "---") := by
    apply not_mem_cellLine
    intro c hc
    obtain ⟨-, -, rfl⟩ := List.mem_map.1 hc
    decide
  have hhead : 10 ∉ Text.ofString "### " ++ t.title := by
    rw [List.mem_append, not_or]
    exact ⟨by decide, htitle⟩
  rw [front]
  cases t.title.isEmpty <;> simp_all

theorem not_mem_back (hfooter : ∀ f ∈ t.footer, 10 ∉ f) : ∀ line ∈ t.back, 10 ∉ line := by
  have hline := not_mem_cellLine hfooter
  rw [back]
  cases t.footer.isEmpty <;> simp_all

/-- What is written around cells holds no line feed, so a row has those of its cells. -/
theorem count_rowText (row : List Text) :
    (rowText row).count 10 = (row.map (List.count 10)).sum := by
  have hcells : (row.map escapePipes).map (List.count 10) = row.map (List.count 10) := by
    rw [List.map_map]
    exact List.map_congr_left fun c _ => count_escapePipes (by decide) (by decide) c
  have hopen : (Text.ofString "| ").count 10 = 0 := by decide
  have hclose : (Text.ofString " |").count 10 = 0 := by decide
  rw [rowText, cellLine, List.count_append, List.count_append, count_join (by decide), hcells, hopen,
    hclose, Nat.zero_add, Nat.add_zero]

/-- A row takes a line, and one more for each line feed in its cells. -/
theorem length_splitLines_rowText (row : List Text) :
    (splitLines (rowText row)).length = (row.map (List.count 10)).sum + 1 :=
  (length_splitByte 10 (rowText row)).trans (congrArg (· + 1) (count_rowText row))

theorem not_mem_rowText_iff {row : List Text} : 10 ∉ rowText row ↔ ∀ c ∈ row, 10 ∉ c := by
  rw [← List.count_eq_zero, count_rowText, List.sum_eq_zero_iff_forall_eq_nat]
  simp [List.count_eq_zero]

theorem splitLines_markdown (hrows : t.rows ≠ []) (htitle : 10 ∉ t.title)
    (hheaders : ∀ h ∈ t.headers, 10 ∉ h) (hfooter : ∀ f ∈ t.footer, 10 ∉ f) :
    splitLines t.markdown =
      t.front ++ (t.rows.map rowText).flatMap splitLines ++ (t.back ++ [[]]) := by
  rw [markdown_eq_lines hrows, splitLines_lines_flatMap, List.flatMap_append, List.flatMap_append,
    flatMap_splitLines_eq_iff.2 (not_mem_front htitle hheaders),
    flatMap_splitLines_eq_iff.2 (not_mem_back hfooter)]
  simp only [List.append_assoc]

theorem splitLines_markdown_iff (hrows : t.rows ≠ []) (htitle : 10 ∉ t.title)
    (hheaders : ∀ h ∈ t.headers, 10 ∉ h) (hfooter : ∀ f ∈ t.footer, 10 ∉ f) :
    splitLines t.markdown = t.front ++ t.rows.map rowText ++ (t.back ++ [[]]) ↔
      ∀ row ∈ t.rows, ∀ c ∈ row, 10 ∉ c := by
  rw [splitLines_markdown hrows htitle hheaders hfooter, List.append_cancel_right_eq,
    List.append_cancel_left_eq, flatMap_splitLines_eq_iff, List.forall_mem_map]
  exact forall₂_congr fun row _ => not_mem_rowText_iff

/-- The script references that lead nowhere are the rows of a table; they can hold line feeds, and
what is said of them cannot. -/
theorem exists_unresolvedTable {us : List UnresolvedScript} (hus : us ≠ []) :
    ∃ t : Table, Report.unresolvedTable us = [.table t] ∧
      t.rows = us.map (fun u => [u.nodePath, u.reference, u.reason.message]) ∧
      (splitLines t.markdown = t.front ++ t.rows.map rowText ++ (t.back ++ [[]]) ↔
        ∀ u ∈ us, 10 ∉ u.nodePath ∧ 10 ∉ u.reference) := by
  have hrows : us.map (fun u => [u.nodePath, u.reference, u.reason.message]) ≠ [] := by
    simpa using hus
  have htitle : 10 ∉ Text.ofString "Unresolved Scripts" := by decide
  have hheaders : ∀ h ∈ [Text.ofString "Node", "Reference", "Reason"], 10 ∉ h := by decide
  refine ⟨{
    title := "Unresolved Scripts"
    headers := ["Node", "Reference", "Reason"]
    rows := us.map fun u => [u.nodePath, u.reference, u.reason.message] }, ?_, rfl, ?_⟩
  · rw [Report.unresolvedTable, Report.optionalTable, if_neg (by simpa using hus)]
  · rw [splitLines_markdown_iff hrows htitle hheaders (List.forall_mem_nil _), List.forall_mem_map]
    refine forall₂_congr fun u _ => ?_
    have hreason : 10 ∉ u.reason.message := by cases u.reason <;> decide
    simp [hreason]

/-- **A table keeps its shape exactly if its cells are lines.** Let a table have rows, and let its
title, its header and its footer hold no line feed. Below the title, the header and its rule, and
before the footer and an empty line, stand the lines of its rows: as many for each row as its cells
have line feeds, and one more. So there is one line for each row if and only if no cell holds a line
feed. The pipes of a row that no backslash precedes are one more than its cells, whatever these
hold, or two if it has none. That is so too for the table of the script references of a scene that
lead nowhere, whose cells are the path of the node and the value of the property. -/
theorem markdown_shape (t : Table) (hrows : t.rows ≠ []) (htitle : ('\n' : UInt8) ∉ t.title)
    (hheaders : ∀ h ∈ t.headers, ('\n' : UInt8) ∉ h)
    (hfooter : ∀ f ∈ t.footer, ('\n' : UInt8) ∉ f) :
    splitLines t.markdown =
        t.front ++ (t.rows.map rowText).flatMap splitLines ++ (t.back ++ [[]]) ∧
      (splitLines t.markdown = t.front ++ t.rows.map rowText ++ (t.back ++ [[]]) ↔
        ∀ row ∈ t.rows, ∀ c ∈ row, ('\n' : UInt8) ∉ c) ∧
      (∀ row ∈ t.rows,
        (splitLines (rowText row)).length = (row.map (List.count ('\n' : UInt8))).sum + 1 ∧
        barePipes (rowText row) = max 1 row.length + 1) ∧
      ∀ us, us ≠ [] → ∃ lost : Table, Report.unresolvedTable us = [.table lost] ∧
        lost.rows = us.map (fun u => [u.nodePath, u.reference, u.reason.message]) ∧
        (splitLines lost.markdown = lost.front ++ lost.rows.map rowText ++ (lost.back ++ [[]]) ↔
          ∀ u ∈ us, ('\n' : UInt8) ∉ u.nodePath ∧ ('\n' : UInt8) ∉ u.reference) := by
  refine ⟨splitLines_markdown hrows htitle hheaders hfooter,
    splitLines_markdown_iff hrows htitle hheaders hfooter, fun row _ => ?_, fun us hus => ?_⟩
  · exact ⟨length_splitLines_rowText row, barePipes_rowText row⟩
  · exact exists_unresolvedTable hus

/-- A table with a pipe and a backslash in its cells, and a row without cells. -/
def mixed : Table where
  title := "Mixed"
  headers := ["a", "b"]
  rows := [["x|y", "\\"], []]
  footer := ["2", ""]

theorem markdown_shape_mixed :
    mixed.rows ≠ [] ∧ ('\n' : UInt8) ∉ mixed.title ∧ (∀ h ∈ mixed.headers, ('\n' : UInt8) ∉ h) ∧
      (∀ f ∈ mixed.footer, ('\n' : UInt8) ∉ f) ∧
      splitLines mixed.markdown = ["### Mixed", "", "| a | b |", "| --- | --- |", "| x\\|y | \\ |",
        "|  |", "| 2 |  |", "", ""] ∧
      barePipes "| x\\|y | \\ |" = 3 := by
  obtain ⟨-, hlines, hrow, -⟩ :=
    markdown_shape mixed (by decide) (by decide) (by decide) (by decide)
  refine ⟨by decide, by decide, by decide, by decide, ?_, ?_⟩
  · exact (hlines.2 (by decide)).trans (by decide)
  · exact (hrow ["x|y", "\\"] (by decide)).2

/-- A property value of two lines ends the row of the reference that it is. -/
theorem reference_ends_row :
    let content : Text := "[node name=\"Main\"]\nscript = \"door\n.gd\"\n"
    let scene := SceneResult.ofContent {} "res://s.tscn" content
    scene.unresolved = [⟨".", "\"door\n.gd\"", .notInProject⟩] ∧
      splitLines (Report.markdowns (Report.unresolvedTable scene.unresolved)) =
        ["### Unresolved Scripts", "", "| Node | Reference | Reason |", "| --- | --- | --- |",
          "| . | \"door", ".gd\" | script reference is not a res:// path |", "", ""] := by
  decide +kernel

end GodotSurvey.Table
