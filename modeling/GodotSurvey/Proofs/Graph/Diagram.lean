import GodotSurvey.Proofs.Graph.Identifiers
import GodotSurvey.Proofs.Graph.Parts
import GodotSurvey.Proofs.Text.Lines

/-!
# The lines of a diagram

Names and ids of nodes are arbitrary bytes, so a diagram has to keep them from ending a line, or the
shape around a label. Labels are escaped, byte by byte, and identifiers hold no other bytes than
letters, digits and underscores. So the text has a line for its header, for each node and for each
edge that is drawn, and no other lines, and in the line of a node exactly two quotes, those around
its label.

Limits keep the first nodes, and of the edges between those the first ones.

* `splitLines_render` — the lines of a diagram.
* `splitByte_nodeText` — what the quotes in the line of a node separate.
* `keptNodes_eq`, `keptEdges_eq` — what is drawn.
* `escapeLabel_injective` — labels that differ are written differently.
* `render_wellFormed` — **a diagram of a closed graph is well formed, whatever the names are.**
-/

namespace GodotSurvey.Mermaid

open Text GodotSurvey.Graph

/-! ## Labels -/

theorem escapeLabel_injective : Function.Injective escapeLabel := by
  have hapart : ∀ p ∈ labelEscapes, ∀ q ∈ labelEscapes, p.2 <+: q.2 → p.1 = q.1 := by decide
  have hfirst : ∀ p ∈ labelEscapes, ∃ q ∈ labelEscapes, q.1 <+: p.2 := by decide
  exact replace_injective labelEscapes_single hapart hfirst

/-- What a node is called in its label: its name, or its id if it has none. -/
def shownName (n : Node) : Text := if n.name.isEmpty then n.id else n.name

/-- The brackets of a shape, before its label. -/
def opening : NodeKind → Text
  | .scene => "[["
  | .resource => "[("
  | .engineClass => "\x7b\x7b"
  | _ => "["

/-- The brackets of a shape, behind its label. -/
def closing : NodeKind → Text
  | .scene => "]]"
  | .resource => ")]"
  | .engineClass => "\x7d\x7d"
  | _ => "]"

theorem shape_eq (kind : NodeKind) (label : Text) :
    shape kind label = opening kind ++ 34 :: (label ++ 34 :: closing kind) := by
  cases kind <;> simp [shape, opening, closing, Text.ofString, String.utf8EncodeChar]

/-- The quotes in the line of a node are those around its label. -/
theorem splitByte_nodeText (n : Node) : splitByte 34 (nodeText n) =
    ["    " ++ identifier n.id ++ opening n.kind, escapeLabel (shownName n), closing n.kind] := by
  have hidentifier : 34 ∉ identifier n.id := by
    intro h
    exact absurd (isIdent_of_mem_identifier h) (by decide)
  have hopening : ∀ kind, 34 ∉ opening kind := by
    intro kind
    cases kind <;> simp [opening, Text.ofString, String.utf8EncodeChar]
  have hclosing : ∀ kind, 34 ∉ closing kind := by
    intro kind
    cases kind <;> simp [closing, Text.ofString, String.utf8EncodeChar]
  have hbefore : 34 ∉ Text.ofString "    " ++ identifier n.id ++ opening n.kind := by
    simp only [List.mem_append, not_or]
    exact ⟨⟨by decide, hidentifier⟩, hopening n.kind⟩
  have hline : nodeText n = Text.ofString "    " ++ identifier n.id ++ opening n.kind ++
      34 :: (escapeLabel (shownName n) ++ 34 :: closing n.kind) := by
    rw [nodeText, shape_eq, ← List.append_assoc]
    rfl
  rw [hline, splitByte_append hbefore, splitByte_append (not_mem_escapeLabel (by decide) _),
    splitByte_of_not_mem (hclosing n.kind)]

/-! ## Lines -/

/-- The first line of a diagram, without its end. -/
def headerText (opts : Options) : Text :=
  "graph " ++ if opts.direction.isEmpty then Text.ofString "TD" else opts.direction

theorem not_mem_headerText {opts : Options} (h : 10 ∉ opts.direction) : 10 ∉ headerText opts := by
  rw [headerText, List.mem_append, not_or]
  constructor
  · decide
  · split
    · decide
    · exact h

/-- The text has one line for the header, for each node and for each edge that is drawn. -/
theorem render_eq_lines (opts : Options) (g : Graph) : render opts g =
    lines (headerText opts ::
      ((keptNodes opts g).map nodeText ++ (keptEdges opts g).map edgeText)) := by
  rw [lines, List.flatMap_cons, List.flatMap_append, List.flatMap_map, List.flatMap_map,
    ← List.append_assoc, headerText]
  split <;> simp [render, *] <;> rfl

theorem splitLines_render {opts : Options} (h : 10 ∉ opts.direction) (g : Graph) :
    splitLines (render opts g) = headerText opts ::
      ((keptNodes opts g).map nodeText ++ (keptEdges opts g).map edgeText) ++ [[]] := by
  rw [render_eq_lines, splitLines_lines]
  intro line hline
  obtain rfl | hline := List.mem_cons.1 hline
  · exact not_mem_headerText h
  · obtain hline | hline := List.mem_append.1 hline
    · obtain ⟨n, -, rfl⟩ := List.mem_map.1 hline
      exact not_mem_nodeText n
    · obtain ⟨e, -, rfl⟩ := List.mem_map.1 hline
      exact not_mem_edgeText e

/-! ## Limits -/

/-- The first items where there are more than a positive limit, else all of them. -/
def firstOf {α : Type} (limit : Int) (items : List α) : List α :=
  if 0 < limit ∧ limit < items.length then items.take limit.toNat else items

theorem limited_eq_firstOf {α : Type} (limit : Int) (items : List α) :
    limited limit items = firstOf limit items := by
  by_cases hpos : 0 < limit
  · by_cases hlt : limit < items.length
    · rw [limited, firstOf, if_pos hpos, if_pos ⟨hpos, hlt⟩]
    · have htake : items.take limit.toNat = items := List.take_of_length_le (by omega)
      rw [limited, firstOf, if_pos hpos, if_neg fun h => hlt h.2, htake]
  · rw [limited, firstOf, if_neg hpos, if_neg fun h => hpos h.1]

theorem keptNodes_eq (opts : Options) (g : Graph) :
    keptNodes opts g = firstOf opts.maxNodes g.nodes :=
  limited_eq_firstOf _ _

/-- Whether nodes are left out or not, the edges come from those that join drawn nodes. -/
theorem keptEdges_eq {g : Graph} (h : g.IsClosed) (opts : Options) :
    keptEdges opts g =
      firstOf opts.maxEdges (g.edges.filter (·.joins (firstOf opts.maxNodes g.nodes))) := by
  rw [keptEdges, limited_eq_firstOf, ← keptNodes_eq]
  split_ifs with hcut
  · rfl
  · have hall : keptNodes opts g = g.nodes :=
      (limited_sublist _ _).eq_of_length_le (Nat.le_of_not_lt hcut)
    rw [hall, filter_joins_eq_self h]

/-- An edge that is drawn joins nodes that are drawn. -/
theorem exists_keptNodes {g : Graph} (h : g.IsClosed) {opts : Options} {e : Edge}
    (he : e ∈ keptEdges opts g) :
    (∃ n ∈ keptNodes opts g, n.id = e.source) ∧ ∃ n ∈ keptNodes opts g, n.id = e.target := by
  rw [keptEdges_eq h, ← keptNodes_eq, ← limited_eq_firstOf] at he
  have hjoins := (List.mem_filter.1 ((limited_sublist _ _).subset he)).2
  simpa [List.mem_map] using Edge.joins_iff.1 hjoins

/-- **A diagram is well formed, whatever the names are.** If the edges of a graph join its nodes, and
the direction is one line, then the lines of its diagram are the header, a line for each node that
is drawn and a line for each edge that is drawn. Drawn are the first nodes, and the first of the
edges between them. The line of an edge begins and ends with the identifiers of drawn nodes, with
which their lines begin. The line of a node holds two quotes, and between them its label: labels
that differ are written differently, and none holds a quote, a bar, a bracket, a brace or a line
feed. -/
theorem render_wellFormed (opts : Options) (g : Graph) (hclosed : g.IsClosed)
    (hdirection : ('\n' : UInt8) ∉ opts.direction) :
    let nodes := firstOf opts.maxNodes g.nodes
    let edges := firstOf opts.maxEdges (g.edges.filter (·.joins nodes))
    splitLines (render opts g) =
        headerText opts :: (nodes.map nodeText ++ edges.map edgeText) ++ [[]] ∧
      (∀ e ∈ edges, ∃ n ∈ nodes, ∃ m ∈ nodes, n.id = e.source ∧ m.id = e.target ∧
        leading (edgeText e) = leading (nodeText n) ∧
        trailing (edgeText e) = leading (nodeText m)) ∧
      (∀ n, splitByte '"' (nodeText n) =
        ["    " ++ identifier n.id ++ opening n.kind, escapeLabel (shownName n), closing n.kind]) ∧
      Function.Injective escapeLabel ∧
      ∀ c ∈ Text.ofString "\"|[]\x7b\x7d\n", ∀ s, c ∉ escapeLabel s := by
  intro nodes edges
  have hnodes : keptNodes opts g = nodes := keptNodes_eq opts g
  have hedges : keptEdges opts g = edges := keptEdges_eq hclosed opts
  refine ⟨?_, ?_, splitByte_nodeText, escapeLabel_injective, fun c hc => not_mem_escapeLabel hc⟩
  · rw [← hnodes, ← hedges]
    exact splitLines_render hdirection g
  · intro e he
    rw [← hedges] at he
    obtain ⟨⟨n, hn, hsource⟩, m, hm, htarget⟩ := exists_keptNodes hclosed he
    refine ⟨n, hnodes ▸ hn, m, hnodes ▸ hm, hsource, htarget, ?_, ?_⟩
    · rw [leading_edgeText, leading_nodeText, hsource]
    · rw [trailing_edgeText, leading_nodeText, htarget]

/-- A script whose name would end its shape and its line, a scene without a name, and a script that
is not drawn if there may be two nodes only. -/
def market : Graph where
  nodes := [⟨"res://a.gd", "A\"]\n|x", .script⟩, ⟨"res://b.tscn", "", .scene⟩,
    ⟨"res://c.gd", "C", .script⟩]
  edges := [⟨"res://c.gd", "res://a.gd", .dependency .load, 1⟩,
    ⟨"res://b.tscn", "res://a.gd", .attaches, 2⟩, ⟨"res://b.tscn", "res://a.gd", .instances, 1⟩]

theorem render_wellFormed_market :
    let opts : Options := { maxNodes := 2, maxEdges := 1 }
    market.IsClosed ∧ ('\n' : UInt8) ∉ opts.direction ∧
      splitLines (render opts market) = ["graph LR",
        "    res___a_gd[\"A&quot;&#93;<br/>&#124;x\"]", "    res___b_tscn[[\"res://b.tscn\"]]",
        "    res___b_tscn ==>|script| res___a_gd", ""] ∧
      escapeLabel "a|b" ≠ escapeLabel "a&#124;b" := by
  intro opts
  have hclosed : market.IsClosed := by decide
  have hdirection : ('\n' : UInt8) ∉ opts.direction := by decide
  obtain ⟨hlines, -, -, hinjective, -⟩ := render_wellFormed opts market hclosed hdirection
  refine ⟨hclosed, hdirection, hlines.trans (by decide), hinjective.ne (by decide)⟩

end GodotSurvey.Mermaid
