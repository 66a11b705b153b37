import GodotSurvey.Graph.Mermaid
import GodotSurvey.Proofs.Text.Replacing
import GodotSurvey.Proofs.Text.Search
import Mathlib.Data.List.DropRight
import Mathlib.Data.List.Forall2
import Mathlib.Data.List.Nodup
import Mathlib.Data.List.TakeWhile

/-!
# Nodes as a diagram names them

A diagram names a node by an identifier, which has the letters and digits of the node's id in their
places and an underscore for every other byte. So ids that differ in such bytes only become one
identifier: a diagram can draw two files as one. What tells two nodes apart is made exact here, and
read off the lines of a diagram: a line of a node begins with its identifier, and a line of an edge
begins and ends with those of its ends.

* `identifier_eq_iff` — two ids have one identifier exactly if they are `Alike`.
* `leading_nodeText`, `leading_edgeText`, `trailing_edgeText` — what the lines tell.
* `render_draws` — a diagram has a line for each node and for each edge.
* `drawn_apart_iff` — **the nodes of a diagram are told apart exactly if no two of them are alike,
  and then every edge determines its ends.**
-/

namespace GodotSurvey

namespace Mermaid

open Text GodotSurvey.Graph

variable {x y : Text} {c d : UInt8}

/-! ## Ids that look alike -/

/-- The bytes of an id that an identifier keeps. -/
def isKept (c : UInt8) : Bool := isLetter c || isDigit c

/-- The id as an identifier spells it: a word for the empty one, and a letter before a digit. -/
def spelled : Text → Text
  | [] => "empty"
  | c :: rest => if isDigit c then 'n' :: c :: rest else c :: rest

/-- The ids are spelled with as many bytes, of which those in one place are equal or both lost. -/
def Alike (x y : Text) : Prop :=
  List.Forall₂ (fun c d => c = d ∨ isKept c = false ∧ isKept d = false) (spelled x) (spelled y)

/-- A byte as it stands in an identifier. -/
def sign (c : UInt8) : UInt8 := if isKept c then c else '_'

theorem sign_of_isKept (h : isKept c = true) : sign c = c := by
  rw [sign, if_pos h]

theorem sign_of_not_isKept (h : isKept c = false) : sign c = ('_' : UInt8) := by
  rw [sign, h]
  rfl

theorem isDigit_sign (c : UInt8) : isDigit (sign c) = isDigit c := by
  cases hc : isKept c with
  | true => rw [sign_of_isKept hc]
  | false =>
    rw [sign_of_not_isKept hc]
    rw [isKept, Bool.or_eq_false_iff] at hc
    rw [hc.2]
    decide

theorem sign_eq_iff : sign c = sign d ↔ c = d ∨ isKept c = false ∧ isKept d = false := by
  have hlost : isKept '_' = false := by decide
  constructor
  · intro h
    cases hc : isKept c <;> cases hd : isKept d
    · exact .inr ⟨rfl, rfl⟩
    · rw [sign_of_not_isKept hc, sign_of_isKept hd] at h
      rw [← h, hlost] at hd
      cases hd
    · rw [sign_of_isKept hc, sign_of_not_isKept hd] at h
      rw [h, hlost] at hc
      cases hc
    · rw [sign_of_isKept hc, sign_of_isKept hd] at h
      exact .inl h
  · rintro (rfl | ⟨hc, hd⟩)
    · rfl
    · rw [sign_of_not_isKept hc, sign_of_not_isKept hd]

theorem identifier_eq_map (x : Text) : identifier x = (spelled x).map sign := by
  cases x with
  | nil => decide
  | cons c rest =>
    have hcons : identifier (c :: rest) =
        if isDigit (sign c) then ('n' : UInt8) :: sign c :: rest.map sign
        else sign c :: rest.map sign := rfl
    rw [hcons, isDigit_sign, spelled]
    split <;> rfl

theorem identifier_eq_iff : identifier x = identifier y ↔ Alike x y := by
  rw [identifier_eq_map, identifier_eq_map, Alike, ← List.forall₂_eq_eq_eq,
    List.forall₂_map_left_iff, List.forall₂_map_right_iff]
  simp only [sign_eq_iff]

theorem isIdent_of_mem_identifier (h : c ∈ identifier x) : isIdent c = true := by
  rw [identifier_eq_map] at h
  obtain ⟨d, -, rfl⟩ := List.mem_map.1 h
  cases hd : isKept d with
  | true =>
    rw [sign_of_isKept hd]
    simp only [isKept, isLetter, Bool.or_eq_true] at hd
    simp only [isIdent, Bool.or_eq_true]
    tauto
  | false =>
    rw [sign_of_not_isKept hd]
    decide

/-! ## Lines -/

/-- The identifier with which a line begins, behind its indentation. -/
def leading (line : Text) : Text := (line.drop 4).takeWhile isIdent

/-- The identifier with which a line ends. -/
def trailing (line : Text) : Text := line.rtakeWhile isIdent

/-- The line of a node, without its end. -/
def nodeText (n : Node) : Text :=
  "    " ++ identifier n.id ++ shape n.kind (escapeLabel (if n.name.isEmpty then n.id else n.name))

/-- The line of an edge, without its end. -/
def edgeText (e : Edge) : Text :=
  "    " ++ identifier e.source ++ " " ++ arrow e.kind ++ " " ++ identifier e.target

theorem leading_append {rest : Text} (h : ∀ c ∈ rest.head?, isIdent c = false) :
    leading ("    " ++ (identifier x ++ rest)) = identifier x := by
  have hdrop (s : Text) : (Text.ofString "    " ++ s).drop 4 = s := rfl
  rw [leading, hdrop, (span_append_of_head h _).1, List.takeWhile_eq_self_iff]
  exact fun c hc => isIdent_of_mem_identifier hc

theorem isIdent_of_head?_shape {kind : NodeKind} {label : Text}
    (h : c ∈ (shape kind label).head?) : isIdent c = false := by
  cases kind <;> cases h <;> decide

theorem leading_nodeText (n : Node) : leading (nodeText n) = identifier n.id := by
  rw [nodeText, List.append_assoc]
  exact leading_append fun c hc => isIdent_of_head?_shape hc

theorem leading_edgeText (e : Edge) : leading (edgeText e) = identifier e.source := by
  simp only [edgeText, List.append_assoc]
  refine leading_append fun c hc => ?_
  cases hc
  decide

theorem trailing_edgeText (e : Edge) : trailing (edgeText e) = identifier e.target := by
  have hblank : ∀ c ∈ (Text.ofString " " ++
      (Text.ofString "    " ++ identifier e.source ++ " " ++ arrow e.kind).reverse).head?,
      isIdent c = false := by
    intro c hc
    cases hc
    decide
  have hreverse : (edgeText e).reverse = (identifier e.target).reverse ++ (Text.ofString " " ++
      (Text.ofString "    " ++ identifier e.source ++ " " ++ arrow e.kind).reverse) := by
    rw [edgeText, List.reverse_append, List.reverse_append]
    rfl
  have htarget : (identifier e.target).reverse.takeWhile isIdent = (identifier e.target).reverse :=
    List.takeWhile_eq_self_iff.2 fun c hc => isIdent_of_mem_identifier (List.mem_reverse.1 hc)
  rw [trailing, List.rtakeWhile, hreverse, (span_append_of_head hblank _).1, htarget,
    List.reverse_reverse]

/-- The bytes that would end a label, its shape or its line. -/
def reserved : Text := "\"|[]\x7b\x7d\n"

theorem labelEscapes_single : ∀ p ∈ labelEscapes, p.1.length = 1 := by decide

theorem not_mem_escapeLabel (h : c ∈ reserved) (s : Text) : c ∉ escapeLabel s := by
  have hold : ∀ c ∈ reserved, ∃ p ∈ labelEscapes, p.1 = [c] := by decide
  have hnew : ∀ c ∈ reserved, ∀ p ∈ labelEscapes, c ∉ p.2 := by decide
  exact not_mem_replace labelEscapes_single (hold c h) (hnew c h) s

theorem not_mem_identifier (x : Text) : ('\n' : UInt8) ∉ identifier x := by
  intro h
  exact absurd (isIdent_of_mem_identifier h) (by decide)

theorem not_mem_shape (kind : NodeKind) {label : Text} (h : ('\n' : UInt8) ∉ label) :
    ('\n' : UInt8) ∉ shape kind label := by
  cases kind <;>
  · simp only [shape, List.mem_append, not_or]
    exact ⟨⟨by decide, h⟩, by decide⟩

theorem not_mem_arrow (kind : EdgeKind) : ('\n' : UInt8) ∉ arrow kind := by
  cases kind with
  | attaches => decide
  | instances => decide
  | dependency kind =>
    cases kind with
    | other name =>
      change ('\n' : UInt8) ∉ Text.ofString "-->"
      decide
    | _ => decide

theorem not_mem_nodeText (n : Node) : ('\n' : UInt8) ∉ nodeText n := by
  simp only [nodeText, List.mem_append, not_or]
  exact ⟨⟨by decide, not_mem_identifier n.id⟩, not_mem_shape n.kind (not_mem_escapeLabel (by decide) _)⟩

theorem not_mem_edgeText (e : Edge) : ('\n' : UInt8) ∉ edgeText e := by
  simp only [edgeText, List.mem_append, not_or]
  exact ⟨⟨⟨⟨⟨by decide, not_mem_identifier e.source⟩, by decide⟩, not_mem_arrow e.kind⟩, by decide⟩,
    not_mem_identifier e.target⟩

/-! ## Diagrams -/

/-- The first line of a diagram. -/
def header (opts : Options) : Text :=
  let direction : Text := if opts.direction.isEmpty then "TD" else opts.direction
  "graph " ++ direction ++ "\n"

/-- Behind its header, the text has a line for each node, which begins with the node's identifier,
and then a line for each edge, which begins and ends with the identifiers of its ends. -/
def Draws (header text : Text) (nodes : List Text) (edges : List (Text × Text)) : Prop :=
  ∃ nodeLines edgeLines : List Text,
    text = header ++ lines (nodeLines ++ edgeLines) ∧
    (∀ line ∈ nodeLines ++ edgeLines, ('\n' : UInt8) ∉ line) ∧
    nodeLines.map leading = nodes ∧
    edgeLines.map (fun line => (leading line, trailing line)) = edges

theorem render_draws (opts : Options) (g : Graph) :
    Draws (header opts) (render opts g) ((keptNodes opts g).map fun n => identifier n.id)
      ((keptEdges opts g).map fun e => (identifier e.source, identifier e.target)) := by
  refine ⟨(keptNodes opts g).map nodeText, (keptEdges opts g).map edgeText, ?_, ?_, ?_, ?_⟩
  · rw [lines, List.flatMap_append, List.flatMap_map, List.flatMap_map, ← List.append_assoc]
    rfl
  · intro line hline
    obtain hline | hline := List.mem_append.1 hline
    · obtain ⟨n, -, rfl⟩ := List.mem_map.1 hline
      exact not_mem_nodeText n
    · obtain ⟨e, -, rfl⟩ := List.mem_map.1 hline
      exact not_mem_edgeText e
  · rw [List.map_map]
    exact List.map_congr_left fun n _ => leading_nodeText n
  · rw [List.map_map]
    refine List.map_congr_left fun e _ => ?_
    rw [Function.comp_apply, leading_edgeText, trailing_edgeText]

theorem limited_sublist {α : Type} (n : Int) (items : List α) :
    (limited n items).Sublist items := by
  rw [limited]
  split
  · exact List.take_sublist _ _
  · exact List.Sublist.refl _

/-- The nodes between which an edge is drawn are drawn themselves. -/
theorem mem_keptNodes {opts : Options} {g : Graph} (hids : (g.nodes.map (·.id)).Nodup) {e : Edge}
    (he : e ∈ keptEdges opts g) {n : Node} (hn : n ∈ g.nodes)
    (hend : e.source = n.id ∨ e.target = n.id) : n ∈ keptNodes opts g := by
  have hsub : (keptNodes opts g).Sublist g.nodes := limited_sublist _ _
  have he := (limited_sublist _ _).subset he
  by_cases hcut : (keptNodes opts g).length < g.nodes.length
  · rw [if_pos hcut, List.mem_filter, Bool.and_eq_true, List.any_eq_true, List.any_eq_true] at he
    obtain ⟨-, ⟨u, hu, hsource⟩, v, hv, htarget⟩ := he
    obtain hend | hend := hend
    · have hid : u.id = n.id := (beq_iff_eq.1 hsource).trans hend
      rwa [← List.inj_on_of_nodup_map hids (hsub.subset hu) hn hid]
    · have hid : v.id = n.id := (beq_iff_eq.1 htarget).trans hend
      rwa [← List.inj_on_of_nodup_map hids (hsub.subset hv) hn hid]
  · rwa [hsub.eq_of_length_le (Nat.le_of_not_lt hcut)]

/-- **When a diagram tells its nodes apart.** In the text of a graph whose nodes have different ids,
the identifiers of the drawn nodes are all different exactly if no two of these nodes are alike.
Then an edge that is drawn between nodes determines them: they are drawn, and no others have the
identifiers at its ends. -/
theorem drawn_apart_iff (opts : Options) (g : Graph) (hids : (g.nodes.map (·.id)).Nodup) :
    let nodes := keptNodes opts g
    let edges := keptEdges opts g
    let ids := nodes.map fun n => identifier n.id
    Draws (header opts) (render opts g) ids
        (edges.map fun e => (identifier e.source, identifier e.target)) ∧
      (ids.Nodup ↔ ∀ n ∈ nodes, ∀ m ∈ nodes, Alike n.id m.id → n = m) ∧
      (ids.Nodup → ∀ e ∈ edges, ∀ n ∈ g.nodes, ∀ m ∈ g.nodes, e.source = n.id → e.target = m.id →
        n ∈ nodes ∧ m ∈ nodes ∧
          ∀ n' ∈ nodes, ∀ m' ∈ nodes, identifier n'.id = identifier e.source →
            identifier m'.id = identifier e.target → n' = n ∧ m' = m) := by
  have hnodup : (keptNodes opts g).Nodup := (limited_sublist _ _).nodup hids.of_map
  refine ⟨render_draws opts g, ?_, ?_⟩
  · rw [List.nodup_map_iff_inj_on hnodup]
    simp only [identifier_eq_iff]
  · intro hapart e he n hn m hm hsource htarget
    have hn := mem_keptNodes hids he hn (.inl hsource)
    have hm := mem_keptNodes hids he hm (.inr htarget)
    refine ⟨hn, hm, fun n' hn' m' hm' hstart hend => ?_⟩
    have hinj := List.inj_on_of_nodup_map hapart
    rw [hsource] at hstart
    rw [htarget] at hend
    exact ⟨hinj hn' hn hstart, hinj hm' hm hend⟩

/-- A player, the enemy that it extends, and a scene. -/
def arena : Graph where
  nodes := [⟨"res://enemy.gd", "Enemy", .script⟩, ⟨"res://player.gd", "Player", .script⟩,
    ⟨"res://arena.tscn", "arena.tscn", .scene⟩]
  edges := [⟨"res://player.gd", "res://enemy.gd", .dependency .inheritance, 1⟩,
    ⟨"res://arena.tscn", "res://player.gd", .attaches, 1⟩]

/-- Of two nodes and one edge that are drawn, the edge runs between no others. -/
theorem drawn_apart_arena :
    let opts : Options := { maxNodes := 2 }
    let player : Node := ⟨"res://player.gd", "Player", .script⟩
    let enemy : Node := ⟨"res://enemy.gd", "Enemy", .script⟩
    (arena.nodes.map (·.id)).Nodup ∧
      Draws (header opts) (render opts arena) ["res___enemy_gd", "res___player_gd"]
        [("res___player_gd", "res___enemy_gd")] ∧
      ¬ Alike player.id enemy.id ∧
      ∀ n ∈ keptNodes opts arena, ∀ m ∈ keptNodes opts arena,
        identifier n.id = "res___player_gd" → identifier m.id = "res___enemy_gd" →
          n = player ∧ m = enemy := by
  intro opts player enemy
  have hids : (arena.nodes.map (·.id)).Nodup := by decide
  have hnodes : (keptNodes opts arena).map (fun n => identifier n.id) =
      [Text.ofString "res___enemy_gd", Text.ofString "res___player_gd"] := by decide
  have hedges : (keptEdges opts arena).map (fun e => (identifier e.source, identifier e.target)) =
      [(Text.ofString "res___player_gd", Text.ofString "res___enemy_gd")] := by decide
  obtain ⟨hdraws, hapart, hends⟩ := drawn_apart_iff opts arena hids
  rw [hnodes] at hdraws hapart hends
  rw [hedges] at hdraws
  have hdistinct : [Text.ofString "res___enemy_gd", Text.ofString "res___player_gd"].Nodup := by
    decide
  refine ⟨hids, hdraws, fun halike => ?_, ?_⟩
  · have hsame := hapart.1 hdistinct player (by decide) enemy (by decide) halike
    exact absurd hsame (by decide)
  · exact (hends hdistinct ⟨"res://player.gd", "res://enemy.gd", .dependency .inheritance, 1⟩
      (by decide) player (by decide) enemy (by decide) rfl rfl).2.2

/-- Two files whose names differ in a dash and an underscore. -/
def twins : Graph where
  nodes := [⟨"res://a-b.gd", "a-b.gd", .script⟩, ⟨"res://a_b.gd", "a_b.gd", .script⟩]

/-- The two files are drawn as one node. -/
theorem twins_drawn_as_one :
    (twins.nodes.map (·.id)).Nodup ∧
      ¬ ((keptNodes {} twins).map fun n => identifier n.id).Nodup ∧
      render {} twins = "graph LR\n" ++
        "    res___a_b_gd[\"a-b.gd\"]\n    res___a_b_gd[\"a_b.gd\"]\n" := by
  decide

end Mermaid
end GodotSurvey
