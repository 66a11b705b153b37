import GodotSurvey.Proofs.Text.Substitution
import GodotSurvey.Server.Prompt

/-!
# Values in prompts

The names of a prompt's arguments hold no braces, so placeholders never overlap and can all be
filled in at once. A prompt fills them in one after the other. That is the same as long as no value
completes the placeholder of another argument; where one does, it is itself filled in.

* `separate_placeholders` — placeholders never overlap.
* `fillAtOnce_placeholder`, `fillAtOnce_eq_self` — what it is to fill them in at once.
* `fill_verbatim_iff` — **values stand as they are, in every order of the arguments, exactly if
  none of them completes another placeholder.**
-/

namespace GodotSurvey.Prompt

open Text

variable {args : List PromptArgument} {a : PromptArgument} {m n : Text}

/-! ## Placeholders -/

/-- No brace stands in the name. -/
def BraceFree (name : Text) : Prop := ('{' : UInt8) ∉ name ∧ ('}' : UInt8) ∉ name

instance (name : Text) : Decidable (BraceFree name) :=
  inferInstanceAs (Decidable (_ ∧ _))

theorem placeholder_eq (name : Text) : placeholder name = 123 :: 123 :: (name ++ [125, 125]) := rfl

/-- Placeholders that begin at the same place are the same. -/
theorem placeholder_append_inj (hm : BraceFree m) (hn : BraceFree n) {r t : Text}
    (h : placeholder m ++ r = placeholder n ++ t) : m = n := by
  rw [placeholder_eq, placeholder_eq] at h
  simp only [List.cons_append, List.append_assoc, List.nil_append, List.cons.injEq, true_and] at h
  exact (append_first_inj hm.2 hn.2 h).1

/-- None begins within another one: the second of two opening braces would stand in the name or
close it. -/
theorem not_placeholder_within (hm : BraceFree m) {c : UInt8} {d r t : Text}
    (hd : (c :: d).length < (placeholder m).length) :
    placeholder m ++ r ≠ c :: d ++ (placeholder n ++ t) := by
  have hinner {d z : Text} (hd : d.length < (m ++ [125, 125]).length) :
      m ++ [125, 125] ++ r ≠ d ++ 123 :: z := fun h => by
    have hget := congrArg (·[d.length]?) h
    simp only [List.getElem?_append_left hd, List.getElem?_append_right le_rfl, Nat.sub_self,
      List.getElem?_cons_zero] at hget
    obtain hmem | hmem := List.mem_append.1 (List.mem_of_getElem? hget)
    · exact hm.1 hmem
    · exact absurd hmem (by decide)
  intro h
  simp only [placeholder_eq, List.cons_append, List.cons.injEq, List.length_cons] at h hd
  cases d with
  | nil =>
    have hrest := (List.cons.inj h.2).2
    exact hinner (d := []) (by simp) hrest
  | cons b d => exact hinner (by simp only [List.length_cons] at hd; omega) (List.cons.inj h.2).2

/-- **Placeholders never overlap.** -/
theorem separate_placeholders (hnames : (args.map (·.name)).Nodup)
    (hbraces : ∀ a ∈ args, BraceFree a.name) :
    Separate (args.map fun a => placeholder a.name) := by
  have hname {p} (hp : p ∈ args.map fun a => placeholder a.name) :
      ∃ m, BraceFree m ∧ p = placeholder m := by
    obtain ⟨a, ha, rfl⟩ := List.mem_map.1 hp
    exact ⟨a.name, hbraces a ha, rfl⟩
  refine .of_within ?_ ?_ ?_ ?_
  · have hmap : args.map (fun a => placeholder a.name) = (args.map (·.name)).map placeholder := by
      rw [List.map_map]
      rfl
    rw [hmap]
    refine hnames.map_on fun m hm n hn h => ?_
    obtain ⟨a, ha, rfl⟩ := List.mem_map.1 hm
    obtain ⟨b, hb, rfl⟩ := List.mem_map.1 hn
    exact placeholder_append_inj (hbraces a ha) (hbraces b hb) (r := []) (t := []) (by rw [h])
  · intro p hp
    obtain ⟨m, -, rfl⟩ := hname hp
    exact List.cons_ne_nil _ _
  · intro p hp q hq r t h
    obtain ⟨m, hm, rfl⟩ := hname hp
    obtain ⟨n, hn, rfl⟩ := hname hq
    rw [placeholder_append_inj hm hn h]
  · intro p hp q hq c d r t hd
    obtain ⟨m, hm, rfl⟩ := hname hp
    obtain ⟨n, -, rfl⟩ := hname hq
    exact not_placeholder_within hm hd

/-! ## Filling in at once -/

/-- What is written for an argument. -/
def entry (values : List (Text × Text)) (a : PromptArgument) : Text × Text :=
  (placeholder a.name, valueOf a values)

/-- The text with all arguments filled in at once. -/
def fillAtOnce (args : List PromptArgument) (values : List (Text × Text)) (body : Text) : Text :=
  replace (args.map (entry values)) body

theorem fill_eq_replaceEach (p : Prompt) (values : List (Text × Text)) :
    p.fill values = replaceEach (p.arguments.map (entry values)) p.body := by
  rw [fill, replaceEach, List.foldl_map]
  rfl

/-- A text without placeholders stays as it is. -/
theorem fillAtOnce_eq_self {s : Text} (h : ∀ a ∈ args, ¬ placeholder a.name <:+: s)
    (values : List (Text × Text)) : fillAtOnce args values s = s := by
  refine replace_eq_self fun e he => ?_
  obtain ⟨a, ha, rfl⟩ := List.mem_map.1 he
  exact h a ha

section Distinct

variable (hnames : (args.map (·.name)).Nodup) (hbraces : ∀ a ∈ args, BraceFree a.name)

include hnames hbraces

theorem separate_entries (values : List (Text × Text)) :
    Separate ((args.map (entry values)).map Prod.fst) := by
  rw [List.map_map]
  exact separate_placeholders hnames hbraces

/-- The value stands where the placeholder did, as it is; the texts on either side are filled in
apart from it. -/
theorem fillAtOnce_placeholder (ha : a ∈ args) (values : List (Text × Text)) (x y : Text) :
    fillAtOnce args values (x ++ (placeholder a.name ++ y)) =
      fillAtOnce args values x ++ (valueOf a values ++ fillAtOnce args values y) :=
  replace_append_word (separate_entries hnames hbraces values) (List.mem_map_of_mem ha) x y

theorem fillAtOnce_perm {other : List PromptArgument} (hperm : other.Perm args)
    (values : List (Text × Text)) (body : Text) :
    fillAtOnce other values body = fillAtOnce args values body :=
  replace_perm (separate_entries hnames hbraces values) (hperm.map _) body

/-- Each value may complete the placeholders of the arguments before it. -/
theorem fill_eq_fillAtOnce {values : List (Text × Text)}
    (h : args.Pairwise fun a b =>
      valueOf b values ≠ placeholder b.name → ¬ Completes (valueOf a values) (placeholder b.name))
    (description body : Text) :
    fill { description, arguments := args, body } values = fillAtOnce args values body := by
  rw [fill_eq_replaceEach]
  exact replaceEach_eq (separate_entries hnames hbraces values) (List.pairwise_map.2 h) body

end Distinct

/-- **Values stand as they are, in every order of the arguments, exactly if none of them completes
the placeholder of another argument**; one whose value is its own placeholder does not count. In the
order that is given, only placeholders of later arguments count. Filled in at once, no part of a
value is taken for a placeholder. -/
theorem fill_verbatim_iff (args : List PromptArgument) (values : List (Text × Text))
    (hnames : (args.map (·.name)).Nodup) (hbraces : ∀ a ∈ args, BraceFree a.name) :
    ((∀ other, other.Perm args → ∀ description body,
        fill { description, arguments := other, body } values = fillAtOnce args values body) ↔
      ∀ a ∈ args, ∀ b ∈ args, a ≠ b → valueOf b values ≠ placeholder b.name →
        ¬ Completes (valueOf a values) (placeholder b.name)) ∧
    ((args.Pairwise fun a b => valueOf b values ≠ placeholder b.name →
        ¬ Completes (valueOf a values) (placeholder b.name)) →
      ∀ description body,
        fill { description, arguments := args, body } values = fillAtOnce args values body) ∧
    (∀ a ∈ args, ∀ x y, fillAtOnce args values (x ++ (placeholder a.name ++ y)) =
      fillAtOnce args values x ++ (valueOf a values ++ fillAtOnce args values y)) ∧
    ∀ s, (∀ a ∈ args, ¬ placeholder a.name <:+: s) → fillAtOnce args values s = s := by
  refine ⟨⟨?_, ?_⟩, fun h => fill_eq_fillAtOnce hnames hbraces h,
    fun a ha => fillAtOnce_placeholder hnames hbraces ha values,
    fun s h => fillAtOnce_eq_self h values⟩
  · intro h a ha b hb hab hchange hcompletes
    obtain ⟨s, hs⟩ := exists_replaceEach_ne (separate_entries hnames hbraces values)
      (List.mem_map_of_mem ha) (List.mem_map_of_mem hb) hchange hcompletes
    have hperm : ((args.erase a).erase b ++ [a, b]).Perm args := by
      have hb' : b ∈ args.erase a := (List.mem_erase_of_ne hab.symm).2 hb
      exact (List.perm_append_comm.trans (((List.perm_cons_erase hb').symm).cons a)).trans
        (List.perm_cons_erase ha).symm
    have hfill := h _ hperm [] s
    rw [fill_eq_replaceEach, List.map_append] at hfill
    exact hs _ (by simpa using hperm.map (entry values)) hfill
  · intro h other hperm description body
    have hnames' := (hperm.map (·.name)).nodup_iff.2 hnames
    rw [← fillAtOnce_perm hnames hbraces hperm]
    refine fill_eq_fillAtOnce hnames' (fun a ha => hbraces a (hperm.subset ha)) ?_ description body
    exact hnames'.of_map.pairwise_of_forall_ne fun a ha b hb =>
      h a (hperm.subset ha) b (hperm.subset hb)

/-- A path without braces keeps its place in every order of the arguments. -/
theorem mapProject_verbatim_game :
    (mapProject.arguments.map (·.name)).Nodup ∧ (∀ a ∈ mapProject.arguments, BraceFree a.name) ∧
    ∀ other, other.Perm mapProject.arguments → ∀ description body,
      fill { description, arguments := other, body } [("path", "/game")] =
        fillAtOnce mapProject.arguments [("path", "/game")] body :=
  have hnames : (mapProject.arguments.map (·.name)).Nodup := by decide +kernel
  have hbraces : ∀ a ∈ mapProject.arguments, BraceFree a.name := by decide +kernel
  ⟨hnames, hbraces, (fill_verbatim_iff mapProject.arguments [("path", "/game")] hnames hbraces).1.2
    (by decide +kernel)⟩

/-- A text with a place for each of two arguments. -/
def directions : Prompt where
  arguments := mapProject.arguments
  body := "at \x7b\x7bpath\x7d\x7d with \x7b\x7bmax_nodes\x7d\x7d"

/-- A path that is the placeholder of the argument behind it is filled in with the value of that
argument; with the arguments the other way round it is not. -/
theorem path_expanded :
    directions.fill [("path", "\x7b\x7bmax_nodes\x7d\x7d")] = "at 40 with 40" ∧
    fillAtOnce directions.arguments [("path", "\x7b\x7bmax_nodes\x7d\x7d")] directions.body =
      "at \x7b\x7bmax_nodes\x7d\x7d with 40" ∧
    fill { directions with arguments := directions.arguments.reverse }
      [("path", "\x7b\x7bmax_nodes\x7d\x7d")] = "at \x7b\x7bmax_nodes\x7d\x7d with 40" := by
  decide +kernel

end GodotSurvey.Prompt
