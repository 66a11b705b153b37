import GodotSurvey.Proofs.Script.Members
import GodotSurvey.Registry.Providers
import GodotSurvey.Survey.Script

/-!
# Scanned classes and analysed classes

The search for global classes reads a script without variables and methods, and the analysis of a
script reads all of it. Both find the same class unless a method signature swallows a line that
speaks of the class: only the analysis takes such a line into the signature.

* `Script.parse_under_options` — **class header and variables do not depend on what else is read,
  but for the lines that only the reading of methods swallows.**
-/

namespace GodotSurvey

open Script

/-- The class of a script with these declarations, if it has a name. -/
def Registry.declaredClass? (root path : Text) (d : ScriptDecl) : Option GlobalClass :=
  if d.className = [] then none
  else some
    { name := d.className, path := ResourcePath.ofFile root path, base := d.base
      language := "GDScript" }

theorem ScriptResult.ofContent_decl (c : Config) (r : Registry) (o : ScriptOptions)
    (name src : Text) :
    ∃ d, (ScriptResult.ofContent c r o name src).decl = some d ∧
      d.className = (parse src {}).decl.className ∧ d.base = (parse src {}).decl.base := by
  refine ⟨_, rfl, ?_⟩
  cases o.dependencies <;> exact ⟨rfl, rfl⟩

theorem Registry.scannedClass?_eq (root path src : Text) :
    Registry.scannedClass? root path src =
      Registry.declaredClass? root path (parse src { vars := false, methods := false }).decl := by
  simp [Registry.scannedClass?, Registry.declaredClass?]

theorem Script.parse_header_eq {src : Text} {opts opts' : Options}
    (h : opts.methods = opts'.methods ∨ ∀ l ∈ swallowed src, l.headerPart = {}) :
    (parse src opts).decl.header = (parse src opts').decl.header := by
  rcases h with h | h
  · rw [parse_header, parse_header, h]
  · have hread {α : Type} {part : HeaderPart → Option α} (hpart : part {} = none) :
        (topLines opts.methods src).filterMap (fun l => part l.headerPart) =
          (topLines opts'.methods src).filterMap fun l => part l.headerPart :=
      filterMap_topLines (fun l hl => by rw [h l hl, hpart]) _ _
    rw [parse_header, parse_header]
    simp only [headerOf, ClassHeader.read]
    rw [hread rfl, hread rfl, hread rfl]

theorem Script.parse_signals_eq_iff (src : Text) :
    (∀ opts opts' : Options, (parse src opts).decl.signals = (parse src opts').decl.signals) ↔
      ∀ l ∈ swallowed src, l.headerPart.signal = none := by
  constructor
  · intro h
    have hsignals := h {} { methods := false }
    rw [parse_signals, parse_signals] at hsignals
    exact (filterMap_topLines_eq_iff _ src).1 hsignals
  · intro h opts opts'
    rw [parse_signals, parse_signals]
    exact filterMap_topLines h _ _

/-- If no swallowed line has a name or a base, the search finds the class that the declarations of
the whole script name. -/
theorem Registry.scannedClass?_eq_declaredClass? {src : Text}
    (h : ∀ l ∈ swallowed src, l.headerPart.className = none ∧ l.headerPart.base = none)
    (root path : Text) {d : ScriptDecl} (hname : d.className = (parse src {}).decl.className)
    (hbase : d.base = (parse src {}).decl.base) :
    Registry.scannedClass? root path src = Registry.declaredClass? root path d := by
  rw [Registry.scannedClass?_eq, Registry.declaredClass?, Registry.declaredClass?, hname, hbase,
    parse_className, parse_className, parse_base, parse_base,
    filterMap_topLines (fun l hl => (h l hl).1) true,
    filterMap_topLines (fun l hl => (h l hl).2) true]

theorem Script.parse_members_eq {src : Text} {opts opts' : Options}
    (hopts : (opts.vars || opts.methods) = true) (hopts' : (opts'.vars || opts'.methods) = true)
    (h : opts.methods = opts'.methods ∨ ∀ l ∈ swallowed src, ¬ l.DeclaresMember) :
    (parse src opts).decl.members = (parse src opts').decl.members := by
  rw [parse_members src hopts, parse_members src hopts']
  rcases h with h | h
  · rw [h]
  · exact declared_topLines h _ _

/-- Apart from swallowed lines that declare something, reading methods or variables or neither makes
no difference to the class header, to the class that the search for global classes finds, and to the
variables, where they are read. -/
theorem Script.parse_under_options (src : Text) :
    (∀ opts : Options, (parse src opts).decl.header = headerOf (topLines opts.methods src)) ∧
    (∀ opts opts' : Options,
      opts.methods = opts'.methods ∨ (∀ l ∈ swallowed src, l.headerPart = {}) →
        (parse src opts).decl.header = (parse src opts').decl.header) ∧
    ((∀ opts opts' : Options, (parse src opts).decl.signals = (parse src opts').decl.signals) ↔
      ∀ l ∈ swallowed src, l.headerPart.signal = none) ∧
    ((∀ l ∈ swallowed src, l.headerPart.className = none ∧ l.headerPart.base = none) →
      ∀ (c : Config) (r : Registry) (o : ScriptOptions) (name root path : Text),
        ∃ d, (ScriptResult.ofContent c r o name src).decl = some d ∧
          Registry.scannedClass? root path src = Registry.declaredClass? root path d) ∧
    (∀ opts opts' : Options,
      (opts.vars || opts.methods) = true → (opts'.vars || opts'.methods) = true →
      opts.methods = opts'.methods ∨ (∀ l ∈ swallowed src, ¬ l.DeclaresMember) →
        (parse src opts).decl.exports = (parse src opts').decl.exports ∧
          (parse src opts).decl.vars = (parse src opts').decl.vars) := by
  refine ⟨parse_header src, fun opts opts' => parse_header_eq, parse_signals_eq_iff src, ?_, ?_⟩
  · intro h c r o name root path
    obtain ⟨d, hd, hname, hbase⟩ := ScriptResult.ofContent_decl c r o name src
    exact ⟨d, hd, Registry.scannedClass?_eq_declaredClass? h root path hname hbase⟩
  · intro opts opts' hopts hopts' h
    have hmembers := parse_members_eq hopts hopts' h
    exact ⟨congrArg Prod.fst hmembers, congrArg Prod.snd hmembers⟩

/-- A method with its parameters on lines of their own. -/
def pairScript : Text :=
  "class_name Pair extends Node\nsignal met\nfunc join(\na,\nb\n):\n\tpass\n@export var size = 1\n"

theorem parse_under_options_pairScript :
    (swallowed pairScript).map (·.number) = [4, 5, 6] ∧
    (parse pairScript {}).decl.header =
      (parse pairScript { vars := false, methods := false }).decl.header ∧
    (∃ d, (ScriptResult.ofContent {} .empty {} "pair.gd" pairScript).decl = some d ∧
      Registry.scannedClass? "/p" "/p/pair.gd" pairScript =
        Registry.declaredClass? "/p" "/p/pair.gd" d) ∧
    (parse pairScript {}).decl.exports = (parse pairScript { methods := false }).decl.exports := by
  have hheader : ∀ l ∈ swallowed pairScript, l.headerPart = {} := by decide +kernel
  have hmember : ∀ l ∈ swallowed pairScript, ¬ l.DeclaresMember := by decide +kernel
  obtain ⟨-, hoptions, -, hscanned, hmembers⟩ := Script.parse_under_options pairScript
  refine ⟨by decide +kernel, hoptions _ _ (.inr hheader), ?_, ?_⟩
  · exact hscanned (fun l hl => by simp [hheader l hl]) _ _ _ _ _ _
  · exact (hmembers _ _ rfl rfl (.inr hmember)).1

/-- A method whose signature holds a text of several lines. -/
def tellerScript : Text :=
  "class_name Teller\nfunc tell(line = \"\"\"\nextends the story\nvar moral = 1\n\"\"\"):\n\tprint(line)\n"

/-- Without methods, the lines of the text are read as declarations. -/
theorem parse_ne_tellerScript :
    (parse tellerScript { methods := false }).decl.base = "the story" ∧
    (parse tellerScript {}).decl.base = [] ∧
    (Registry.scannedClass? "/p" "/p/teller.gd" tellerScript).map (·.base) =
      some (Text.ofString "the story") ∧
    (parse tellerScript { methods := false }).decl.vars.map (·.name) = [Text.ofString "moral"] ∧
    (parse tellerScript {}).decl.vars = [] := by
  decide +kernel

end GodotSurvey
