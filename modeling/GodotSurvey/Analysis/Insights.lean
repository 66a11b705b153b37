import GodotSurvey.Document.Basic

/-!
# Behavioural insights

What is known about the behaviour of a script, in a form that can be merged: the insights of a
scene or a project are the insights of its scripts taken together. Patterns and lifecycle methods
are sorted sets, signals keep the order in which they were first seen, counters add up, and the
higher complexity wins.
-/

namespace GodotSurvey

/-! ## Complexity -/

/-- A coarse measure of size. -/
inductive Complexity where
  | low
  | medium
  | high
  | other (name : Text)
  deriving DecidableEq, Repr

namespace Complexity

def name : Complexity → Text
  | low => "low"
  | medium => "medium"
  | high => "high"
  | other n => n

def ofName (n : Text) : Complexity :=
  if n == "low" then low else if n == "medium" then medium
  else if n == "high" then high else other n

/-- The rank of a complexity; a higher one is more severe. -/
def weight : Complexity → Nat
  | high => 3
  | medium => 2
  | low => 1
  | other _ => 0

/-- The more severe of the two; of equal ones the first. -/
def max (a b : Complexity) : Complexity := if a.weight < b.weight then b else a

end Complexity

/-! ## Sets of names -/

namespace Text

/-- The texts of `ts`, then those of `more` that are new, each once. -/
def appendNew (ts more : List Text) : List Text := more.foldl insertNew ts

/-- The sorted union of two lists; repetitions within the first are kept. -/
def unionSorted (as bs : List Text) : List Text := sort (appendNew as bs)

end Text

/-! ## Insights -/

/-- How many variables there are of each kind. -/
structure VariableCounts where
  exported : Nat := 0
  onready : Nat := 0
  constant : Nat := 0
  regular : Nat := 0
  deriving DecidableEq, Repr

def VariableCounts.add (a b : VariableCounts) : VariableCounts :=
  ⟨a.exported + b.exported, a.onready + b.onready, a.constant + b.constant, a.regular + b.regular⟩

/-- The behaviour of one script, or of several taken together. -/
structure Insights where
  patterns : List Text := []
  lifecycleMethods : List Text := []
  eventHandlerCount : Nat := 0
  signalsDefined : List Text := []
  signalsEmitted : List Text := []
  variableCounts : VariableCounts := {}
  complexity : Complexity := .low
  deriving DecidableEq, Repr

namespace Insights

/-- Adds a pattern to a sorted set of patterns. -/
def insertPattern (ps : List Text) (p : Text) : List Text :=
  if ps.contains p then ps else Text.sort (ps ++ [p])

def addPattern (i : Insights) (p : Text) : Insights :=
  { i with patterns := insertPattern i.patterns p }

/-- Adds a pattern if the condition holds. -/
def addPatternIf (i : Insights) (b : Bool) (p : Text) : Insights := if b then i.addPattern p else i

def addLifecycleMethod (i : Insights) (name : Text) : Insights :=
  { i with lifecycleMethods := Text.unionSorted i.lifecycleMethods [name] }

/-- The insights of both taken together. -/
def merge (a b : Insights) : Insights where
  patterns := b.patterns.foldl insertPattern a.patterns
  lifecycleMethods := Text.unionSorted a.lifecycleMethods b.lifecycleMethods
  eventHandlerCount := a.eventHandlerCount + b.eventHandlerCount
  signalsDefined := Text.appendNew a.signalsDefined b.signalsDefined
  signalsEmitted := Text.appendNew a.signalsEmitted b.signalsEmitted
  variableCounts := a.variableCounts.add b.variableCounts
  complexity := a.complexity.max b.complexity

/-- The insights of all taken together. -/
def mergeAll (is : List Insights) : Insights := is.foldl merge {}

end Insights

/-! ## Documents -/

open Document

def VariableCounts.document (c : VariableCounts) : Document :=
  ofFields [field "exported" (nat c.exported), field "onready" (nat c.onready),
    field "constant" (nat c.constant), field "regular" (nat c.regular)]

def Insights.fields (i : Insights) : List (Text × Document) :=
  [("patterns", texts i.patterns), ("lifecycle_methods", texts i.lifecycleMethods),
    ("event_handler_count", nat i.eventHandlerCount), ("signals_defined", texts i.signalsDefined),
    ("signals_emitted", texts i.signalsEmitted),
    ("variable_type_counts", i.variableCounts.document), ("complexity", .text i.complexity.name)]

def Insights.document (i : Insights) : Document := .record i.fields

/-- The insights as part of a larger record. -/
def Insights.embeddedField (i : Insights) : Option (Text × Document) :=
  field "BehavioralInsights" (.embedded i.fields)

end GodotSurvey
