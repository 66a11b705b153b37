import GodotSurvey.Text.Basic

/-!
# Documents

A document is the data of a report before a format is chosen: records with ordered fields, lists
and plain values. Every report is first turned into a document, and each format writes documents.
-/

namespace GodotSurvey

/-- A tree of data. -/
inductive Document where
  | null
  | bool (b : Bool)
  | int (n : Int)
  | float (x : Float)
  | text (t : Text)
  | list (items : List Document)
  | record (fields : List (Text × Document))
  /-- A record that is part of the one around it. A format may write its fields among the others
  or keep it as a field of its own. -/
  | embedded (fields : List (Text × Document))
  /-- A list that is not there. A format may write it as null or as a list without items. -/
  | missingList
  deriving Inhabited

namespace Document

/-- A natural number. -/
def nat (n : Nat) : Document := .int n

/-- A list of texts. -/
def texts (ts : List Text) : Document := .list (ts.map .text)

/-- The text itself, or null. -/
def textOrNull : Option Text → Document
  | some t => .text t
  | none => .null

/-- A record from fields of which some may be left out. -/
def ofFields (fields : List (Option (Text × Document))) : Document := .record (fields.filterMap id)

/-- A field that is always written. -/
def field (name : Text) (value : Document) : Option (Text × Document) := some (name, value)

/-- A field that is left out when the text is empty. -/
def textField (name : Text) (t : Text) : Option (Text × Document) :=
  if t.isEmpty then none else some (name, .text t)

/-- A field that is left out when the list is empty. -/
def listField (name : Text) (items : List Document) : Option (Text × Document) :=
  if items.isEmpty then none else some (name, .list items)

/-- A field that is left out when false. -/
def flagField (name : Text) (b : Bool) : Option (Text × Document) :=
  if b then some (name, .bool true) else none

/-- A field that is left out when absent. -/
def optionalField (name : Text) (value : Option Document) : Option (Text × Document) :=
  value.map (name, ·)

/-- A record whose fields are sorted by name. -/
def sortedRecord (fields : List (Text × Document)) : Document :=
  .record (fields.mergeSort fun a b => Text.le a.1 b.1)

end Document

end GodotSurvey
