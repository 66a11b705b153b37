import GodotSurvey.Document.Basic
import GodotSurvey.Text.Number
import GodotSurvey.Text.Utf8

/-!
# Writing TOML

A record as TOML: plain values first and then tables, each sorted by name. Every table begins with
a blank line, and what belongs to it is indented by two spaces for each level.
-/

namespace GodotSurvey.Toml

open Text

/-- The four upper-case hexadecimal digits of a number below 256. -/
def hex4Upper (n : Nat) : Text :=
  let digit := fun k : Nat => (if k < 10 then 48 + k else 55 + k).toUInt8
  [48, 48, digit (n / 16), digit (n % 16)]

/-- A character inside quotes. One of whose number the last sixteen bits are those of a control
character is written by these bits. -/
def escapeRune (p : Nat) (bytes : Text) : Text :=
  if p == 0x08 then "\\b"
  else if p == 0x09 then "\\t"
  else if p == 0x0A then "\\n"
  else if p == 0x0C then "\\f"
  else if p == 0x0D then "\\r"
  else if p == 0x22 then "\\\""
  else if p == 0x5C then "\\\\"
  else if p % 0x10000 < 0x1F then "\\u" ++ hex4Upper (p % 0x10000)
  else bytes

def quote (s : Text) : Text :=
  "\"" ++ (runes s).flatMap (fun (p, bytes) => escapeRune p bytes) ++ "\""

/-- A value on one line. -/
def inline : Document → Text
  | .bool b => if b then "true" else "false"
  | .int n => ofInt n
  | .text t => quote t
  | .list items => "[" ++ Text.join ", " (items.attach.map fun ⟨d, _⟩ => inline d) ++ "]"
  | _ => []

/-- The name of a table inside another. -/
def fullName (outer name : Text) : Text := if outer.isEmpty then name else outer ++ "." ++ name

def sortFields (fields : List (Text × Document)) : List (Text × Document) :=
  fields.mergeSort fun a b => Text.le a.1 b.1

/-- The document is a list of records, or null where such a list is missing. -/
def isTableList : Document → Bool
  | .list (.record _ :: _) => true
  | _ => false

def isTable : Document → Bool
  | .record _ => true
  | d => isTableList d

/-- The lines of the plain values of a table. -/
def plainLines (indent : Text) (fields : List (Text × Document)) : Text :=
  ((sortFields fields).filter (!isTable ·.2)).flatMap fun (k, d) =>
    indent ++ k ++ " = " ++ inline d ++ "\n"

mutual

/-- A table or list of tables under a name. -/
def table (outer indent name : Text) : Document → Text
  | .record fields =>
    "\n" ++ indent ++ "[" ++ fullName outer name ++ "]\n"
      ++ plainLines (indent ++ "  ") fields ++ tables (fullName outer name) (indent ++ "  ") fields
  | .list items => tableList (fullName outer name) indent items
  | _ => []

/-- The tables among the fields of a table. -/
def tables (outer indent : Text) : List (Text × Document) → Text
  | [] => []
  | (k, d) :: rest => table outer indent k d ++ tables outer indent rest

/-- The items of a list of tables. -/
def tableList (name indent : Text) : List Document → Text
  | [] => []
  | .record fields :: rest =>
    "\n" ++ indent ++ "[[" ++ name ++ "]]\n" ++ plainLines (indent ++ "  ") fields
      ++ tables name (indent ++ "  ") fields ++ tableList name indent rest
  | _ :: rest => tableList name indent rest

end

mutual

/-- The record with the fields of every table in order. -/
def sortTables : Document → Document
  | .record fields => .record (sortFields (sortAll fields))
  | d => d

def sortAll : List (Text × Document) → List (Text × Document)
  | [] => []
  | (k, d) :: rest => (k, sortTables d) :: sortAll rest

end

/-- The text of a record. -/
def render (d : Document) : Text :=
  match sortTables d with
  | .record fields => plainLines [] fields ++ tables [] [] fields
  | _ => []

end GodotSurvey.Toml
