import GodotSurvey.Json.Writer
import GodotSurvey.Report.Format
import GodotSurvey.Report.Style
import GodotSurvey.Report.TextTable
import GodotSurvey.Toon.Writer

/-!
# Reports

A report is made of tables and passages of text. Readers get it as plain text or Markdown; programs
get the data behind it, or the parts themselves where no data was given.
-/

namespace GodotSurvey

/-- A table with a title. `notice` is written instead of a table without rows. -/
structure Table where
  title : Text := []
  headers : List Text := []
  rows : List (List Text) := []
  footer : List Text := []
  notice : Text := []
  data : Option Document := none

/-- A titled text with passages below it. `code` names the language of a text that is shown as it
stands. -/
inductive Passage where
  | mk (title content code : Text) (parts : List Passage) (data : Option Document)

/-- A table, a passage, or several reports under one title. -/
inductive Report where
  | table (t : Table)
  | passage (p : Passage)
  | compound (title : Text) (parts : List Report) (data : Option Document)

/-! ## Plain text -/

/-- A title with a line below it, as long as the title has bytes. -/
def heading (style : Text → Text) (colored : Bool) (underline : Text) (title : Text) : Text :=
  if title.isEmpty then []
  else (if colored then style title else title) ++ "\n"
    ++ Text.repeated underline title.length ++ "\n"

def Table.text (colored : Bool) (t : Table) : Text :=
  heading Style.bold colored "-" t.title
    ++ (if t.rows.isEmpty && !t.notice.isEmpty then t.notice ++ "\n"
        else TextTable.render t.headers t.rows t.footer)

namespace Passage

/-- The text without line feeds at its end. -/
def dropLineEnds (s : Text) : Text := Text.dropEndWhile (· == '\n') s

mutual

/-- The passage as text; passages below others are underlined with dots. -/
def textAt (colored : Bool) (underline : Text) : Passage → Text
  | .mk title content _ parts _ =>
    heading Style.bold colored underline title
      ++ Text.onlyIf (!content.isEmpty) (dropLineEnds content ++ "\n") ++ textBelow colored parts

def textBelow (colored : Bool) : List Passage → Text
  | [] => []
  | p :: ps => "\n" ++ textAt colored "." p ++ textBelow colored ps

end

end Passage

mutual

/-- The report as plain text. -/
def Report.text (colored : Bool) : Report → Text
  | .table t => t.text colored
  | .passage p => p.textAt colored "-"
  | .compound title parts _ =>
    Text.onlyIf (!title.isEmpty) (heading Style.boldCyan colored "=" title ++ "\n")
      ++ Text.join "\n" (Report.texts colored parts)

def Report.texts (colored : Bool) : List Report → List Text
  | [] => []
  | r :: rs => r.text colored :: Report.texts colored rs

end

/-! ## Markdown -/

/-- Cells between pipes on a line. -/
def pipeLine (cells : List Text) : Text := "| " ++ Text.join " | " cells ++ " |\n"

/-- A cell with its pipes escaped. -/
def escapePipes (s : Text) : Text := Text.replaceAll s "|" "\\|"

def Table.markdown (t : Table) : Text :=
  Text.onlyIf (!t.title.isEmpty) ("### " ++ t.title ++ "\n\n")
    ++ if t.rows.isEmpty && !t.notice.isEmpty then "_" ++ t.notice ++ "_\n\n"
      else pipeLine t.headers ++ pipeLine (t.headers.map fun _ => Text.ofString "---")
        ++ t.rows.flatMap (fun row => pipeLine (row.map escapePipes))
        ++ (if t.footer.isEmpty then [] else pipeLine t.footer) ++ "\n"

namespace Passage

/-- The content of a passage, between fences if it is code. -/
def contentMarkdown (content code : Text) : Text :=
  if content.isEmpty then []
  else if code.isEmpty then dropLineEnds content ++ "\n\n"
  else "```" ++ code ++ "\n" ++ dropLineEnds content ++ "\n```\n\n"

mutual

/-- The passage in Markdown with a title of the given level. -/
def markdownAt (level : Nat) : Passage → Text
  | .mk title content code parts _ =>
    Text.onlyIf (!title.isEmpty) (Text.repeated "#" level ++ " " ++ title ++ "\n\n")
      ++ contentMarkdown content code ++ markdownBelow (level + 1) parts

def markdownBelow (level : Nat) : List Passage → Text
  | [] => []
  | p :: ps => markdownAt level p ++ markdownBelow level ps

end

end Passage

mutual

/-- The report in Markdown. -/
def Report.markdown : Report → Text
  | .table t => t.markdown
  | .passage p => p.markdownAt 3
  | .compound title parts _ =>
    Text.onlyIf (!title.isEmpty) ("## " ++ title ++ "\n\n") ++ Report.markdowns parts

def Report.markdowns : List Report → Text
  | [] => []
  | r :: rs => r.markdown ++ Report.markdowns rs

end

/-! ## Data -/

/-- A row as a record: each header with its cell. Of equal headers the last one counts. -/
def Table.rowDocument (headers row : List Text) : Document :=
  let pairs := headers.zip row
  let last := fun (h : Text) => (pairs.reverse.lookup h).getD []
  Document.sortedRecord ((Text.dedup (pairs.map (·.1))).map fun h => (h, .text (last h)))

/-- The rows of the table as records. -/
def Table.document (t : Table) : Document :=
  t.data.getD (.list (t.rows.map (Table.rowDocument t.headers)))

namespace Passage

open Document

/-- The fields of a passage where empty ones are left out. -/
def briefFields (title content : Text) (parts : List Document) (data : Option Document) : Document :=
  ofFields [textField "title" title, textField "content" content, listField "sections" parts,
    data.map (("data", ·))]

/-- All fields of a passage. -/
def fullFields (title content : Text) (parts : List Document) (code : Text)
    (data : Option Document) : Document :=
  ofFields [field "Title" (.text title), field "Content" (.text content),
    field "Sections" (.list parts), field "Code" (.text code), field "Data" (data.getD .null)]

mutual

/-- The passage as a record, brief or with all its fields. -/
def record (full : Bool) : Passage → Document
  | .mk title content code parts data =>
    if full then fullFields title content (records full parts) code data
    else briefFields title content (records full parts) data

def records (full : Bool) : List Passage → List Document
  | [] => []
  | p :: ps => record full p :: records full ps

end

/-- The data of a passage, or else the passage itself. -/
def document (full : Bool) : Passage → Document
  | .mk title content code parts data => data.getD (record full (.mk title content code parts data))

end Passage

mutual

/-- The data behind the report, or else its parts. -/
def Report.document (full : Bool) : Report → Document
  | .table t => t.document
  | .passage p => p.document full
  | .compound title parts data =>
    data.getD (.record [("sections", .list (Report.documents full parts)), ("title", .text title)])

def Report.documents (full : Bool) : List Report → List Document
  | [] => []
  | r :: rs => r.document full :: Report.documents full rs

end

/-! ## Formats -/

/-- A report that cannot be written. -/
structure RenderError where
  cause : Toon.BadCharacter
  deriving DecidableEq, Repr

def RenderError.message (e : RenderError) : Text := "encoding toon: " ++ e.cause.message

/-- A document as indented JSON with a line end. -/
def jsonText (d : Document) : Text := Json.indented d ++ "\n"

def toonText (d : Document) : Except RenderError Text :=
  match Toon.write d with
  | .ok t => .ok (t ++ "\n")
  | .error e => .error ⟨e⟩

/-- A report in a format. -/
def Report.render (r : Report) (format : Format) (colored : Bool := false) :
    Except RenderError Text :=
  match format with
  | .text => .ok (r.text colored)
  | .markdown => .ok r.markdown
  | .json => .ok (jsonText (r.document false))
  | .toon => toonText (r.document true)

/-- Data without a report in a format; readers get it as JSON. -/
def renderData (d : Document) (format : Format) : Except RenderError Text :=
  match format with
  | .toon => toonText d
  | .markdown => .ok ("```json\n" ++ jsonText d ++ "```\n")
  | .text | .json => .ok (jsonText d)

end GodotSurvey
