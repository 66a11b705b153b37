import GodotSurvey.Text.Case

/-!
# Formats

The formats in which reports are written: two for readers, two for programs.
-/

namespace GodotSurvey

inductive Format where
  | text
  | json
  | markdown
  | toon
  deriving DecidableEq, Repr

namespace Format

def name : Format → Text
  | text => "text"
  | json => "json"
  | markdown => "markdown"
  | toon => "toon"

/-- All formats, in the order in which they are listed. -/
def all : List Format := [text, json, markdown, toon]

/-- The format of a name in any letter case; an unknown name means text. -/
def ofName (s : Text) : Format :=
  let n := Text.lower s
  if n == "json" then json
  else if n == "markdown" || n == "md" then markdown
  else if n == "toon" then toon
  else text

/-- The format holds data, not words for a reader. -/
def isStructured : Format → Bool
  | json | toon => true
  | text | markdown => false

end Format

end GodotSurvey
