import GodotSurvey.Json.Reader
import GodotSurvey.Json.Writer

/-!
# JSON as text

JSON that is kept as text: its compact form, and the texts of the members of an object.
-/

namespace GodotSurvey.Json

open Text

/-- The text without blanks between its tokens. The characters that could end a script element, and
the two Unicode line separators, are escaped. `skip` bytes belong to an escape found last. -/
def compactFrom (inString : Bool) : (skip : Nat) → Text → Text
  | _, [] => []
  | n + 1, _ :: rest => compactFrom inString n rest
  | 0, c :: rest =>
    if inString then
      if c == '\\' then
        match rest with
        | d :: more => c :: d :: compactFrom true 0 more
        | [] => [c]
      else if c == '"' then c :: compactFrom false 0 rest
      else if c == '<' || c == '>' || c == '&' then
        "\\u" ++ hex4 c.toNat ++ compactFrom true 0 rest
      else if startsWith (c :: rest) "\u2028" then "\\u2028" ++ compactFrom true 2 rest
      else if startsWith (c :: rest) "\u2029" then "\\u2029" ++ compactFrom true 2 rest
      else c :: compactFrom true 0 rest
    else if isJsonSpace c then compactFrom false 0 rest
    else c :: compactFrom (c == '"') 0 rest

/-- The compact form of a text that is JSON. -/
def compactText? (s : Text) : Option Text :=
  match parse? s with
  | some _ => some (compactFrom false 0 s)
  | none => none

/-- The members of an object up to its closing bracket, each with the text of its value. -/
def rawMembers : (fuel : Nat) → Text → Option (List (Text × Text))
  | 0, _ => none
  | fuel + 1, s => do
    let (k, r) ← readQuoted? (skipSpace s)
    let r ← dropStart? (skipSpace r) ":"
    let r := skipSpace r
    let (_, after) ← readValue (2 * r.length + 2) r
    let raw := r.take (r.length - after.length)
    match skipSpace after with
    | [] => none
    | c :: more => if c == ',' then ((k, raw) :: ·) <$> rawMembers fuel more else some [(k, raw)]

/-- The members of a text that is a JSON object, each with the text of its value. -/
def membersOfText? (s : Text) : Option (List (Text × Text)) :=
  match parse? s with
  | some (.object []) | some .null => some []
  | some (.object _) => (dropStart? (skipSpace s) "\x7b").bind (rawMembers s.length)
  | _ => none

end GodotSurvey.Json
