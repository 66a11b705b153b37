import GodotSurvey.Toml.Scalar

/-!
# Keys of TOML

A key is a row of parts. Dots stand between parts, with blanks around them if one likes; parts in
quotes need no dot. A key is first taken from the text as it is written, with its escapes resolved,
and then split into parts.
-/

namespace GodotSurvey.Toml

open Text

def isBareKey (c : UInt8) : Bool := isIdent c || c == '-'

/-! ## Written keys -/

/-- Takes a key in front of a `=` as it is written; the fuel bounds the number of pieces. -/
def readKey : (fuel : Nat) → Text → Option (Text × Text)
  | 0, _ => none
  | _ + 1, [] => some ([], [])
  | fuel + 1, c :: rest =>
    if c == '=' then some ([], c :: rest)
    else if c == '"' then
      match readBasic "\"" true 0 rest with
      | none => none
      | some (t, r) => (readKey fuel r).map fun (k, r) => ([c] ++ t ++ [c] ++ k, r)
    else if c == '\'' then
      match cut? rest "'" with
      | none => none
      | some (t, r) => (readKey fuel r).map fun (k, r) => ([c] ++ t ++ [c] ++ k, r)
    else if isBlank c then
      let before := rest.takeWhile isBlank
      match dropStart? (rest.drop before.length) "." with
      | none => some ([], rest.drop before.length)
      | some r =>
        let after := r.takeWhile isBlank
        (readKey fuel (r.drop after.length)).map fun (k, r) =>
          (Text.ofString " " ++ before ++ "." ++ after ++ k, r)
    else if c == '.' || isBareKey c then (readKey fuel rest).map fun (k, r) => (c :: k, r)
    else none

/-! ## Parts -/

/-- What may follow a dot. -/
def isPartStart (c : UInt8) : Bool := isBareKey c || c == '\'' || c == '"' || c == ' '

/-- The parts of a written key; the fuel bounds their number. -/
def splitKey : (fuel : Nat) → Text → Option (List Text)
  | 0, _ => none
  | fuel + 1, s =>
    match s.dropWhile isBlank with
    | [] => some []
    | c :: rest =>
      if isBareKey c then
        let part := (c :: rest).takeWhile isBareKey
        let tail := (c :: rest).drop part.length
        let r := tail.dropWhile isBlank
        if r.isEmpty || r.head? == some '.' then (splitKey fuel r).map (part :: ·) else none
      else if c == '\'' || c == '"' then
        match cut? rest [c] with
        | none => none
        | some (part, r) => (splitKey fuel r).map (part :: ·)
      else if c == '.' && rest.head?.any isPartStart then splitKey fuel rest
      else none

/-- The parts of a written key; there is at least one. -/
def parts? (key : Text) : Option (List Text) :=
  (splitKey (2 * key.length + 2) key).filter (!·.isEmpty)

end GodotSurvey.Toml
