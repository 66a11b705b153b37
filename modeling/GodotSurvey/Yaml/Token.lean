import GodotSurvey.Text.Basic

/-!
# Tokens of YAML

The tokens show the structure of a text that its indentation only hints at: a block begins and ends
with a token, and a key has a token of its own in front.
-/

namespace GodotSurvey.Yaml

inductive Token where
  /-- A directive that names the version of the language. -/
  | version (major minor : Nat)
  /-- A directive that declares a short form for the start of tags. -/
  | shorthand (handle start : Text)
  | documentStart
  | documentEnd
  | streamEnd
  | blockSequence
  | blockMapping
  | blockEnd
  | sequenceOpen
  | sequenceClose
  | mappingOpen
  | mappingClose
  /-- The dash in front of an item. -/
  | item
  /-- The comma between entries in brackets. -/
  | comma
  | key
  | value
  | alias (name : Text)
  | anchor (name : Text)
  | tag (handle suffix : Text)
  | scalar (text : Text) (plain : Bool)
  deriving DecidableEq, Repr

end GodotSurvey.Yaml
