import GodotSurvey.Lexing.Bracket

/-!
# Attributes of a section header

A header such as `[node name="Player" parent="."]` holds `key=value` attributes. A quoted value
ends at its closing quote; a bare one ends at a blank or `]`, and keeps a group in parentheses
whole, as in `instance=ExtResource("1")`.
-/

namespace GodotSurvey.Lexing

open Text

/-- The bytes of a bare value; `skip` of them still belong to the group found last. -/
def bareValueFrom : (skip : Nat) → Text → Text
  | _, [] => []
  | n + 1, c :: rest => c :: bareValueFrom n rest
  | 0, c :: rest =>
    match if c == '(' then closeOfFirst? (c :: rest) else none with
    | some n => c :: bareValueFrom n rest
    | none => if isBlank c || c == ']' then [] else c :: bareValueFrom 0 rest

/-- The value that stands at the front of the text; an unclosed literal is kept as it is. -/
def headerAttrValue (s : Text) : Text :=
  match s with
  | [] => []
  | q :: rest =>
    if isQuote q then
      match closeLiteral? q rest with
      | some i => unescape (rest.take i)
      | none => rest
    else bareValueFrom 0 s

def headerAttrFrom (needle : Text) (previous : Option UInt8) (st : QuoteState) :
    Text → Option Text
  | [] => none
  | c :: rest =>
    if st.outer c && startsWith (c :: rest) needle && !previous.any isIdent then
      some (headerAttrValue ((c :: rest).drop needle.length))
    else headerAttrFrom needle (some c) (st.step c) rest

/-- The value of the first attribute `key` of a header. -/
def headerAttr? (header key : Text) : Option Text :=
  headerAttrFrom (key ++ "=") none .outside header

/-- The value of attribute `key`, empty when the header has none. -/
def headerAttr (header key : Text) : Text := (headerAttr? header key).getD []

end GodotSurvey.Lexing
