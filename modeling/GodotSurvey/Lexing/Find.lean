import GodotSurvey.Lexing.Quote

/-!
# Finding delimiters outside string literals

The scanners of this module never fail: `none` means that the delimiter does not occur.
-/

namespace GodotSurvey.Lexing

open Text

/-! ## Delimiters -/

def findUnquotedFrom (delim : Text) (st : QuoteState) (i : Nat) : Text → Option Nat
  | [] => none
  | c :: rest =>
    if st.outer c && startsWith (c :: rest) delim then some i
    else findUnquotedFrom delim (st.step c) (i + 1) rest

/-- The index of the first `delim` that starts outside literals; an empty one occurs nowhere. -/
def findUnquoted? (s delim : Text) : Option Nat :=
  if delim.isEmpty then none else findUnquotedFrom delim .outside 0 s

def findTypeColonFrom (st : QuoteState) (i : Nat) : Text → Option Nat
  | [] => none
  | c :: rest =>
    if st.outer c && c == ':' && rest.head? != some '=' then some i
    else findTypeColonFrom (st.step c) (i + 1) rest

/-- The index of the first unquoted colon that introduces a type; that of `:=` does not. -/
def findTypeColon? (s : Text) : Option Nat := findTypeColonFrom .outside 0 s

/-! ## Assignments -/

/-- An assignment operator: `=`, or `:=`, which infers the type of its target. -/
structure Assignment where
  index : Nat
  inferring : Bool
  deriving DecidableEq, Repr

/-- The number of bytes of the operator. -/
def Assignment.width (a : Assignment) : Nat := if a.inferring then 2 else 1

/-- The bytes that make a following `=` the end of a comparison or compound operator. -/
def joinsEquals (c : UInt8) : Bool := hasByte "=!<>+-*/%&|^:" c

def findPlainAssignmentFrom (previous : Option UInt8) (st : QuoteState) (i : Nat) :
    Text → Option Nat
  | [] => none
  | c :: rest =>
    if st.outer c && c == '=' && rest.head? != some '=' && !previous.any joinsEquals then some i
    else findPlainAssignmentFrom (some c) (st.step c) (i + 1) rest

/--
The first assignment outside literals. A `:=` anywhere wins over an earlier `=`, and no part of
a comparison or compound operator counts.
-/
def findAssignment? (s : Text) : Option Assignment :=
  match findUnquoted? s ":=" with
  | some i => some ⟨i, true⟩
  | none => (findPlainAssignmentFrom none .outside 0 s).map (⟨·, false⟩)

/-! ## Lines -/

/-- The line without a `#` comment that starts outside literals. -/
def stripComment (s : Text) : Text :=
  match findUnquoted? s "#" with
  | some i => s.take i
  | none => s

/-- The number of leading spaces and tabs. -/
def indent (s : Text) : Nat := (s.takeWhile isBlank).length

def identifiersFrom (word : Text) : Text → List Text
  | [] => if word.isEmpty then [] else [word.reverse]
  | c :: rest =>
    if isIdent c then identifiersFrom (c :: word) rest
    else if word.isEmpty then identifiersFrom [] rest
    else word.reverse :: identifiersFrom [] rest

/-- The maximal runs of identifier bytes. -/
def identifiers (s : Text) : List Text := identifiersFrom [] s

end GodotSurvey.Lexing
