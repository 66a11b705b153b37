import GodotSurvey.Lexing.Bracket
import GodotSurvey.Text.Number

/-!
# Types of literal expressions

The type of an expression is guessed from its shape: a literal has the type of its kind, a
constructor call that of what it constructs, another call without a dot the callee's name.
Everything else is a `Variant`.
-/

namespace GodotSurvey.Script

open Text Lexing

/-- The type of values about whose type nothing is known. -/
def variantType : Text := "Variant"

/-- Constants of the language that are floating-point numbers. -/
def floatConstants : List Text := ["PI", "TAU", "INF", "NAN"]

/-- The text starts with a capital ASCII letter. -/
def startsUpper (s : Text) : Bool := s.head?.any isUpper

/-- The text starts like a number. -/
def startsNumeric (s : Text) : Bool := s.head?.any fun c => isDigit c || c == '.'

/-- The type of a call expression, if it shows one. -/
def callType (s : Text) : Text :=
  match callForm? s with
  | none => variantType
  | some call =>
    match dropEnd? call.callee ".new" with
    | some type =>
      if !type.isEmpty && (startsUpper type || !hasByte type '.') then type else variantType
    | none =>
      if startsUpper call.callee || !hasByte call.callee '.' then call.callee else variantType

/-- The type of a word, number or call. -/
def plainType (s : Text) : Text :=
  if s == "true" || s == "false" then "bool"
  else if s == "null" then "Nil"
  else if floatConstants.contains s then "float"
  else
    let digits := s.dropWhile fun c : UInt8 => c == '+' || c == '-'
    let number := s.filter fun c : UInt8 => c != '_'
    if startsWith digits "0x" || startsWith digits "0b" then "int"
    else if startsNumeric digits && (parseInt64? number).isSome then "int"
    else if startsNumeric digits && isFiniteDouble number then "float"
    else callType s

/-- The type of a literal expression. -/
def literalType (expr : Text) : Text :=
  let s := trim expr
  match s with
  | [] => variantType
  | c :: _ =>
    if c == '^' then "NodePath"
    else if c == '&' then "StringName"
    else if isQuote c then
      if 2 ≤ s.length && s.getLast? == some c then "String" else variantType
    else if c == '[' then if isGroup s '[' then "Array" else variantType
    else if c == '{' then if isGroup s '{' then "Dictionary" else variantType
    else plainType s

end GodotSurvey.Script
