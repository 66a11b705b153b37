import GodotSurvey.Lexing.Find

/-!
# Brackets, calls and call arguments

Brackets are matched by kind: a parenthesis is closed by the parenthesis that brings the number of
open parentheses back to zero, and the other brackets between them are not looked at. Brackets
inside string literals do not count.
-/

namespace GodotSurvey.Lexing

open Text

/-! ## Matching brackets -/

/-- The bracket that closes `c`. -/
def closer? (c : UInt8) : Option UInt8 :=
  if c == '(' then some ')' else if c == '[' then some ']' else if c == '{' then some '}' else none

/-- The index where `depth` open brackets are closed, where the text starts at index `i`. -/
def closeFrom (opener closer : UInt8) (st : QuoteState) (depth i : Nat) : Text → Option Nat
  | [] => none
  | c :: rest =>
    let next := st.step c
    if !st.outer c then closeFrom opener closer next depth (i + 1) rest
    else if c == opener then closeFrom opener closer next (depth + 1) (i + 1) rest
    else if c == closer then
      if depth ≤ 1 then some i else closeFrom opener closer next (depth - 1) (i + 1) rest
    else closeFrom opener closer next depth (i + 1) rest

/-- The index of the bracket that closes the one the text begins with. -/
def closeOfFirst? : Text → Option Nat
  | [] => none
  | c :: rest => (closer? c).bind fun d => closeFrom c d .outside 0 0 (c :: rest)

/-- The index of the bracket that closes the one at index `i`. -/
def matchingClose? (s : Text) (i : Nat) : Option Nat :=
  (closeOfFirst? (s.drop i)).map (i + ·)

/-- The trimmed text is one group that `opener` opens and its last byte closes. -/
def isGroup (s : Text) (opener : UInt8) : Bool :=
  let t := trim s
  t.head? == some opener && closeOfFirst? t == some (t.length - 1)

/--
The content of the group opened at index `i` and the index of its closer. A group that is not
closed runs to the end of the text.
-/
def inner (s : Text) (i : Nat) : Text × Option Nat :=
  match matchingClose? s i with
  | none => (s.drop (i + 1), none)
  | some j => (slice s (i + 1) j, some j)

/--
`inner` at any integer position: before the text nothing can be cut out, and just before its
first byte the whole text is the content.
-/
def innerAt? (s : Text) (i : Int) : Option (Text × Option Nat) :=
  match i with
  | .ofNat n => some (inner s n)
  | .negSucc 0 => some (s, none)
  | .negSucc (_ + 1) => none

/-! ## Calls -/

/-- A call written `callee(args)`, with its raw argument text. -/
structure CallForm where
  callee : Text
  args : Text
  deriving DecidableEq, Repr

/-- Reads a text that is one call: a possibly dotted name, then one group up to the last byte. -/
def callForm? (s : Text) : Option CallForm :=
  let t := trim s
  match findByte? t '(' with
  | none | some 0 => none
  | some i =>
    let callee := trim (t.take i)
    if !callee.all (fun c => isIdent c || c == '.') then none
    else
      let (args, close) := inner t i
      if close == some (t.length - 1) then some ⟨callee, args⟩ else none

/-- The literal that the text begins with, after spaces and tabs and an optional `&`. -/
def leadingLiteral? (s : Text) : Option Text :=
  let t := s.dropWhile isBlank
  let t := if t.head? == some '&' then t.drop 1 else t
  match t with
  | [] => none
  | q :: rest =>
    if isQuote q then (closeLiteral? q rest).map fun i => unescape (rest.take i) else none

/-- The string literal that begins the argument list opening the text. -/
def firstQuotedArg? (s : Text) : Option Text :=
  match s.dropWhile isBlank with
  | [] => none
  | c :: rest => if c == '(' then leadingLiteral? rest else none

def quotedArgsFrom (name : Text) (allowDot : Bool) (previous : Option UInt8) (st : QuoteState) :
    (skip : Nat) → Text → List Text
  | _, [] => []
  | n + 1, c :: rest => quotedArgsFrom name allowDot (some c) (st.step c) n rest
  | 0, c :: rest =>
    if startsWith (c :: rest) name then
      let standsAlone := !previous.any fun p => isIdent p || (p == '.' && !allowDot)
      let found := if st.outer c && standsAlone
        then (firstQuotedArg? ((c :: rest).drop name.length)).toList else []
      found ++ quotedArgsFrom name allowDot (some c) (st.step c) (name.length - 1) rest
    else quotedArgsFrom name allowDot (some c) (st.step c) 0 rest

/--
The string literals passed as first argument to the calls of `name`. A call does not count when
an identifier byte stands before the name, nor when a dot does and `allowDot` is not given.
-/
def quotedArgs (line name : Text) (allowDot : Bool) : List Text :=
  if name.isEmpty then [] else quotedArgsFrom name allowDot none .outside 0 line

end GodotSurvey.Lexing
