import GodotSurvey.Analysis.Scope
import GodotSurvey.Registry.Basic

/-!
# Calls

The calls on a source line, and what each one is: internal when the script itself declares the
method, builtin when the engine provides it, and external otherwise.
-/

namespace GodotSurvey

/-! ## Call records -/

inductive CallKind where
  | internal
  | external
  | builtin
  | other (name : Text)
  deriving DecidableEq, Repr

namespace CallKind

def name : CallKind → Text
  | internal => "internal"
  | external => "external"
  | builtin => "builtin"
  | other n => n

def ofName (n : Text) : CallKind :=
  if n == "internal" then internal else if n == "external" then external
  else if n == "builtin" then builtin else other n

end CallKind

/-- A classified call: the method, the object it is called on, and the line it stands on. -/
structure CallRecord where
  method : Text
  object : Text
  kind : CallKind
  line : Nat := 0
  text : Text := []
  deriving DecidableEq, Repr

/-- The object of calls without a receiver. -/
def selfObject : Text := "self"

/-- `object.method` for a call on another object, else the method alone. -/
def CallRecord.qualifiedName (c : CallRecord) : Text :=
  if c.kind == .external && !c.object.isEmpty && c.object != selfObject then
    c.object ++ "." ++ c.method
  else c.method

open Document in
def CallRecord.document (c : CallRecord) : Document :=
  ofFields [field "method_name" (.text c.method), field "object" (.text c.object),
    field "call_type" (.text c.kind.name), field "line_number" (nat c.line),
    field "line" (.text c.text)]

namespace Call

open Text Lexing

/-! ## Finding calls -/

/-- A call as written. The receiver of a bare call is empty, and `args` is the raw text between
the parentheses. -/
structure Shape where
  receiver : Text
  method : Text
  args : Text
  line : Nat
  text : Text
  deriving DecidableEq, Repr

/-- Words of the language that may stand before a parenthesis without being called. -/
def keywords : List Text := words
  "if elif else while for match return and or not in is as func signal var const await yield super
  when static pass break continue class"

/-- The number of bytes, read backwards, from a closing bracket to the one that opens it. -/
def openLength (opener closer : UInt8) (depth n : Nat) : Text → Option Nat
  | [] => none
  | c :: rest =>
    if c == closer then openLength opener closer (depth + 1) (n + 1) rest
    else if c == opener then
      if depth ≤ 1 then some (n + 1) else openLength opener closer (depth - 1) (n + 1) rest
    else openLength opener closer depth (n + 1) rest

/-- The number of bytes, read backwards, of the part of a receiver that ends in `c`: one byte of a
dotted chain or node path, or a whole group or literal; 0 where the receiver ends. -/
def receiverPart (c : UInt8) (rest : Text) : Nat :=
  if isIdent c || c == '.' || c == '$' || c == '%' || c == '/' then 1
  else if c == ')' then (openLength '(' ')' 0 0 (c :: rest)).getD 0
  else if c == ']' then (openLength '[' ']' 0 0 (c :: rest)).getD 0
  else if isQuote c then ((findByte? rest c).map (· + 2)).getD 0
  else 0

/-- The length of the receiver that ends where the reversed masked text begins; `skip` bytes still
belong to the part found last. -/
def receiverLengthFrom : (skip : Nat) → Text → Nat
  | _, [] => 0
  | n + 1, _ :: rest => receiverLengthFrom n rest + 1
  | 0, c :: rest =>
    match receiverPart c rest with
    | 0 => 0
    | n + 1 => receiverLengthFrom n rest + 1

/-- The length of the receiver before a dot, given the masked text before it, last byte first. -/
def receiverLength (before : Text) : Nat := receiverLengthFrom 0 before

/--
The call whose parenthesis opens at index `i`, if there is one. `code` is the line without its
comment, and `before` its masked bytes before the parenthesis, last byte first.
-/
def shapeAt? (code before : Text) (i line : Nat) (text : Text) : Option Shape :=
  let method := (before.takeWhile isIdent).reverse
  let args := (inner code i).1
  match method with
  | [] => none
  | c :: _ =>
    if isDigit c then none
    else match before.drop method.length with
      | [] => if keywords.contains method then none else some ⟨[], method, args, line, text⟩
      | d :: receiver =>
        if d == '.' then
          let stop := i - method.length - 1
          let receiver := slice code (stop - receiverLength receiver) stop
          if receiver.isEmpty then none else some ⟨receiver, method, args, line, text⟩
        else if keywords.contains method then none
        else some ⟨[], method, args, line, text⟩

def shapesFrom (code : Text) (line : Nat) (text : Text) (before : Text) (i : Nat) :
    Text → List Shape
  | [] => []
  | c :: rest =>
    let found := if c == '(' then (shapeAt? code before i line text).toList else []
    found ++ shapesFrom code line text (c :: before) (i + 1) rest

/-- The calls of a line in order of appearance; literals and comments hold none. -/
def shapes (text : Text) (line : Nat) : List Shape :=
  let code := stripComment text
  shapesFrom code line (trim text) [] 0 (mask code)

/-! ## Classifying calls -/

/-- What classification consults. -/
structure Context where
  scope : Scope := {}
  registry : Registry := {}
  declared : List Text := []

/-- The name is written like a constant: capitals, digits and underscores. -/
def isConstantName (name : Text) : Bool :=
  match name with
  | [] => false
  | c :: _ => !isDigit c && name.all fun c => isUpper c || isDigit c || c == '_'

/-- The type behind a receiver of unknown type: that of a literal or constructor, that of a
constant of a primitive type such as `Vector2.ZERO`, or the receiver itself as a name. -/
def receiverType (receiver : Text) : Text :=
  let type := Script.literalType receiver
  if type != Script.variantType then type
  else match cut? receiver "." with
    | some (head, tail) =>
      if isConstantName tail && Registry.isPrimitive head then head else receiver
    | none => receiver

/-- `builtin` if the condition holds, else `external`. -/
def builtinIf (b : Bool) : CallKind := if b then .builtin else .external

/-- The kind of a call on something of the given type or name. -/
def kindOn (r : Registry) (type method : Text) : CallKind :=
  if r.isClass type && method == Registry.constructorMethod then .builtin
  else if Registry.isEngineClass type then builtinIf (Registry.engineHasMethod type method)
  else if r.isUserClass type then .external
  else if Registry.isPrimitive type then builtinIf (Registry.primitiveHasMethod type method)
  else if Registry.isArrayType type then builtinIf (Registry.arrayTypeHasMethod type method)
  else builtinIf (Registry.engineMethodKnown method)

/-- What a call is. A receiver of a known type makes it external. -/
def classify (ctx : Context) (c : Shape) : CallKind :=
  if c.receiver.isEmpty || c.receiver == "self" then
    if ctx.declared.contains c.method then .internal else .builtin
  else if c.receiver == "super" then .builtin
  else
    let receiver := stripStart c.receiver "self."
    if ctx.scope.known receiver then .external
    else kindOn ctx.registry (receiverType receiver) c.method

/-- The record of a call. -/
def record (ctx : Context) (c : Shape) : CallRecord where
  method := c.method
  object := if c.receiver.isEmpty then selfObject else c.receiver
  kind := classify ctx c
  line := c.line
  text := c.text

/-- The records of a line. -/
def records (ctx : Context) (text : Text) (line : Nat) : List CallRecord :=
  (shapes text line).map (record ctx)

end Call

end GodotSurvey
