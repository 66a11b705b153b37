import GodotSurvey.Json.Data
import GodotSurvey.Text.Base64
import GodotSurvey.Time.Instant
import GodotSurvey.Yaml.Node

/-!
# What nodes mean

A plain scalar stands for null, a truth value, a number or a point in time, if its text looks like
one; otherwise, and in quotes, it is a text. A tag can ask for a kind of value. A mapping can take
over entries of others by the key `<<`.
-/

namespace GodotSurvey.Yaml

open Text
open Json (Value)

/-- What a scalar stands for. -/
inductive Scalar where
  | null
  | bool (b : Bool)
  | int (n : Int)
  | float (x : Float)
  | moment (t : Text)
  | text (t : Text)

namespace Scalar

/-! ## Words -/

/-- The words that stand for other values. -/
def ofWord? (s : Text) : Option Scalar :=
  let is := fun words : List String => words.any fun w => s == Text.ofString w
  if is ["", "~", "null", "Null", "NULL"] then some .null
  else if is ["true", "True", "TRUE"] then some (.bool true)
  else if is ["false", "False", "FALSE"] then some (.bool false)
  else if is [".inf", ".Inf", ".INF", "+.inf", "+.Inf", "+.INF"] then some (.float (1.0 / 0.0))
  else if is ["-.inf", "-.Inf", "-.INF"] then some (.float (-1.0 / 0.0))
  else if is [".nan", ".NaN", ".NAN"] then some (.float (0.0 / 0.0))
  else none

/-! ## Points in time -/

/-- Takes a number of one or two digits. -/
def shortNumber? (s : Text) : Option (Nat × Text) :=
  let digits := (s.take 2).takeWhile isDigit
  if digits.isEmpty then none else some (digitsValue 10 digits, s.drop digits.length)

/-- Goes over a fraction of a second, if one is there. -/
def dropFraction (s : Text) : Text :=
  match s with
  | c :: d :: rest =>
    if (c == '.' || c == ',') && isDigit d then rest.dropWhile isDigit else s
  | _ => s

/-- Takes a time of day. -/
def dropTime? (s : Text) : Option Text := do
  let (hour, s) ← shortNumber? s
  let s ← dropStart? s ":"
  let (minute, s) ← shortNumber? s
  let s ← dropStart? s ":"
  let (second, s) ← shortNumber? s
  if hour < 24 && minute < 60 && second < 60 then some (dropFraction s) else none

/-- The whole text is a time zone. -/
def isZone (s : Text) : Bool :=
  match s with
  | [] => false
  | c :: rest =>
    if c == 'Z' then rest.isEmpty
    else if c != '+' && c != '-' then false
    else match Instant.digits? 2 rest with
      | some (hour, r) =>
        match (dropStart? r ":").bind (Instant.digits? 2) with
        | some (minute, r) => r.isEmpty && hour ≤ 24 && minute ≤ 60
        | none => false
      | none => false

/-- The text is a date, or a date and a time: behind a `T` one with a time zone, behind blanks one
without. -/
def isMoment (s : Text) : Bool :=
  let date := do
    let (year, s) ← Instant.digits? 4 s
    let s ← dropStart? s "-"
    let (month, s) ← shortNumber? s
    let s ← dropStart? s "-"
    let (day, s) ← shortNumber? s
    if 1 ≤ month && month ≤ 12 && 1 ≤ day && day ≤ Instant.daysInMonth year month then some s
    else none
  match date with
  | none => false
  | some [] => true
  | some (c :: rest) =>
    if c == 'T' || c == 't' then (dropTime? rest).any isZone
    else c == ' ' && (dropTime? (rest.dropWhile (· == ' '))).any (·.isEmpty)

/-! ## Numbers -/

/-- A signed integer of 64 bits in a base. -/
def integer? (base : Nat) (s : Text) : Option Int :=
  let (negative, digits) := splitSign s
  match parseNat? base digits with
  | none => none
  | some n =>
    let v : Int := if negative then -(n : Int) else n
    if fitsInt64 v then some v else none

/-- An integer without sign that needs all of its 64 bits, in the base that its first characters
mark. -/
def largeInteger? (s : Text) : Option Int :=
  let (base, _, digits) := splitBase s
  match parseNat? base digits with
  | some n => if (n : Int) < 2 * int64Limit then some n else none
  | none => none

/-- An integer whose sign stands behind the mark of its base. -/
def lateSigned? (s : Text) : Option Int :=
  match dropStart? s "0b", dropStart? s "0o" with
  | some r, _ => integer? 2 r
  | none, some r => integer? 8 r
  | none, none => none

/-- A decimal number that a double can hold. -/
def float? (s : Text) : Option Float :=
  let body := (splitSign s).2
  if startsWith body "0x" || startsWith body "0X" || !isFiniteDouble s then none
  else some (Value.floatOf s)

/-- The number that a text is; underscores do not count. -/
def number? (s : Text) : Option Scalar :=
  let digits := s.filter fun c : UInt8 => c != '_'
  match (parseMarkedInt? digits).or (largeInteger? digits) with
  | some n => some (.int n)
  | none =>
    match float? digits with
    | some x => some (.float x)
    | none => (lateSigned? digits).map .int

/-! ## Meaning -/

/-- What the text of a plain scalar stands for, with or without points in time. -/
def ofPlain (moments : Bool) (s : Text) : Scalar :=
  match ofWord? s with
  | some v => v
  | none =>
    match s with
    | [] => .null
    | c :: _ =>
      if c == '.' then
        match float? s with
        | some x => .float x
        | none => .text s
      else if !isDigit c && c != '+' && c != '-' then .text s
      else if moments && isMoment s then .moment s
      else (number? s).getD (.text s)

/-- What a scalar stands for. With a tag of a standard kind it has to be of that kind, where an
integer can be a float; a text with another tag is a text. -/
def of? (tag : Option Text) (s : Text) (plain : Bool) : Option Scalar :=
  match tag with
  | none => some (if plain then ofPlain true s else .text s)
  | some t =>
    if t == "!!binary" then (decodeBase64? s).map .text
    else match t == "!!null", t == "!!bool", t == "!!int", t == "!!float", t == "!!timestamp" with
      | false, false, false, false, false => some (.text s)
      | isNull, isBool, isInt, isFloat, isTime =>
        match ofPlain isTime s with
        | .null => if isNull then some .null else none
        | .bool b => if isBool then some (.bool b) else none
        | .int n =>
          if isInt then some (.int n)
          else if isFloat && fitsInt64 n then some (.float (Float.ofInt n)) else none
        | .float x => if isFloat then some (.float x) else none
        | .moment t => if isTime then some (.moment t) else none
        | .text _ => none

def value : Scalar → Value
  | null => .null
  | bool b => .bool b
  | int n => Value.ofInt n
  | float x => Value.ofFloat x
  | moment t => Value.ofMoment t
  | text t => .string t

end Scalar

/-! ## Entries -/

namespace Node

/-- The node that an alias stands for; another node stands for itself. -/
def target : Node → Node
  | .alias _ n => n
  | n => n

/-- Two keys are written alike: scalars with the same text, aliases with the same name, or any two
collections of one kind. -/
def sameKey : Node → Node → Bool
  | .scalar _ a _, .scalar _ b _ => a == b
  | .alias a _, .alias b _ => a == b
  | .sequence _, .sequence _ => true
  | .mapping _, .mapping _ => true
  | _, _ => false

/-- No two keys are written alike. -/
def keysDiffer : List (Node × Node) → Bool
  | [] => true
  | e :: es => !es.any (fun f => sameKey e.1 f.1) && keysDiffer es

/-- The key takes over the entries of other mappings. -/
def isMerge : Node → Bool
  | .scalar tag t plain => t == "<<" && ((tag.isNone && plain) || tag == some "!!merge")
  | _ => false

/-- The name that a key is; `none` for a collection. -/
def keyText? (n : Node) : Option Text :=
  match n.target with
  | .scalar tag t plain =>
    match Scalar.of? tag t plain with
    | some .null => some "<nil>"
    | some (.text s) => some s
    | some _ => some t
    | none => none
  | _ => none

/-- The mappings that a merge takes from: one, or those of a sequence. -/
def mergeSources? (n : Node) : Option (List (List (Node × Node))) :=
  let entries? : Node → Option (List (Node × Node)) := fun n =>
    match n.target with
    | .mapping es => some es
    | _ => none
  match n with
  | .sequence ns => ns.mapM entries?
  | n => (entries? n).map ([·])

/-- The entries of a mapping by name. Entries of its own go before those it takes over, and of these
the ones that are named first. The fuel bounds how deep mappings take over from others. -/
def namedEntries : (fuel : Nat) → List (Node × Node) → Option (List (Text × Node))
  | 0, _ => none
  | fuel + 1, entries =>
    if !keysDiffer entries then none
    else
      let own := (entries.filter (!isMerge ·.1)).mapM fun e => (keyText? e.1).map (·, e.2)
      match own, entries.find? (isMerge ·.1) with
      | none, _ => none
      | some own, none => some own
      | some own, some (_, source) =>
        match mergeSources? source with
        | none => none
        | some sources => sources.foldlM (fun known es =>
            (namedEntries fuel es).map fun more =>
              known ++ more.filter fun e => !known.any (·.1 == e.1)) own

/-- The entries of a mapping by name; `none` if a key occurs twice or is a collection. -/
def entries? : Node → Option (List (Text × Node))
  | .mapping es => namedEntries 100 es
  | _ => none

end Node

/-! ## Values -/

/-- The node as a tree of values; the fuel bounds its depth. -/
def valueOf : (fuel : Nat) → Node → Option Value
  | 0, _ => none
  | fuel + 1, n =>
    match n.target with
    | .scalar tag t plain => (Scalar.of? tag t plain).map (·.value)
    | .sequence ns => (ns.mapM (valueOf fuel)).map .array
    | .mapping es =>
      match (Node.mapping es).entries? with
      | none => none
      | some es =>
        (es.mapM fun (e : Text × Node) => (valueOf fuel e.2).map fun v => (e.1, v)).map .object
    | .alias _ _ => none

/-- The node as a tree of values. -/
def Node.value? (n : Node) : Option Value := valueOf 10000 n

end GodotSurvey.Yaml
