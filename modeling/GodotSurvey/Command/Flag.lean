import GodotSurvey.Text.Number
import GodotSurvey.Text.Quoted

/-!
# Flags

Arguments of a command begin with flags and go on with plain arguments. A flag begins with one or two
minus signs; its value follows after an equals sign or, unless it is a switch, as the next argument.
Two minus signs alone end the flags.
-/

namespace GodotSurvey.Command

open Text

inductive FlagKind where
  | switch
  | text
  | int
  deriving DecidableEq, Repr

/-- A flag that a command knows: its name, other names for it, and its kind. -/
structure FlagSpec where
  name : Text
  aliases : List Text := []
  kind : FlagKind := .switch
  deriving DecidableEq, Repr

def FlagSpec.names (f : FlagSpec) : List Text := f.name :: f.aliases

/-- The value of a flag. -/
inductive FlagValue where
  | switch (on : Bool)
  | text (t : Text)
  | int (n : Int)
  deriving DecidableEq, Repr

/-- Why arguments are refused. -/
inductive UsageError where
  | badSyntax (argument : Text)
  | unknown (name : Text)
  | noValue (name : Text)
  | badSwitch (value name : Text)
  | badValue (value name : Text) (outOfRange : Bool)
  | twoForms (name other : Text)
  deriving DecidableEq, Repr

def UsageError.message : UsageError → Text
  | badSyntax a => "bad flag syntax: " ++ a
  | unknown n => "flag provided but not defined: -" ++ n
  | noValue n => "flag needs an argument: -" ++ n
  | badSwitch v n => "invalid boolean value " ++ quoted v ++ " for -" ++ n ++ ": parse error"
  | badValue v n outOfRange =>
    "invalid value " ++ quoted v ++ " for flag -" ++ n ++ ": "
      ++ if outOfRange then "value out of range" else "parse error"
  | twoForms n o => "Cannot use two forms of the same flag: " ++ n ++ " " ++ o

/-! ## Reading -/

def trueWords : List Text := ["1", "t", "T", "TRUE", "true", "True"]
def falseWords : List Text := ["0", "f", "F", "FALSE", "false", "False"]

/-- The text is an integer, if perhaps too large a one. -/
def isInteger (s : Text) : Bool :=
  let (_, body) := splitSign s
  let (base, marked, digits) := splitBase body
  underscoresSeparate marked digits
    && (parseNat? base (digits.filter fun c : UInt8 => c != '_')).isSome

/-- Reads the value of a flag, written under the given name. -/
def readValue (kind : FlagKind) (name value : Text) : Except UsageError FlagValue :=
  match kind with
  | .text => .ok (.text value)
  | .switch =>
    if trueWords.contains value then .ok (.switch true)
    else if falseWords.contains value then .ok (.switch false)
    else .error (.badSwitch value name)
  | .int =>
    match parseMarkedInt? value with
    | some n => .ok (.int n)
    | none => .error (.badValue value name (isInteger value))

/-- An argument is a flag, the end of the flags, or plain. -/
inductive Shape where
  | plain
  | endOfFlags
  | flag (name : Text) (value : Option Text)
  | malformed

/-- Splits the text of a flag at its first equals sign, which does not come first. -/
def splitFlag (body : Text) : Shape :=
  match body with
  | [] => .malformed
  | c :: rest =>
    if c == '-' || c == '=' then .malformed
    else match rest.dropWhile fun d : UInt8 => d != '=' with
      | [] => .flag body none
      | _ :: value => .flag (c :: rest.takeWhile fun d : UInt8 => d != '=') (some value)

def shapeOf : Text → Shape
  | a :: b :: rest =>
    if a != '-' then .plain
    else if b != '-' then splitFlag (b :: rest)
    else if rest.isEmpty then .endOfFlags
    else splitFlag rest
  | _ => .plain

/-- Flags as they were written, with their values, and the arguments after them. -/
structure Arguments where
  flags : List (Text × FlagValue) := []
  plain : List Text := []
  deriving Repr

/-- Adds a flag before those already read. -/
def Arguments.add (name : Text) (v : FlagValue) (a : Arguments) : Arguments :=
  { a with flags := (name, v) :: a.flags }

/-- Reads flags up to the first plain argument. -/
def readFlags (specs : List FlagSpec) : List Text → Except UsageError Arguments
  | [] => .ok {}
  | arg :: rest =>
    match shapeOf arg with
    | .plain => .ok { plain := arg :: rest }
    | .endOfFlags => .ok { plain := rest }
    | .malformed => .error (.badSyntax arg)
    | .flag name value =>
      match specs.find? (·.names.contains name), value, rest with
      | none, _, _ => .error (.unknown name)
      | some spec, some v, rest => do
        let v ← readValue spec.kind name v
        (·.add name v) <$> readFlags specs rest
      | some ⟨_, _, .switch⟩, none, rest => (·.add name (.switch true)) <$> readFlags specs rest
      | some _, none, [] => .error (.noValue name)
      | some spec, none, v :: rest => do
        let v ← readValue spec.kind name v
        (·.add name v) <$> readFlags specs rest
termination_by args => args.length
decreasing_by all_goals (simp_all; try omega)

/-- The first flag that was written under two of its names. -/
def twoForms? (specs : List FlagSpec) (a : Arguments) : Option UsageError :=
  specs.findSome? fun spec =>
    match spec.names.filter fun n => a.flags.any (·.1 == n) with
    | first :: second :: _ => some (.twoForms second first)
    | _ => none

/-- Reads the arguments of a command. -/
def readArguments (specs : List FlagSpec) (args : List Text) : Except UsageError Arguments := do
  let a ← readFlags specs args
  match twoForms? specs a with
  | some e => .error e
  | none => .ok a

/-! ## Looking up -/

namespace Arguments

/-- The value of a flag; of several the last counts. -/
def value? (a : Arguments) (f : FlagSpec) : Option FlagValue :=
  (a.flags.reverse.find? fun g => f.names.contains g.1).map (·.2)

def isSet (a : Arguments) (f : FlagSpec) : Bool := (a.value? f).isSome

/-- The switch is on. -/
def switch (a : Arguments) (f : FlagSpec) : Bool :=
  match a.value? f with
  | some (.switch on) => on
  | _ => false

def text (a : Arguments) (f : FlagSpec) (unset : Text) : Text :=
  match a.value? f with
  | some (.text t) => t
  | _ => unset

def int (a : Arguments) (f : FlagSpec) (unset : Int) : Int :=
  match a.value? f with
  | some (.int n) => n
  | _ => unset

end Arguments

end GodotSurvey.Command
