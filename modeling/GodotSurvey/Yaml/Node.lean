import GodotSurvey.Text.Utf8
import GodotSurvey.Yaml.Scanner

/-!
# Nodes of YAML

A document is a tree of scalars, sequences and mappings, made from the tokens of its text. A node can
be named by an anchor and stand again where an alias has that name. Only the first document of a text
is read.
-/

namespace GodotSurvey.Yaml

/-- A node. A plain scalar is one without quotes, whose text may stand for another value. -/
inductive Node where
  | scalar (tag : Option Text) (text : Text) (plain : Bool)
  | sequence (items : List Node)
  | mapping (entries : List (Node × Node))
  | alias (name : Text) (target : Node)
  deriving Inhabited

/-- The node of a missing value. -/
def Node.missing : Node := .scalar none [] true

/-! ## Tags -/

/-- What all standard tags begin with. -/
def standardTags : Text := "tag:yaml.org,2002:"

/-- The short forms that every document knows. -/
def standardHandles : List (Text × Text) := [("!", "!"), ("!!", standardTags)]

/-- The tag in its short form, in which a standard tag begins with two marks. -/
def shortTag (t : Text) : Text :=
  match Text.dropStart? t standardTags with
  | some name => "!!" ++ name
  | none => t

/-- The tag that a handle and a suffix stand for; a mark alone is no tag. -/
def tagOf? (handles : List (Text × Text)) (handle suffix : Text) : Option (Option Text) :=
  if handle.isEmpty then some (if suffix == "!" then none else some (shortTag suffix))
  else (handles.lookup handle).map fun start => some (shortTag (start ++ suffix))

/-! ## Nodes from tokens -/

/-- The state of the reader: the tokens ahead, the nodes named so far, and the short forms of
tags. -/
structure Composer where
  tokens : List Token
  anchors : List (Text × Node) := []
  handles : List (Text × Text) := standardHandles

namespace Composer

/-- The reader without its next token. -/
def skip (c : Composer) : Composer := { c with tokens := c.tokens.tail }

def next (c : Composer) (ts : List Token) : Bool := c.tokens.head?.any (ts.contains ·)

/-- The properties in front of a node. -/
structure Properties where
  anchor : Option Text := none
  tag : Option Text := none
  /-- There are properties at all. -/
  present : Bool := false

/-- Takes an anchor and a tag, in either order. -/
def takeProperties? (c : Composer) : Option (Properties × Composer) :=
  let tag := fun (anchor : Option Text) (handle suffix : Text) (rest : List Token) =>
    (tagOf? c.handles handle suffix).map fun tag =>
      ((⟨anchor, tag, true⟩, { c with tokens := rest }) : Properties × Composer)
  match c.tokens with
  | .anchor name :: .tag handle suffix :: rest => tag (some name) handle suffix rest
  | .anchor name :: rest => some (⟨some name, none, true⟩, { c with tokens := rest })
  | .tag handle suffix :: .anchor name :: rest => tag (some name) handle suffix rest
  | .tag handle suffix :: rest => tag none handle suffix rest
  | _ => some ({}, c)

/-- Names a node. -/
def register (p : Properties) (n : Node) (c : Composer) : Composer :=
  match p.anchor with
  | some name => { c with anchors := (name, n) :: c.anchors }
  | none => c

mutual

/-- Reads a node. Blocks are nodes only outside of brackets, and as the value of a key the items of a
sequence may stand at the key's own column. -/
def readNode : (fuel : Nat) → (block atKey : Bool) → Composer → Option (Node × Composer)
  | 0, _, _, _ => none
  | fuel + 1, block, atKey, c =>
    match c.tokens with
    | .alias name :: _ => (c.anchors.lookup name).map fun n => (.alias name n, c.skip)
    | _ =>
      match c.takeProperties? with
      | none => none
      | some (p, c) =>
        let node : Option (Node × Composer) :=
          match c.tokens with
          | .scalar t plain :: _ => some (.scalar p.tag t plain, c.skip)
          | .sequenceOpen :: _ =>
            (readFlowItems fuel true c.skip).map fun (ns, c) => (.sequence ns, c)
          | .mappingOpen :: _ =>
            (readFlowEntries fuel true c.skip).map fun (es, c) => (.mapping es, c)
          | .item :: _ =>
            if atKey then (readItems fuel false c).map fun (ns, c) => (.sequence ns, c)
            else bare p c
          | .blockSequence :: _ =>
            if block then (readItems fuel true c.skip).map fun (ns, c) => (.sequence ns, c)
            else bare p c
          | .blockMapping :: _ =>
            if block then (readEntries fuel c.skip).map fun (es, c) => (.mapping es, c) else bare p c
          | _ => bare p c
        node.map fun (n, c) => (n, c.register p n)
where
  /-- A node that has properties only. -/
  bare (p : Properties) (c : Composer) : Option (Node × Composer) :=
    if p.present then some (.scalar p.tag [] true, c) else none

/-- Reads the items of a block. One with an end of its own goes up to it; another ends where its
items end. -/
def readItems : (fuel : Nat) → (own : Bool) → Composer → Option (List Node × Composer)
  | 0, _, _ => none
  | fuel + 1, own, c =>
    match c.tokens with
    | .item :: _ =>
      let c := c.skip
      let missing := c.next (if own then [.item, .blockEnd] else [.item, .key, .value, .blockEnd])
      match if missing then some (Node.missing, c) else readNode fuel true false c with
      | none => none
      | some (n, c) => (readItems fuel own c).map fun (ns, c) => (n :: ns, c)
    | .blockEnd :: _ => some ([], if own then c.skip else c)
    | _ => if own then none else some ([], c)

/-- Reads the entries of a block up to its end. -/
def readEntries : (fuel : Nat) → Composer → Option (List (Node × Node) × Composer)
  | 0, _ => none
  | fuel + 1, c =>
    let part := fun c : Composer =>
      if c.next [.key, .value, .blockEnd] then some (Node.missing, c) else readNode fuel true true c
    match c.tokens with
    | .key :: _ =>
      match part c.skip with
      | none => none
      | some (k, c) =>
        match if c.next [.value] then part c.skip else some (Node.missing, c) with
        | none => none
        | some (v, c) => (readEntries fuel c).map fun (es, c) => ((k, v) :: es, c)
    | .blockEnd :: _ => some ([], c.skip)
    | _ => none

/-- Reads the items between brackets; behind the first of them, commas stand in front. An item with a
key is a mapping of one entry. -/
def readFlowItems : (fuel : Nat) → (first : Bool) → Composer → Option (List Node × Composer)
  | 0, _, _ => none
  | fuel + 1, first, c =>
    if c.next [.sequenceClose] then some ([], c.skip)
    else if !first && !c.next [.comma] then none
    else
      let c := if first then c else c.skip
      if c.next [.sequenceClose] then some ([], c.skip)
      else
        let item : Option (Node × Composer) :=
          if c.next [.key] then (readFlowPair fuel c.skip).map fun (e, c) => (.mapping [e], c)
          else readNode fuel false false c
        match item with
        | none => none
        | some (n, c) => (readFlowItems fuel false c).map fun (ns, c) => (n :: ns, c)

/-- Reads the one entry of an item. Where the key is missing, the token in its place is passed
over. -/
def readFlowPair : (fuel : Nat) → Composer → Option ((Node × Node) × Composer)
  | 0, _ => none
  | fuel + 1, c =>
    match if c.next [.value, .comma, .sequenceClose] then some (Node.missing, c.skip)
        else readNode fuel false false c with
    | none => none
    | some (k, c) =>
      if !c.next [.value] then some ((k, Node.missing), c)
      else if c.skip.next [.comma, .sequenceClose] then some ((k, Node.missing), c.skip)
      else (readNode fuel false false c.skip).map fun (v, c) => ((k, v), c)

/-- Reads the entries between braces. -/
def readFlowEntries : (fuel : Nat) → (first : Bool) → Composer → Option (List (Node × Node) × Composer)
  | 0, _, _ => none
  | fuel + 1, first, c =>
    if c.next [.mappingClose] then some ([], c.skip)
    else if !first && !c.next [.comma] then none
    else
      let c := if first then c else c.skip
      if c.next [.mappingClose] then some ([], c.skip)
      else
        let entry : Option ((Node × Node) × Composer) :=
          if !c.next [.key] then (readNode fuel false false c).map fun (k, c) => ((k, Node.missing), c)
          else
            let c := c.skip
            match if c.next [.value, .comma, .mappingClose] then some (Node.missing, c)
                else readNode fuel false false c with
            | none => none
            | some (k, c) =>
              if !c.next [.value] then some ((k, Node.missing), c)
              else if c.skip.next [.comma, .mappingClose] then some ((k, Node.missing), c.skip)
              else (readNode fuel false false c.skip).map fun (v, c) => ((k, v), c)
        match entry with
        | none => none
        | some (e, c) => (readFlowEntries fuel false c).map fun (es, c) => (e :: es, c)

end

/-! ## Documents -/

/-- Takes the directives in front of a document. The version is given once at most and is 1.1, and a
short form is declared once at most. -/
def takeDirectives? (version : Bool) (own : List (Text × Text)) :
    List Token → Option (List (Text × Text) × List Token)
  | .version major minor :: rest =>
    if version || major != 1 || minor != 1 then none else takeDirectives? true own rest
  | .shorthand handle start :: rest =>
    if own.any (·.1 == handle) then none else takeDirectives? version (own ++ [(handle, start)]) rest
  | rest => some (own ++ standardHandles, rest)

/-- Reads the first document. -/
def readDocument? (fuel : Nat) (tokens : List Token) : Option (Node × Composer) :=
  match takeDirectives? false [] tokens with
  | none => none
  | some (handles, rest) =>
    let c : Composer := { tokens := rest, handles }
    let directives := rest.length != tokens.length
    if c.next [.documentStart] then
      let c := c.skip
      let missing := match c.tokens with
        | .version _ _ :: _ | .shorthand _ _ :: _ => true
        | _ => c.next [.documentStart, .documentEnd, .streamEnd]
      if missing then some (Node.missing, c) else readNode fuel true false c
    else if directives then none
    else if c.next [.streamEnd] then some (Node.missing, c)
    else readNode fuel true false c

end Composer

/-- Reads the first document of a YAML text. What follows it does not count, but the three tokens
behind it must be free of faults. -/
def parse? (s : Text) : Option Node :=
  let body := Text.stripStart s [0xEF, 0xBB, 0xBF]
  let chars := (Text.codePoints body).map Char.ofNat
  if !Text.isValidUtf8 body || !chars.all isAllowed then none
  else
    let scan := Scanner.scan chars
    match Composer.readDocument? (4 * scan.tokens.length + 8) scan.tokens with
    | some (n, c) => if scan.complete || 3 ≤ c.tokens.length then some n else none
    | none => none

end GodotSurvey.Yaml
