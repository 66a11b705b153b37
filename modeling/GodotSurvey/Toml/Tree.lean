import GodotSurvey.Json.Value

/-!
# Trees of TOML

While a text is read its tables can still grow, so the tree keeps more than a value shows: a table
that was written in one line is closed, and a list that was written as tables, one after the other,
can get more of them. A path leads through the last table of such a list.
-/

namespace GodotSurvey.Toml

open Json (Value)

/-- What stands under a name of a table. -/
inductive Item where
  | value (v : Value)
  | table (closed : Bool) (entries : List (Text × Item))
  | tables (items : List (Bool × List (Text × Item)))
  deriving Inhabited

/-- The entries of a table. -/
abbrev Table := List (Text × Item)

namespace Table

/-- Puts an item under a name, in place of the one that is there. -/
def put (name : Text) (item : Item) (t : Table) : Table :=
  if t.any (·.1 == name) then t.map fun e => if e.1 == name then (name, item) else e
  else t ++ [(name, item)]

/-- The item at a path that is not empty. -/
def get? : List Text → Table → Option Item
  | [], _ => none
  | [k], t => t.lookup k
  | k :: ks, t =>
    match t.lookup k with
    | some (.table _ inner) => get? ks inner
    | some (.tables items) => items.getLast?.bind fun last => get? ks last.2
    | _ => none

/-- Makes the tables along a path that are missing, closed if the one around them is. A value on the
path is a fault. -/
def make? (closed : Bool) : List Text → Table → Option Table
  | [], t => some t
  | k :: ks, t =>
    match t.lookup k with
    | none => (make? closed ks []).map fun inner => put k (.table closed inner) t
    | some (.table c inner) => (make? c ks inner).map fun inner => put k (.table c inner) t
    | some (.tables items) =>
      match items.getLast? with
      | none => none
      | some (c, inner) =>
        (make? c ks inner).map fun inner => put k (.tables (items.dropLast ++ [(c, inner)])) t
    | some (.value _) => none

/-- Puts an item at the end of a path, with open tables where some are missing. A name on the way
that has a value is passed over. -/
def force (item : Item) : List Text → Table → Table
  | [], t => t
  | [k], t => put k item t
  | k :: ks, t =>
    match t.lookup k with
    | none => put k (.table false (force item ks [])) t
    | some (.table c inner) => put k (.table c (force item ks inner)) t
    | some (.tables items) =>
      match items.getLast? with
      | none => put k (.tables [(false, force item ks [])]) t
      | some (c, inner) => put k (.tables (items.dropLast ++ [(c, force item ks inner)])) t
    | some (.value _) => force item ks t

/-- Changes the table at a path, with its mark; for a list of tables the last one. -/
def change? (f : Bool → Table → Option Table) (closed : Bool) : List Text → Table → Option Table
  | [], t => f closed t
  | k :: ks, t =>
    match t.lookup k with
    | some (.table c inner) => (change? f c ks inner).map fun inner => put k (.table c inner) t
    | some (.tables items) =>
      match items.getLast? with
      | none => none
      | some (c, inner) =>
        (change? f c ks inner).map fun inner => put k (.tables (items.dropLast ++ [(c, inner)])) t
    | _ => none

/-- Adds a name to the table at a path, which is made if it is missing. It must not be closed, nor
have the name already. -/
def add? (path : List Text) (name : Text) (item : Item) (t : Table) : Option Table :=
  (make? false path t).bind fun t =>
    change? (fun closed t => if closed || t.any (·.1 == name) then none else some (put name item t))
      false path t

end Table

mutual

/-- The item as a value. -/
def Item.toValue : Item → Value
  | .value v => v
  | .table _ entries => .object (membersOf entries)
  | .tables items => .array (recordsOf items)

def membersOf : List (Text × Item) → List (Text × Value)
  | [] => []
  | (k, item) :: rest => (k, item.toValue) :: membersOf rest

def recordsOf : List (Bool × List (Text × Item)) → List Value
  | [] => []
  | (_, entries) :: rest => .object (membersOf entries) :: recordsOf rest

end

end GodotSurvey.Toml
