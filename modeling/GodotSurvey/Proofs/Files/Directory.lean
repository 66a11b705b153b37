import GodotSurvey.Files.Tree
import GodotSurvey.Proofs.Text.Path
import GodotSurvey.Proofs.Text.Table

/-!
# Files of one directory

What writing and removing a file of a directory does to the files of this directory, where the way
to it leads along directories and no entry of it is a link.

* `FileSystem.Holds` — there is such a directory at a place, with the given entries.
* `holds_put`, `holds_removeAll` — its entries after a change.
* `readFile_holds` — what is read from it.
-/

namespace GodotSurvey

open GodotSurvey.Path

/-! ## Trees -/

namespace Entry

theorem putEntry_eq_put (name : Text) (e : Entry) (es : List (Text × Entry)) :
    putEntry name e es = Text.put name e es := by
  induction es with
  | nil => rfl
  | cons x es ih => rw [putEntry, Text.put, ih]

theorem lookup_putEntry (name m : Text) (e : Entry) (es : List (Text × Entry)) :
    (putEntry name e es).lookup m = if m = name then some e else es.lookup m := by
  rw [putEntry_eq_put, Text.lookup_put]

theorem mem_putEntry {name : Text} {e : Entry} {es : List (Text × Entry)} {x : Text × Entry}
    (h : x ∈ putEntry name e es) : x = (name, e) ∨ x ∈ es := by
  induction es with
  | nil => simpa [putEntry] using h
  | cons y es ih =>
    rw [putEntry] at h
    split at h
    · rcases List.mem_cons.mp h with h | h
      · exact .inl h
      · exact .inr (List.mem_cons_of_mem y h)
    · rcases List.mem_cons.mp h with h | h
      · exact .inr (h ▸ List.mem_cons_self)
      · exact (ih h).imp id (List.mem_cons_of_mem y)

theorem at?_put {root : Entry} {place : List Text} {es : List (Text × Entry)}
    (h : root.at? place = some (.directory es)) (new : Entry) (name : Text) :
    (root.put new (place ++ [name])).at? place = some (.directory (putEntry name new es)) := by
  induction place generalizing root with
  | nil =>
    cases h
    simp [put, at?, entries]
  | cons seg place ih =>
    rw [at?] at h
    obtain ⟨c, hc, hrest⟩ := Option.bind_eq_some_iff.mp h
    rw [List.cons_append, put, at?, child?, entries, lookup_putEntry, if_pos rfl, hc]
    exact ih hrest

theorem at?_remove {root : Entry} {place : List Text} {es : List (Text × Entry)}
    (h : root.at? place = some (.directory es)) (name : Text) :
    (root.remove (place ++ [name])).at? place =
      some (.directory (es.filter (·.1 != name))) := by
  induction place generalizing root with
  | nil =>
    cases h
    simp [remove, at?, entries]
  | cons seg place ih =>
    rw [at?] at h
    obtain ⟨c, hc, hrest⟩ := Option.bind_eq_some_iff.mp h
    have hremove : root.remove (seg :: place ++ [name]) =
        .directory (putEntry seg (c.remove (place ++ [name])) root.entries) := by
      cases place with
      | nil => simp [remove, hc]
      | cons s place => simp [remove, hc]
    rw [hremove, at?, child?, entries, lookup_putEntry, if_pos rfl]
    exact ih hrest

theorem isDirectory_of_child? {e c : Entry} {name : Text} (h : e.child? name = some c) :
    e.isDirectory = true := by
  cases e with
  | directory es => rfl
  | file content => simp [child?, entries] at h
  | link target => simp [child?, entries] at h

theorem isDirectory_of_at? {e : Entry} {place : List Text} {es : List (Text × Entry)}
    (h : e.at? place = some (.directory es)) : e.isDirectory = true := by
  cases place with
  | nil =>
    cases h
    rfl
  | cons seg place =>
    obtain ⟨c, hc, -⟩ := Option.bind_eq_some_iff.mp h
    exact isDirectory_of_child? hc

end Entry

namespace FileSystem

/-! ## Walking to a directory -/

/-- A walk passes the directories of a place. -/
theorem walkPlain_place (root : Entry) (followLast : Bool) {place : List Text}
    (hnames : ∀ n ∈ place, isName n = true) {e : Entry} {es : List (Text × Entry)}
    (h : e.at? place = some (.directory es)) (start rest : List Text) :
    walkPlain root followLast start e (place ++ rest) =
      walkPlain root followLast (start ++ place) (.directory es) rest := by
  induction place generalizing e start with
  | nil =>
    cases h
    simp
  | cons seg place ih =>
    obtain ⟨c, hc, hrest⟩ := Option.bind_eq_some_iff.mp h
    obtain ⟨-, -, hdot, hdots⟩ := isName_iff.mp (hnames seg List.mem_cons_self)
    have hdir := Entry.isDirectory_of_at? hrest
    have ih := ih (fun n hn => hnames n (List.mem_cons_of_mem seg hn)) hrest (start ++ [seg])
    rw [List.append_assoc, List.singleton_append] at ih
    rw [List.cons_append, walkPlain, Entry.isDirectory_of_child? hc, hc]
    cases c with
    | directory cs => simpa [hdot, hdots] using ih
    | file content => contradiction
    | link target => contradiction

/-! ## A directory without links -/

/-- At the place there is a directory with these entries, none of them a link. -/
structure Holds (fs : FileSystem) (place : List Text) (es : List (Text × Entry)) : Prop where
  names : ∀ n ∈ place, isName n = true
  directory : fs.root.at? place = some (.directory es)
  noLinks : ∀ x ∈ es, x.2.isLink = false

theorem isName_append {place : List Text} (h : ∀ n ∈ place, isName n = true) {name : Text}
    (hname : isName name = true) : ∀ n ∈ place ++ [name], isName n = true := by
  intro n hn
  rcases List.mem_append.mp hn with hn | hn
  · exact h n hn
  · rwa [List.mem_singleton.mp hn]

variable {fs : FileSystem} {place : List Text} {es : List (Text × Entry)} {name : Text}

/-- A path into the directory leads to the entry of its name. -/
theorem locate_holds (h : fs.Holds place es) (hname : isName name = true) (followLast : Bool) :
    fs.locate followLast (rooted (place ++ [name])) =
      match es.lookup name with
      | none => .error (place ++ [name], .notFound)
      | some e => .ok (place ++ [name], e) := by
  have hsegs := segments_rooted (isName_append h.names hname)
  have hroot : (fs.root.at? []).getD fs.root = fs.root := rfl
  have hwalk := walkPlain_place fs.root followLast h.names h.directory [] [name]
  obtain ⟨-, -, hdot, hdots⟩ := isName_iff.mp hname
  have hlast : walkPlain fs.root followLast place (.directory es) [name] =
      match es.lookup name with
      | none => .failed (place ++ [name]) .notFound
      | some e => .found (place ++ [name]) e := by
    rw [walkPlain]
    simp only [Entry.isDirectory, Bool.not_true, Bool.false_eq_true, if_false, beq_iff_eq, hdot,
      hdots, Entry.child?, Entry.entries]
    cases hx : es.lookup name with
    | none => rfl
    | some e =>
      have hlink : e.isLink = false := by
        obtain ⟨l₁, l₂, hes, -⟩ := List.lookup_eq_some_iff.mp hx
        exact h.noLinks (name, e) (hes ▸ by simp)
      cases e with
      | link target => contradiction
      | file content => rfl
      | directory cs => rfl
  rw [locate, if_neg (by simp [rooted])]
  have habs : isAbsolute (rooted (place ++ [name])) = true := rfl
  simp only [habs, if_true, hsegs]
  rw [walk, hroot, hwalk, List.nil_append, hlast]
  cases es.lookup name <;> rfl

theorem holds_put (h : fs.Holds place es) (hname : isName name = true) (content : Text) :
    (fs.put (rooted (place ++ [name])) (.file content)).Holds place
      (Entry.putEntry name (.file content) es) := by
  have hnames := isName_append h.names hname
  have habs : fs.absolute (rooted (place ++ [name])) = rooted (place ++ [name]) :=
    clean_rooted hnames
  refine ⟨h.names, ?_, fun x hx => ?_⟩
  · rw [put, habs, cleanSegments_rooted hnames]
    exact Entry.at?_put h.directory _ name
  · rcases Entry.mem_putEntry hx with rfl | hx
    · rfl
    · exact h.noLinks x hx

theorem holds_removeAll (h : fs.Holds place es) (hname : isName name = true) :
    (fs.removeAll (rooted (place ++ [name]))).Holds place (es.filter (·.1 != name)) := by
  rw [removeAll, locate_holds h hname]
  cases hx : es.lookup name with
  | none =>
    have hfilter : es.filter (·.1 != name) = es := by
      rw [List.filter_eq_self]
      intro x hx'
      have hne : name ≠ x.1 := by simpa using List.lookup_eq_none_iff.mp hx x hx'
      simpa using Ne.symm hne
    rw [hfilter]
    exact h
  | some e =>
    refine ⟨h.names, Entry.at?_remove h.directory name, fun x hx => ?_⟩
    exact h.noLinks x (List.mem_filter.mp hx).1

/-- What is read depends on the entry of the name only. -/
theorem readFile_holds (h : fs.Holds place es) (hname : isName name = true) :
    fs.readFile (rooted (place ++ [name])) =
      match es.lookup name with
      | none => .error ⟨"open", rooted (place ++ [name]), .notFound⟩
      | some (.file content) => .ok content
      | some _ => .error ⟨"read", rooted (place ++ [name]), .isDirectory⟩ := by
  rw [readFile, locate_holds h hname]
  cases es.lookup name with
  | none => rfl
  | some e => cases e <;> rfl

end FileSystem

end GodotSurvey
