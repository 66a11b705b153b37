import GodotSurvey.Proofs.Lexing.Balance
import GodotSurvey.Proofs.Text.Search
import GodotSurvey.Registry.Providers

/-!
# Serialised dictionaries

A dictionary is written as entries between braces, each a key and a string, which may be marked as a
name by `&`. What is read under a key is found by its quoted text and the colon behind it, wherever
that stands. Strings without quotes cannot hold this text, and what stands around them cannot
complete it: behind a key with other letters or behind a string there is no letter, and behind a
string there is no colon. So the search ends at an entry of the key, whatever the strings say.

* `find?_literal` — the search passes over every literal that is not the key in front of its colon.
* `dictString_dictBody` — **what is read under a key is the string of the first entry with it.**
* `closeOfFirst?_dictText` — a dictionary ends at its own brace.
-/

namespace GodotSurvey.Registry

open Text Lexing

/-! ## Writing -/

/-- A text that stands between double quotes as it is. -/
structure Quotable (s : Text) : Prop where
  noQuote : 34 ∉ s
  noBackslash : 92 ∉ s

theorem quotable_iff {s : Text} : Quotable s ↔ 34 ∉ s ∧ 92 ∉ s :=
  ⟨fun h => ⟨h.noQuote, h.noBackslash⟩, fun h => ⟨h.1, h.2⟩⟩

instance (s : Text) : Decidable (Quotable s) := decidable_of_iff' _ quotable_iff

/-- An entry of a dictionary. -/
structure DictEntry where
  key : Text
  value : Text
  /-- The value is written as a name, with `&` in front of it. -/
  isName : Bool := false

def DictEntry.text (e : DictEntry) : Text :=
  literal e.key ++ ": " ++ onlyIf e.isName "&" ++ literal e.value

/-- The entries of a dictionary from one of them on, with a gap behind each comma and behind the
last. -/
def entriesText (gap : Text) (es : List DictEntry) : Text :=
  Text.join ("," ++ gap) (es.map DictEntry.text) ++ gap

/-- The entries, with the same gap before the first. -/
def dictBody (gap : Text) (es : List DictEntry) : Text := gap ++ entriesText gap es

def dictText (gap : Text) (es : List DictEntry) : Text := "\x7b" ++ dictBody gap es ++ "\x7d"

/-- Blanks and line ends. -/
def IsGap (gap : Text) : Prop := ∀ c ∈ gap, c = 32 ∨ c = 9 ∨ c = 10 ∨ c = 13

instance (gap : Text) : Decidable (IsGap gap) := inferInstanceAs (Decidable (∀ c ∈ gap, _))

/-- The entry can be written and read. -/
structure DictEntry.WellFormed (e : DictEntry) : Prop where
  key : Quotable e.key
  value : Quotable e.value

variable {key gap s t u : Text} {e : DictEntry} {es : List DictEntry}

theorem literal_of_quotable (h : Quotable s) : literal s = 34 :: (s ++ [34]) := by
  rw [literal_eq, escape_eq_self h.noBackslash h.noQuote]

/-! ## Searching for a key -/

/-- The text that marks a key. -/
def keyMark (key : Text) : Text := 34 :: (key ++ [34, 58])

/-- The string in front of the text, behind blanks and line feeds. -/
def leadingString (rest : Text) : Text :=
  let rest := rest.dropWhile fun c : UInt8 => c == ' ' || c == '\t' || c == '\n'
  match dropStart? (stripStart rest "&") "\"" with
  | none => []
  | some rest =>
    match findByte? rest '"' with
    | some i => rest.take i
    | none => []

theorem dictString_eq (block key : Text) :
    dictString block key =
      (((cut? block (keyMark key)).map (·.2)).map leadingString).getD [] := by
  have hmark : ("\"" ++ key ++ "\":" : Text) = keyMark key := by
    rw [List.append_assoc]
    rfl
  rw [dictString, hmark]
  cases cut? block (keyMark key) <;> rfl

/-- What the search passes over does not matter. -/
theorem dictString_of_find?
    (h : find? (s ++ t) (keyMark key) = (find? t (keyMark key)).map (· + s.length)) :
    dictString (s ++ t) key = dictString t key := by
  rw [dictString_eq, dictString_eq, cut?_of_find? h]

theorem find?_of_no_quote (h : 34 ∉ s) (t : Text) :
    find? (s ++ t) (keyMark key) = (find? t (keyMark key)).map (· + s.length) :=
  find?_append_of_not_mem h _ t

theorem find?_quote (h : startsWith t (key ++ [34, 58]) = false) :
    find? (34 :: t) (keyMark key) = (find? t (keyMark key)).map (· + 1) := by
  have hmiss : (keyMark key).isPrefixOf (34 :: t) = false := by
    rw [keyMark, List.isPrefixOf, beq_self_eq_true, Bool.true_and]
    exact h
  rw [find?, findFrom, hmiss, if_neg (by simp), findFrom_add]
  rfl

/-- The text begins with no letter, and not with a quote. -/
def EndsKey (t : Text) : Prop := ∀ c ∈ t.head?, isIdent c = false ∧ c ≠ 34

/-- Behind the quote that closes a literal, no key begins. -/
theorem EndsKey.startsWith (h : EndsKey t) (hkey : ∀ c ∈ key, isIdent c = true) :
    startsWith t (key ++ [34, 58]) = false := by
  rw [Bool.eq_false_iff]
  intro hstart
  obtain ⟨r, rfl⟩ := startsWith_iff.mp hstart
  cases key with
  | nil => exact (h 34 rfl).2 rfl
  | cons c key =>
    have hc := (h c rfl).1
    rw [hkey c List.mem_cons_self] at hc
    contradiction

/-- The search passes over every literal that is not the key in front of its colon. -/
theorem find?_literal (hkey : ∀ c ∈ key, isIdent c = true) (hu : Quotable u)
    (hcolon : u = key → t.head? ≠ some 58) (ht : EndsKey t) :
    find? (literal u ++ t) (keyMark key) =
      (find? t (keyMark key)).map (· + (literal u).length) := by
  have hopen : startsWith (u ++ 34 :: t) (key ++ [34, 58]) = false := by
    rw [Bool.eq_false_iff]
    intro hstart
    obtain ⟨r, hr⟩ := startsWith_iff.mp hstart
    have hquote : 34 ∉ key := fun hmem => absurd (hkey 34 hmem) (by decide)
    rw [List.append_assoc] at hr
    obtain ⟨rfl, rfl⟩ := append_first_inj hu.noQuote hquote hr
    exact hcolon rfl rfl
  have hlength : (literal u).length = 1 + u.length + 1 := by
    rw [literal_of_quotable hu, List.length_cons, List.length_append, List.length_singleton]
    omega
  have happend : literal u ++ t = 34 :: (u ++ 34 :: t) := by
    rw [literal_of_quotable hu, List.cons_append, List.append_assoc]
    rfl
  rw [happend, find?_quote hopen, find?_of_no_quote hu.noQuote, find?_quote (ht.startsWith hkey),
    hlength, Option.map_map, Option.map_map]
  congr 1
  funext i
  simp only [Function.comp_apply]
  omega

/-! ## Reading an entry -/

theorem leadingString_entry (hvalue : Quotable s) (isName : Bool) (t : Text) :
    leadingString (32 :: (onlyIf isName "&" ++ (literal s ++ t))) = s := by
  have hquoted : literal s ++ t = 34 :: (s ++ 34 :: t) := by
    rw [literal_of_quotable hvalue, List.cons_append, List.append_assoc]
    rfl
  have hstrip : stripStart (onlyIf isName "&" ++ 34 :: (s ++ 34 :: t)) "&" =
      34 :: (s ++ 34 :: t) := by
    cases isName <;> rfl
  have hblank : (32 :: (onlyIf isName "&" ++ 34 :: (s ++ 34 :: t))).dropWhile
      (fun c : UInt8 => c == ' ' || c == '\t' || c == '\n') =
        onlyIf isName "&" ++ 34 :: (s ++ 34 :: t) := by
    cases isName <;> rfl
  have hend : findByte? (s ++ 34 :: t) '"' = some s.length := findByte?_append hvalue.noQuote t
  have hopen : dropStart? (34 :: (s ++ 34 :: t)) "\"" = some (s ++ 34 :: t) :=
    dropStart?_eq_some_iff.mpr rfl
  rw [hquoted, leadingString, hblank, hstrip]
  simp only [hopen, hend, List.take_left]

theorem text_append (e : DictEntry) (t : Text) :
    e.text ++ t =
      literal e.key ++ ([58, 32] ++ (onlyIf e.isName "&" ++ (literal e.value ++ t))) := by
  simp only [DictEntry.text, List.append_assoc]
  rfl

theorem dictString_entry_self (he : e.WellFormed) (t : Text) :
    dictString (e.text ++ t) e.key = e.value := by
  have hmark : e.text ++ t = [] ++ keyMark e.key ++
      (32 :: (onlyIf e.isName "&" ++ (literal e.value ++ t))) := by
    rw [text_append, literal_of_quotable he.key, keyMark]
    simp
  have hcut := cut?_append (s := []) (d := 34) List.not_mem_nil (e.key ++ [34, 58])
    (32 :: (onlyIf e.isName "&" ++ (literal e.value ++ t)))
  rw [hmark, dictString_eq, keyMark, hcut]
  exact leadingString_entry he.value e.isName t

theorem dictString_entry_of_ne (hkey : ∀ c ∈ key, isIdent c = true) (he : e.WellFormed)
    (hne : e.key ≠ key) (hcolon : t.head? ≠ some 58) (ht : EndsKey t) :
    dictString (e.text ++ t) key = dictString t key := by
  have hname : 34 ∉ onlyIf e.isName "&" := by
    cases e.isName <;> decide
  rw [text_append]
  calc dictString
        (literal e.key ++ ([58, 32] ++ (onlyIf e.isName "&" ++ (literal e.value ++ t)))) key
    _ = dictString ([58, 32] ++ (onlyIf e.isName "&" ++ (literal e.value ++ t))) key := by
      apply dictString_of_find?
      apply find?_literal hkey he.key
      · intro heq
        exact absurd heq hne
      · intro c hc
        obtain rfl := Option.some.inj hc
        decide
    _ = dictString (onlyIf e.isName "&" ++ (literal e.value ++ t)) key :=
      dictString_of_find? (find?_of_no_quote (by decide) _)
    _ = dictString (literal e.value ++ t) key := dictString_of_find? (find?_of_no_quote hname _)
    _ = dictString t key :=
      dictString_of_find? (find?_literal hkey he.value (fun _ => hcolon) ht)

/-! ## Reading a dictionary -/

theorem dictString_of_no_quote (h : 34 ∉ s) : dictString s key = [] := by
  have hnone : find? s (keyMark key) = none := by
    have hfind : find? (s ++ []) (keyMark key) = none := find?_of_no_quote h []
    rwa [List.append_nil] at hfind
  rw [dictString_eq, cut?, hnone]
  rfl

theorem IsGap.noQuote (h : IsGap gap) : 34 ∉ gap := fun hmem => by
  have := h 34 hmem
  contradiction

/-- What follows an entry in its dictionary, a comma or a gap, ends what might be a key. -/
theorem endsKey_of_gap (h : IsGap gap) : EndsKey gap ∧ gap.head? ≠ some 58 := by
  constructor
  · intro c hc
    rcases h c (List.mem_of_mem_head? hc) with rfl | rfl | rfl | rfl <;> decide
  · intro hc
    have := h 58 (List.mem_of_mem_head? hc)
    contradiction

/-- Behind an entry stands what ends a key, and there the search for any other key goes on. -/
theorem entriesText_cons (hgap : IsGap gap) (e : DictEntry) (es : List DictEntry) :
    ∃ t, entriesText gap (e :: es) = e.text ++ t ∧ EndsKey t ∧ t.head? ≠ some 58 ∧
      ∀ key, dictString t key = dictString (entriesText gap es) key := by
  cases es with
  | nil =>
    obtain ⟨hends, hcolon⟩ := endsKey_of_gap hgap
    exact ⟨gap, rfl, hends, hcolon, fun _ => rfl⟩
  | cons e' es =>
    have hcomma : 34 ∉ 44 :: gap := by simp [hgap.noQuote]
    refine ⟨(44 :: gap) ++ entriesText gap (e' :: es), ?_, ?_, nofun, ?_⟩
    · rw [entriesText, List.map_cons, Text.join_cons _ _ (by simp), List.append_assoc,
        List.append_assoc]
      rfl
    · intro c hc
      obtain rfl := Option.some.inj hc
      decide
    · intro key
      exact dictString_of_find? (find?_of_no_quote hcomma _)

/-- **Keys of a dictionary.** What is read under a key is the string of the first entry with it;
under a key that no entry has, nothing is read. -/
theorem dictString_dictBody (hkey : ∀ c ∈ key, isIdent c = true) (hgap : IsGap gap)
    (hes : ∀ e ∈ es, e.WellFormed) :
    dictString (dictBody gap es) key = ((es.find? (·.key == key)).map DictEntry.value).getD [] := by
  rw [dictBody, dictString_of_find? (find?_of_no_quote hgap.noQuote _)]
  induction es with
  | nil => exact dictString_of_no_quote hgap.noQuote
  | cons e es ih =>
    have he := hes e List.mem_cons_self
    have ih := ih fun e' he' => hes e' (List.mem_cons_of_mem e he')
    obtain ⟨t, hsplit, hends, hcolon, hrest⟩ := entriesText_cons hgap e es
    rw [hsplit, List.find?_cons]
    by_cases hek : e.key = key
    · subst hek
      rw [beq_self_eq_true]
      exact dictString_entry_self he t
    · rw [beq_false_of_ne hek, dictString_entry_of_ne hkey he hek hcolon hends, hrest]
      exact ih

/-! ## The end of a dictionary -/

/-- The text closes the literals that it opens, and outside them none of these bytes stands. -/
structure Hides (bytes : List UInt8) (s : Text) : Prop where
  run : QuoteState.outside.run s = .outside
  seen : ∀ c ∈ outerBytes .outside s, c ∉ bytes

variable {bytes : List UInt8}

theorem Hides.append (hs : Hides bytes s) (ht : Hides bytes t) : Hides bytes (s ++ t) := by
  constructor
  · rw [run_append, hs.run, ht.run]
  · intro c hc
    rw [outerBytes_append, hs.run] at hc
    exact (List.mem_append.mp hc).elim (hs.seen c) (ht.seen c)

theorem hides_literal (bytes : List UInt8) (s : Text) : Hides bytes (literal s) := by
  have hshows := shows_literal s
  refine ⟨hshows.run, fun c hc => ?_⟩
  rw [hshows.seen] at hc
  contradiction

theorem hides_of_forall (h : ∀ c ∈ s, isQuote c = false ∧ c ∉ bytes) : Hides bytes s := by
  have hshows := shows_of_no_quote fun c hc => (h c hc).1
  refine ⟨hshows.run, fun c hc => ?_⟩
  rw [hshows.seen] at hc
  exact (h c hc).2

theorem hides_join {sep : Text} {ts : List Text} (hsep : Hides bytes sep)
    (hts : ∀ t ∈ ts, Hides bytes t) : Hides bytes (Text.join sep ts) := by
  induction ts with
  | nil => exact ⟨rfl, nofun⟩
  | cons t ts ih =>
    have ht := hts t List.mem_cons_self
    have ih := ih fun u hu => hts u (List.mem_cons_of_mem t hu)
    cases ts with
    | nil => exact ht
    | cons u ts =>
      rw [Text.join_cons _ _ (by simp)]
      exact (ht.append hsep).append ih

theorem Hides.isBalanced {opener closer : UInt8} (hs : Hides bytes s) (hopener : opener ∈ bytes)
    (hcloser : closer ∈ bytes) : IsBalanced opener closer s :=
  isBalanced_of_not_mem (fun hmem => hs.seen opener hmem hopener)
    (fun hmem => hs.seen closer hmem hcloser)

/-- The square and the curly brackets. -/
def brackets : List UInt8 := [91, 93, 123, 125]

theorem hides_gap (hgap : IsGap gap) : Hides brackets gap := by
  apply hides_of_forall
  intro c hc
  rcases hgap c hc with rfl | rfl | rfl | rfl <;> decide

theorem hides_dictBody (hgap : IsGap gap) (es : List DictEntry) :
    Hides brackets (dictBody gap es) := by
  have hcomma : Hides brackets ("," ++ gap) :=
    (hides_of_forall (s := ",") (by decide)).append (hides_gap hgap)
  have hentry : ∀ t ∈ es.map DictEntry.text, Hides brackets t := by
    intro t ht
    obtain ⟨e, -, rfl⟩ := List.mem_map.mp ht
    have hmark : Hides brackets (onlyIf e.isName "&") := by
      cases e.isName <;> exact hides_of_forall (by decide)
    have hcolon : Hides brackets ": " := hides_of_forall (by decide)
    exact (((hides_literal _ e.key).append hcolon).append hmark).append (hides_literal _ e.value)
  exact (hides_gap hgap).append ((hides_join hcomma hentry).append (hides_gap hgap))

/-- Of a dictionary no square bracket is seen. -/
theorem hides_dictText (hgap : IsGap gap) (es : List DictEntry) :
    Hides [91, 93] (dictText gap es) := by
  have hbody := hides_dictBody hgap es
  have hsquare : Hides [91, 93] (dictBody gap es) :=
    ⟨hbody.run, fun c hc hmem => hbody.seen c hc (List.subset_append_left [91, 93] [123, 125] hmem)⟩
  have hopen : Hides [91, 93] "\x7b" := hides_of_forall (by decide)
  have hclose : Hides [91, 93] "\x7d" := hides_of_forall (by decide)
  exact (hopen.append hsquare).append hclose

theorem dictText_append (gap : Text) (es : List DictEntry) (t : Text) :
    dictText gap es ++ t = 123 :: (dictBody gap es ++ 125 :: t) := by
  rw [dictText, List.append_assoc, List.append_assoc]
  rfl

/-- A dictionary ends at its own brace, whatever its strings hold. -/
theorem closeOfFirst?_dictText (hgap : IsGap gap) (es : List DictEntry) (t : Text) :
    closeOfFirst? (dictText gap es ++ t) = some ((dictBody gap es).length + 1) := by
  have hbody := hides_dictBody hgap es
  rw [dictText_append]
  exact closeOfFirst?_group (by decide) hbody.run (hbody.isBalanced (by decide) (by decide)) t

end GodotSurvey.Registry
