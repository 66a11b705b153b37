import GodotSurvey.Lexing.Attribute
import GodotSurvey.Proofs.Lexing.Balance

/-!
# Headers and their attributes

A `Header` is a section header before it is written: its kind and its attributes in order. Looking
an attribute up in the written header gives the value it was written with, whatever the values of
the other attributes look like: the reader passes over a word that is no key, over a literal, and
over any other byte outside literals.

* `headerAttr?_word` — a word is the key that is looked for, or it is passed over.
* `headerAttr?_print` — **attributes are read as written.**
-/

namespace GodotSurvey.Lexing

open Text

/-! ## Written headers -/

/-- The value of an attribute: a text, a list of names, or a reference to an external resource. -/
inductive AttrValue where
  | text (t : Text)
  | names (ns : List Text)
  | resource (id : Text)

/-- The names as literals between commas. -/
def nameList (ns : List Text) : Text := join ", " (ns.map literal)

def AttrValue.print : AttrValue → Text
  | text t => literal t
  | names ns => "[" ++ nameList ns ++ "]"
  | resource id => "ExtResource(" ++ literal id ++ ")"

/-- A section header: its kind and its attributes. -/
structure Header where
  kind : Text
  attrs : List (Text × AttrValue)

/-- The attributes, each after a blank, and the end of the header. -/
def printAttrs : List (Text × AttrValue) → Text
  | [] => "]"
  | (key, v) :: rest => " " ++ key ++ "=" ++ v.print ++ printAttrs rest

def Header.print (h : Header) : Text := "[" ++ h.kind ++ printAttrs h.attrs

theorem printAttrs_cons (key : Text) (v : AttrValue) (rest : List (Text × AttrValue)) :
    printAttrs ((key, v) :: rest) = 32 :: (key ++ 61 :: (v.print ++ printAttrs rest)) := by
  simp [printAttrs, Text.ofString, String.utf8EncodeChar]

theorem printAttrs_nil : printAttrs [] = [93] := rfl

theorem print_resource (id : Text) :
    (AttrValue.resource id).print = ofString "ExtResource" ++ 40 :: (literal id ++ [41]) := by
  simp [AttrValue.print, Text.ofString, String.utf8EncodeChar]

theorem print_names (ns : List Text) :
    (AttrValue.names ns).print = 91 :: (nameList ns ++ [93]) := by
  simp [AttrValue.print, Text.ofString, String.utf8EncodeChar]

theorem Header.print_eq (h : Header) : h.print = 91 :: (h.kind ++ printAttrs h.attrs) := by
  simp [Header.print, Text.ofString, String.utf8EncodeChar]

/-- The attributes begin with a blank or the end of the header. -/
theorem printAttrs_head (attrs : List (Text × AttrValue)) :
    ∃ c rest, printAttrs attrs = c :: rest ∧ (c = 32 ∨ c = 93) := by
  cases attrs with
  | nil => exact ⟨93, [], rfl, .inr rfl⟩
  | cons a attrs => exact ⟨32, _, printAttrs_cons a.1 a.2 attrs, .inl rfl⟩

theorem printAttrs_end (attrs : List (Text × AttrValue)) :
    ∃ s, printAttrs attrs = s ++ [93] := by
  induction attrs with
  | nil => exact ⟨[], rfl⟩
  | cons a attrs ih =>
    obtain ⟨s, hs⟩ := ih
    rw [printAttrs_cons, hs]
    exact ⟨32 :: (a.1 ++ 61 :: (a.2.print ++ s)), by simp⟩

/-! ## Words -/

/-- A non-empty run of identifier bytes. -/
def isWord (w : Text) : Bool := !w.isEmpty && w.all isIdent

theorem ne_nil_of_isWord {w : Text} (hw : isWord w) : w ≠ [] := by
  rintro rfl
  contradiction

theorem isIdent_of_isWord {w : Text} (hw : isWord w) : ∀ c ∈ w, isIdent c = true := by
  simp only [isWord, Bool.and_eq_true, List.all_eq_true] at hw
  exact hw.2

theorem isQuote_of_isIdent {c : UInt8} (hc : isIdent c = true) : isQuote c = false := by
  cases hq : isQuote c with
  | false => rfl
  | true =>
    simp only [isQuote, Bool.or_eq_true, beq_iff_eq] at hq
    rcases hq with rfl | rfl <;> contradiction

/-- A run of identifier bytes begins with a key and `=` only if it is the key. -/
theorem startsWith_word {key w : Text} {c : UInt8} (hkey : ∀ d ∈ key, isIdent d = true)
    (hw : ∀ d ∈ w, isIdent d = true) (hc : isIdent c = false) (rest : Text) :
    startsWith (w ++ c :: rest) (key ++ "=") = true ↔ w = key ∧ c = 61 := by
  have hequals : (ofString "=") = [61] := rfl
  rw [startsWith, hequals]
  induction key generalizing w with
  | nil =>
    cases w with
    | nil => simp [List.isPrefixOf, eq_comm (a := c)]
    | cons d w =>
      have hd : isIdent d = true := hw d List.mem_cons_self
      have hne : 61 ≠ d := by
        rintro rfl
        exact absurd hd (by decide)
      simp [List.isPrefixOf, hne]
  | cons k key ih =>
    have hk := hkey k List.mem_cons_self
    cases w with
    | nil =>
      have hne : k ≠ c := by
        rintro rfl
        exact Bool.noConfusion (hk.symm.trans hc)
      simp [List.isPrefixOf, hne]
    | cons d w =>
      have ih := ih (w := w) (fun e he => hkey e (List.mem_cons_of_mem k he))
        (fun e he => hw e (List.mem_cons_of_mem d he))
      simp only [List.cons_append, List.isPrefixOf, Bool.and_eq_true, beq_iff_eq, ih,
        List.cons.injEq]
      grind

/-! ## Looking up a key -/

theorem headerAttrFrom_congr {p q : Option UInt8} (h : p.any isIdent = q.any isIdent)
    (needle : Text) (st : QuoteState) (s : Text) :
    headerAttrFrom needle p st s = headerAttrFrom needle q st s := by
  cases s with
  | nil => rfl
  | cons c s => rw [headerAttrFrom, headerAttrFrom, h]

/-- Behind a byte of no identifier, the search for a key starts afresh. -/
theorem headerAttrFrom_of_not_isIdent {c : UInt8} (hc : isIdent c = false) (key s : Text) :
    headerAttrFrom (key ++ "=") (some c) .outside s = headerAttr? s key :=
  headerAttrFrom_congr (by simp [hc]) _ _ _

/-- Inside a word no key begins. -/
theorem headerAttrFrom_word {w : Text} (hw : ∀ d ∈ w, isIdent d = true) {p : Option UInt8}
    (hp : p.any isIdent = true) {c : UInt8} (hc : isIdent c = false) (hq : isQuote c = false)
    (key rest : Text) :
    headerAttrFrom (key ++ "=") p .outside (w ++ c :: rest) = headerAttr? rest key := by
  induction w generalizing p with
  | nil =>
    rw [List.nil_append, headerAttrFrom, step_outside hq]
    simp only [hp, Bool.not_true, Bool.and_false, Bool.false_eq_true, if_false]
    exact headerAttrFrom_of_not_isIdent hc key rest
  | cons d w ih =>
    have hd := hw d List.mem_cons_self
    rw [List.cons_append, headerAttrFrom, step_outside (isQuote_of_isIdent hd)]
    simp only [hp, Bool.not_true, Bool.and_false, Bool.false_eq_true, if_false]
    exact ih (fun e he => hw e (List.mem_cons_of_mem d he)) (by simpa using hd)

/-- A word is the key that is looked for, with its value behind `=`, or it is passed over. -/
theorem headerAttr?_word {key w : Text} (hkey : isWord key) (hw : isWord w) {c : UInt8}
    (hc : isIdent c = false) (hq : isQuote c = false) (rest : Text) :
    headerAttr? (w ++ c :: rest) key =
      if w = key ∧ c = 61 then some (headerAttrValue rest) else headerAttr? rest key := by
  have hstart := startsWith_word (isIdent_of_isWord hkey) (isIdent_of_isWord hw) hc rest
  cases w with
  | nil => exact absurd rfl (ne_nil_of_isWord hw)
  | cons d w =>
    have hd := (isIdent_of_isWord hw) d List.mem_cons_self
    rw [headerAttr?, List.cons_append, headerAttrFrom]
    rw [List.cons_append] at hstart
    simp only [hstart, outer_outside (isQuote_of_isIdent hd), Bool.true_and, Option.any_none,
      Bool.not_false, Bool.and_true]
    split
    · rename_i h
      obtain ⟨rfl, rfl⟩ := h
      congr 2
      have hequals : (ofString "=") = [61] := rfl
      rw [hequals, ← List.cons_append, List.append_cons _ _ rest]
      exact List.drop_left
    · rw [step_outside (isQuote_of_isIdent hd)]
      exact headerAttrFrom_word (fun e he => (isIdent_of_isWord hw) e (List.mem_cons_of_mem d he))
        (by simpa using hd) hc hq key rest

/-- A byte that belongs to no word and no literal is passed over. -/
theorem headerAttr?_byte {key : Text} (hkey : isWord key) {c : UInt8} (hc : isIdent c = false)
    (hq : isQuote c = false) (rest : Text) :
    headerAttr? (c :: rest) key = headerAttr? rest key := by
  have hstart : startsWith (c :: rest) (key ++ "=") = false := by
    cases key with
    | nil => exact absurd rfl (ne_nil_of_isWord hkey)
    | cons k key =>
      have hk := (isIdent_of_isWord hkey) k List.mem_cons_self
      have hne : k ≠ c := by
        rintro rfl
        exact Bool.noConfusion (hk.symm.trans hc)
      simp [startsWith, List.isPrefixOf, hne]
  rw [headerAttr?, headerAttrFrom, hstart, step_outside hq]
  simp only [Bool.and_false, Bool.false_and, Bool.false_eq_true, if_false]
  exact headerAttrFrom_of_not_isIdent hc key rest

/-- A part of which nothing is seen is passed over. -/
theorem headerAttrFrom_append {s : Text} {st : QuoteState} (h : outerBytes st s = [])
    (needle : Text) (p : Option UInt8) (rest : Text) :
    headerAttrFrom needle p st (s ++ rest) =
      headerAttrFrom needle (s.getLast?.or p) (st.run s) rest := by
  induction s generalizing st p with
  | nil => rfl
  | cons c s ih =>
    rw [outerBytes] at h
    split at h
    · contradiction
    · rename_i hc
      have hlast : (c :: s).getLast?.or p = s.getLast?.or (some c) := by
        cases s <;> simp [List.getLast?_cons]
      rw [List.cons_append, headerAttrFrom, hlast]
      simp only [hc, Bool.false_and, Bool.false_eq_true, if_false]
      exact ih h (some c)

theorem headerAttr?_literal (key t rest : Text) :
    headerAttr? (literal t ++ rest) key = headerAttr? rest key := by
  have hlast : (literal t).getLast?.or none = some 34 := by
    rw [literal_eq, ← List.cons_append, List.getLast?_concat]
    rfl
  rw [headerAttr?, headerAttrFrom_append (shows_literal t).seen, (shows_literal t).run, hlast]
  exact headerAttrFrom_of_not_isIdent rfl key rest

theorem headerAttr?_nameList {key : Text} (hkey : isWord key) (ns : List Text) (rest : Text) :
    headerAttr? (nameList ns ++ rest) key = headerAttr? rest key := by
  have hsep : (ofString ", ") = [44, 32] := rfl
  induction ns with
  | nil => rfl
  | cons n ns ih =>
    cases ns with
    | nil => exact headerAttr?_literal key n rest
    | cons m ns =>
      have hcons : nameList (n :: m :: ns) = literal n ++ ([44, 32] ++ nameList (m :: ns)) := by
        simp [nameList, join, hsep]
      rw [hcons, List.append_assoc, headerAttr?_literal, List.append_assoc, List.cons_append,
        List.cons_append, List.nil_append, headerAttr?_byte hkey rfl rfl,
        headerAttr?_byte hkey rfl rfl, ih]

theorem isWord_extResource : isWord "ExtResource" := rfl

/-- Values are passed over. -/
theorem headerAttr?_value {key : Text} (hkey : isWord key) (v : AttrValue) (rest : Text) :
    headerAttr? (v.print ++ rest) key = headerAttr? rest key := by
  cases v with
  | text t => exact headerAttr?_literal key t rest
  | names ns =>
    rw [print_names, List.cons_append, headerAttr?_byte hkey rfl rfl, List.append_assoc,
      headerAttr?_nameList hkey]
    exact headerAttr?_byte hkey rfl rfl rest
  | resource id =>
    rw [print_resource, List.append_assoc, List.cons_append,
      headerAttr?_word hkey isWord_extResource rfl rfl, if_neg (by simp), List.append_assoc,
      headerAttr?_literal]
    exact headerAttr?_byte hkey rfl rfl rest

/-! ## Values -/

theorem headerAttrValue_text (t rest : Text) :
    headerAttrValue ((AttrValue.text t).print ++ rest) = t := by
  have hprint : (AttrValue.text t).print ++ rest = 34 :: (escape t ++ 34 :: rest) := by
    simp [AttrValue.print, literal_eq]
  have hquote : isQuote 34 = true := rfl
  rw [hprint, headerAttrValue]
  simp only [hquote, if_true, closeLiteral?_escape]
  rw [List.take_left, unescape_escape]

theorem bareValueFrom_append {s : Text}
    (h : ∀ c ∈ s, c ≠ 40 ∧ c ≠ 93 ∧ isBlank c = false) (rest : Text) :
    bareValueFrom 0 (s ++ rest) = s ++ bareValueFrom 0 rest := by
  induction s with
  | nil => rfl
  | cons c s ih =>
    obtain ⟨h₁, h₂, h₃⟩ := h c List.mem_cons_self
    have ih := ih fun d hd => h d (List.mem_cons_of_mem c hd)
    simp [bareValueFrom, h₁, h₂, h₃, ih, Char.toUInt8]

theorem bareValueFrom_skip (s rest : Text) :
    bareValueFrom s.length (s ++ rest) = s ++ bareValueFrom 0 rest := by
  induction s with
  | nil => rfl
  | cons c s ih => simp [bareValueFrom, ih]

theorem isBalanced_literal (opener closer : UInt8) (t : Text) :
    IsBalanced opener closer (literal t) :=
  have hseen := (shows_literal t).seen
  isBalanced_of_not_mem (hseen ▸ List.not_mem_nil) (hseen ▸ List.not_mem_nil)

theorem headerAttrValue_resource (id : Text) {c : UInt8} (hc : c = 32 ∨ c = 93) (rest : Text) :
    headerAttrValue ((AttrValue.resource id).print ++ c :: rest) =
      (AttrValue.resource id).print := by
  have hstop : bareValueFrom 0 (c :: rest) = [] := by
    rcases hc with rfl | rfl <;> rfl
  have hgroup : bareValueFrom 0 (40 :: (literal id ++ 41 :: (c :: rest))) =
      40 :: bareValueFrom (literal id ++ [41]).length (literal id ++ [41] ++ (c :: rest)) := by
    have hparen : ((40 : UInt8) == '(') = true := rfl
    have hclose : closeOfFirst? (40 :: (literal id ++ 41 :: (c :: rest))) = _ :=
      closeOfFirst?_group rfl (shows_literal id).run (isBalanced_literal 40 41 id) (c :: rest)
    simp only [bareValueFrom, hparen, if_true, hclose]
    simp
  have hbare : headerAttrValue ((AttrValue.resource id).print ++ c :: rest) =
      bareValueFrom 0 ((AttrValue.resource id).print ++ c :: rest) := rfl
  rw [hbare, print_resource, List.append_assoc, bareValueFrom_append (by decide +kernel),
    List.cons_append, List.append_assoc, List.cons_append, List.nil_append, hgroup,
    bareValueFrom_skip, hstop, List.append_nil]

/-! ## Attributes of a written header -/

/-- What the reader makes of a value; lists of names are read otherwise. -/
def AttrValue.read? : AttrValue → Option Text
  | text t => some t
  | names _ => none
  | resource id => some (resource id).print

theorem headerAttrValue_print {v : AttrValue} (hv : v.read?.isSome)
    (attrs : List (Text × AttrValue)) :
    some (headerAttrValue (v.print ++ printAttrs attrs)) = v.read? := by
  cases v with
  | text t => rw [headerAttrValue_text, AttrValue.read?]
  | names ns => contradiction
  | resource id =>
    obtain ⟨c, rest, hattrs, hc⟩ := printAttrs_head attrs
    rw [hattrs, headerAttrValue_resource id hc, AttrValue.read?]

/-- The first attribute is the one that is looked for, or it is passed over. -/
theorem headerAttr?_attr {key k : Text} (hkey : isWord key) (hk : isWord k) (v : AttrValue)
    (attrs : List (Text × AttrValue)) :
    headerAttr? (printAttrs ((k, v) :: attrs)) key =
      if k = key then some (headerAttrValue (v.print ++ printAttrs attrs))
      else headerAttr? (printAttrs attrs) key := by
  rw [printAttrs_cons, headerAttr?_byte hkey rfl rfl, headerAttr?_word hkey hk rfl rfl]
  simp only [and_true, headerAttr?_value hkey]

theorem headerAttr?_attrs {key : Text} (hkey : isWord key) {attrs : List (Text × AttrValue)}
    (hattrs : ∀ a ∈ attrs, isWord a.1) (hread : ∀ v, attrs.lookup key = some v → v.read?.isSome) :
    headerAttr? (printAttrs attrs) key = (attrs.lookup key).bind AttrValue.read? := by
  induction attrs with
  | nil => exact headerAttr?_byte hkey rfl rfl []
  | cons a attrs ih =>
    rw [headerAttr?_attr hkey (hattrs a List.mem_cons_self)]
    rw [List.lookup_cons] at hread ⊢
    by_cases h : a.1 = key
    · simp only [h, beq_self_eq_true, if_true] at hread ⊢
      rw [headerAttrValue_print (hread a.2 rfl), Option.bind_some]
    · have hne : (key == a.1) = false := by simpa using Ne.symm h
      simp only [h, hne, if_false] at hread ⊢
      exact ih (fun b hb => hattrs b (List.mem_cons_of_mem a hb)) hread

/-- Kind and keys are words. -/
structure Header.WellFormed (h : Header) : Prop where
  kind : isWord h.kind
  keys : h.attrs.all fun a => isWord a.1

/-- **Attributes are read as written.** Looking up a key in a written header finds the value of
its first attribute of that name, and nothing if there is none. -/
theorem headerAttr?_print {h : Header} (hh : h.WellFormed) {key : Text} (hkey : isWord key)
    (hread : ∀ v, h.attrs.lookup key = some v → v.read?.isSome) :
    headerAttr? h.print key = (h.attrs.lookup key).bind AttrValue.read? := by
  obtain ⟨c, rest, hattrs, hc⟩ := printAttrs_head h.attrs
  have hident : isIdent c = false := by rcases hc with rfl | rfl <;> rfl
  have hquote : isQuote c = false := by rcases hc with rfl | rfl <;> rfl
  have hequals : c ≠ 61 := by rcases hc with rfl | rfl <;> decide
  have hkind : headerAttr? h.print key = headerAttr? (printAttrs h.attrs) key := by
    rw [Header.print_eq, headerAttr?_byte hkey rfl rfl, hattrs,
      headerAttr?_word hkey hh.kind hident hquote, if_neg (fun h => hequals h.2),
      headerAttr?_byte hkey hident hquote]
  rw [hkind, headerAttr?_attrs hkey (by simpa using hh.keys) hread]

/-! ## What is seen of a header -/

theorem shows_nameList (ns : List Text) :
    ∃ seen, Shows (nameList ns) seen ∧ ∀ c ∈ seen, c = 44 ∨ c = 32 := by
  induction ns with
  | nil => exact ⟨[], shows_nil, by simp⟩
  | cons n ns ih =>
    cases ns with
    | nil => exact ⟨[], shows_literal n, by simp⟩
    | cons m ns =>
      obtain ⟨seen, hseen, hc⟩ := ih
      have hsep : Shows ", " [44, 32] := ⟨rfl, rfl⟩
      refine ⟨[] ++ [44, 32] ++ seen, ((shows_literal n).append hsep).append hseen, ?_⟩
      simpa using hc

/-- Of a value, the letters of `ExtResource`, brackets, commas and blanks are seen at most. -/
theorem shows_print (v : AttrValue) :
    ∃ seen, Shows v.print seen ∧ ∀ c ∈ seen, c ∈ ofString "ExtResource()[], " := by
  cases v with
  | text t => exact ⟨[], shows_literal t, by simp⟩
  | names ns =>
    obtain ⟨seen, hseen, hc⟩ := shows_nameList ns
    have hopen : Shows "[" "[" := ⟨rfl, rfl⟩
    have hclose : Shows "]" "]" := ⟨rfl, rfl⟩
    refine ⟨_, (hopen.append hseen).append hclose, fun c hmem => ?_⟩
    simp only [List.mem_append] at hmem
    rcases hmem with (hmem | hmem) | hmem
    · revert c; decide +kernel
    · rcases hc c hmem with rfl | rfl <;> decide
    · revert c; decide +kernel
  | resource id =>
    have hopen : Shows "ExtResource(" "ExtResource(" := ⟨rfl, rfl⟩
    have hclose : Shows ")" ")" := ⟨rfl, rfl⟩
    exact ⟨_, (hopen.append (shows_literal id)).append hclose, by decide +kernel⟩

/-! ## Headers are one line -/

/-- The texts that a value holds. -/
def AttrValue.texts : AttrValue → List Text
  | text t => [t]
  | names ns => ns
  | resource id => [id]

theorem isOneLine_of_isWord {w : Text} (hw : isWord w) : IsOneLine w :=
  ⟨fun h => absurd (isIdent_of_isWord hw 10 h) (by decide),
    fun h => absurd (isIdent_of_isWord hw 13 h) (by decide)⟩

theorem isOneLine_nameList {ns : List Text} (h : ∀ n ∈ ns, IsOneLine n) :
    IsOneLine (nameList ns) := by
  have hsep : IsOneLine ", " := ⟨by decide, by decide⟩
  induction ns with
  | nil => exact ⟨by simp [nameList, join], by simp [nameList, join]⟩
  | cons n ns ih =>
    have hn := isOneLine_literal (h n List.mem_cons_self)
    cases ns with
    | nil => exact hn
    | cons m ns =>
      have hns := ih fun k hk => h k (List.mem_cons_of_mem n hk)
      exact isOneLine_append.mpr ⟨isOneLine_append.mpr ⟨hn, hsep⟩, hns⟩

theorem AttrValue.isOneLine_print {v : AttrValue} (h : ∀ t ∈ v.texts, IsOneLine t) :
    IsOneLine v.print := by
  cases v with
  | text t => exact isOneLine_literal (h t List.mem_cons_self)
  | names ns =>
    simp only [AttrValue.print, isOneLine_append]
    exact ⟨⟨⟨by decide, by decide⟩, isOneLine_nameList h⟩, ⟨by decide, by decide⟩⟩
  | resource id =>
    simp only [AttrValue.print, isOneLine_append]
    exact ⟨⟨⟨by decide, by decide⟩, isOneLine_literal (h id List.mem_cons_self)⟩,
      ⟨by decide, by decide⟩⟩

theorem Header.isOneLine_print {h : Header} (hh : h.WellFormed)
    (htexts : ∀ a ∈ h.attrs, ∀ t ∈ a.2.texts, IsOneLine t) : IsOneLine h.print := by
  have hattrs (attrs : List (Text × AttrValue)) (hkeys : ∀ a ∈ attrs, isWord a.1)
      (htexts : ∀ a ∈ attrs, ∀ t ∈ a.2.texts, IsOneLine t) : IsOneLine (printAttrs attrs) := by
    induction attrs with
    | nil => exact ⟨by decide, by decide⟩
    | cons a attrs ih =>
      simp only [printAttrs, isOneLine_append]
      exact ⟨⟨⟨⟨⟨by decide, by decide⟩, isOneLine_of_isWord (hkeys a List.mem_cons_self)⟩,
        ⟨by decide, by decide⟩⟩, AttrValue.isOneLine_print (htexts a List.mem_cons_self)⟩,
        ih (fun b hb => hkeys b (List.mem_cons_of_mem a hb))
          fun b hb => htexts b (List.mem_cons_of_mem a hb)⟩
  simp only [Header.print, isOneLine_append]
  exact ⟨⟨⟨by decide, by decide⟩, isOneLine_of_isWord hh.kind⟩,
    hattrs h.attrs (by simpa using hh.keys) htexts⟩

end GodotSurvey.Lexing
