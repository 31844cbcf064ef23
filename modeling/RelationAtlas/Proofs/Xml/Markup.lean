import Mathlib.Data.List.Basic
import RelationAtlas.Xml.Document
import RelationAtlas.Xml.Event

/-! # Reading written markup

A value survives escaping, but for white space in it that reading turns into blanks. From that on,
each tag that is written reads as its event, and what follows it is left. -/

namespace RelationAtlas.Xml

def IsKept (c : Char) : Prop := isChar c = true ∧ c ≠ '\t' ∧ c ≠ '\n' ∧ c ≠ '\r'

instance : DecidablePred IsKept := fun _ => inferInstanceAs (Decidable (_ ∧ _))

def IsKeptText (text : String) : Prop := ∀ c ∈ text.toList, IsKept c

instance : DecidablePred IsKeptText := fun text =>
  List.decidableBAll (fun c => IsKept c) text.toList

structure IsPlainName (name : List Char) : Prop where
  start : name.head?.any isNameStart = true
  inner : ∀ c ∈ name, isNameChar c = true
  unqualified : ':' ∉ name
  declaresNothing : name ≠ "xmlns".toList

instance : DecidablePred IsPlainName := fun name =>
  have : Decidable (∀ c ∈ name, isNameChar c = true) := List.decidableBAll _ name
  decidable_of_iff (name.head?.any isNameStart = true ∧ (∀ c ∈ name, isNameChar c = true) ∧
      ':' ∉ name ∧ name ≠ "xmlns".toList)
    ⟨fun ⟨start, inner, unqualified, other⟩ => ⟨start, inner, unqualified, other⟩,
      fun ⟨start, inner, unqualified, other⟩ => ⟨start, inner, unqualified, other⟩⟩

section Spacing

def spacedChar (c : Char) : Char := if c = '\t' ∨ c = '\n' ∨ c = '\r' then ' ' else c

/-- The value with a blank for each tab and for each line end, that of two characters included. -/
def spacedList : List Char → List Char
  | [] => []
  | '\r' :: '\n' :: rest => ' ' :: spacedList rest
  | c :: rest => spacedChar c :: spacedList rest

def spaced (text : String) : String := String.ofList (spacedList text.toList)

theorem spacedChar_eq_self {c : Char} (kept : IsKept c) : spacedChar c = c := by
  obtain ⟨-, tab, lf, cr⟩ := kept
  simp [spacedChar, tab, lf, cr]

theorem spacedList_eq_self {cs : List Char} (kept : ∀ c ∈ cs, IsKept c) : spacedList cs = cs := by
  fun_induction spacedList cs with
  | case1 => rfl
  | case2 => exact absurd (kept '\r' (by simp)) (by decide)
  | case3 c rest _ ih =>
    obtain ⟨first, later⟩ := List.forall_mem_cons.1 kept
    rw [spacedChar_eq_self first, ih later]

theorem spaced_eq_self {text : String} (kept : IsKeptText text) : spaced text = text := by
  rw [spaced, spacedList_eq_self kept, String.ofList_toList]

theorem isChar_of_spacedChar {c : Char} (h : isChar (spacedChar c) = true) : isChar c = true := by
  unfold spacedChar at h
  split at h
  case isTrue white =>
    rcases white with rfl | rfl | rfl <;> rfl
  case isFalse => exact h

theorem isChar_of_spacedList {cs : List Char} (legal : ∀ c ∈ spacedList cs, isChar c = true) :
    ∀ c ∈ cs, isChar c = true := by
  fun_induction spacedList cs with
  | case1 => simp
  | case2 rest ih =>
    obtain ⟨-, later⟩ := List.forall_mem_cons.1 legal
    exact List.forall_mem_cons.2 ⟨rfl, List.forall_mem_cons.2 ⟨rfl, ih later⟩⟩
  | case3 c rest _ ih =>
    obtain ⟨first, later⟩ := List.forall_mem_cons.1 legal
    exact List.forall_mem_cons.2 ⟨isChar_of_spacedChar first, ih later⟩

theorem mem_spacedList {cs : List Char} {c : Char} (h : c ∈ spacedList cs) :
    c = ' ' ∨ ∃ d ∈ cs, c = spacedChar d := by
  fun_induction spacedList cs with
  | case1 => cases h
  | case2 rest ih =>
    rcases List.mem_cons.1 h with rfl | later
    · exact .inl rfl
    · refine (ih later).imp_right fun found => ?_
      obtain ⟨d, inside, same⟩ := found
      exact ⟨d, by simp [inside], same⟩
  | case3 d rest _ ih =>
    rcases List.mem_cons.1 h with rfl | later
    · exact .inr ⟨d, List.mem_cons_self, rfl⟩
    · refine (ih later).imp_right fun found => ?_
      obtain ⟨e, inside, same⟩ := found
      exact ⟨e, List.mem_cons_of_mem _ inside, same⟩

theorem spacedList_ne_nil {cs : List Char} (h : cs ≠ []) : spacedList cs ≠ [] := by
  fun_induction spacedList cs with
  | case1 => exact h
  | case2 => exact List.cons_ne_nil _ _
  | case3 => exact List.cons_ne_nil _ _

theorem spacedList_append {d : Char} (plain : d ≠ '\n') (cs rest : List Char) :
    spacedList (cs ++ d :: rest) = spacedList cs ++ spacedList (d :: rest) := by
  fun_induction spacedList cs with
  | case1 => rfl
  | case2 later ih => rw [List.cons_append, List.cons_append, spacedList, ih, List.cons_append]
  | case3 c later lone ih =>
    rw [List.cons_append, spacedList, ih, List.cons_append]
    rintro after rfl same
    cases later with
    | nil => exact plain (List.cons.inj same).1
    | cons next later => exact lone later rfl (congrArg (· :: later) (List.cons.inj same).1)

end Spacing

section Value

theorem expandFrom_skip (before after : List Char) :
    expandFrom before.length (before ++ after) = expandFrom 0 after := by
  induction before with
  | nil => rfl
  | cons c before ih => simpa [expandFrom] using ih

theorem cutAtFirst_append {mark : Char} {before : List Char} (after : List Char)
    (h : mark ∉ before) : Text.cutAtFirst mark (before ++ mark :: after) = some (before, after) := by
  induction before with
  | nil => simp [Text.cutAtFirst]
  | cons c before ih =>
    simp only [List.mem_cons, not_or] at h
    simp [Text.cutAtFirst, Ne.symm h.1, ih h.2]

theorem expandFrom_reference (body rest : List Char) {c : Char} (closed : ';' ∉ body)
    (known : referenced? body = some c) :
    expandFrom 0 ('&' :: body ++ ';' :: rest) = (expandFrom 0 rest).map (c :: ·) := by
  have passed : expandFrom (body.length + 1) (body ++ ';' :: rest) = expandFrom 0 rest := by
    have := expandFrom_skip (body ++ [';']) rest
    simpa using this
  rw [List.cons_append, expandFrom]
  simp only [cutAtFirst_append rest closed, Option.bind_eq_bind, Option.bind_some, known, passed]
  cases expandFrom 0 rest <;> rfl

theorem expandFrom_plain {c : Char} (rest : List Char) (plain : c ≠ '&')
    (alone : c = '\r' → rest.head? ≠ some '\n') :
    expandFrom 0 (c :: rest) = (expandFrom 0 rest).map (spacedChar c :: ·) := by
  rw [expandFrom]
  · unfold spacedChar
    cases expandFrom 0 rest <;> rfl
  · exact plain
  · rintro rest rfl rfl
    exact alone rfl rfl

theorem escapeChar_eq_cons {c : Char} (h : c ≠ '\n') :
    ∃ d ds, escapeChar c = d :: ds ∧ d ≠ '\n' := by
  unfold escapeChar
  split_ifs
  · exact ⟨_, _, rfl, by decide⟩
  · exact ⟨_, _, rfl, by decide⟩
  · exact ⟨_, _, rfl, by decide⟩
  · exact ⟨_, _, rfl, by decide⟩
  · exact ⟨_, _, rfl, by decide⟩
  · exact ⟨_, _, rfl, h⟩

theorem head?_flatMap_escapeChar {value : List Char} (h : value.head? ≠ some '\n') :
    (value.flatMap escapeChar).head? ≠ some '\n' := by
  cases value with
  | nil => simp
  | cons c value =>
    obtain ⟨d, ds, escaped, other⟩ := escapeChar_eq_cons (c := c) (by simpa using h)
    simpa [List.flatMap_cons, escaped] using other

theorem expandFrom_escapeChar {c : Char} (rest : List Char)
    (alone : c = '\r' → rest.head? ≠ some '\n') :
    expandFrom 0 (escapeChar c ++ rest) = (expandFrom 0 rest).map (spacedChar c :: ·) := by
  unfold escapeChar
  split_ifs with lt gt amp apos quot
  · exact lt ▸ expandFrom_reference "lt".toList rest (by decide) (by decide)
  · exact gt ▸ expandFrom_reference "gt".toList rest (by decide) (by decide)
  · exact amp ▸ expandFrom_reference "amp".toList rest (by decide) (by decide)
  · exact apos ▸ expandFrom_reference "apos".toList rest (by decide) (by decide)
  · exact quot ▸ expandFrom_reference "quot".toList rest (by decide) (by decide)
  · exact expandFrom_plain rest amp alone

theorem expand?_escape (value : List Char) :
    expand? (value.flatMap escapeChar) = some (spacedList value) := by
  rw [expand?]
  fun_induction spacedList value with
  | case1 => rfl
  | case2 rest ih =>
    have written : ('\r' :: '\n' :: rest).flatMap escapeChar =
        '\r' :: '\n' :: rest.flatMap escapeChar := rfl
    rw [written, expandFrom, expandFrom, ih]
    rfl
  | case3 c rest alone ih =>
    rw [List.flatMap_cons, expandFrom_escapeChar, ih]
    · rfl
    · rintro rfl
      apply head?_flatMap_escapeChar
      cases rest with
      | nil => simp
      | cons d rest => simpa using alone

end Value

section Tags

variable {name rest : List Char}

theorem takeWhile_name (name_inner : ∀ c ∈ name, isNameChar c = true)
    (stops : rest.head?.all fun c => !isNameChar c) :
    (name ++ rest).takeWhile isNameChar = name ∧ (name ++ rest).dropWhile isNameChar = rest := by
  rw [List.takeWhile_append_of_pos name_inner, List.dropWhile_append_of_pos name_inner]
  cases rest with
  | nil => simp
  | cons c rest => simp_all

theorem cutAtFirst_eq_none {mark : Char} {cs : List Char} (h : mark ∉ cs) :
    Text.cutAtFirst mark cs = none := by
  induction cs with
  | nil => rfl
  | cons c cs ih =>
    simp only [List.mem_cons, not_or] at h
    simp [Text.cutAtFirst, Ne.symm h.1, ih h.2]

def plainName (name : List Char) : QName := ⟨"", String.ofList name⟩

theorem qname?_append (plain : IsPlainName name) (stops : rest.head?.all fun c => !isNameChar c) :
    qname? (name ++ rest) = some (plainName name, rest) := by
  obtain ⟨word, after⟩ := takeWhile_name plain.inner stops
  simp [qname?, word, after, cutAtFirst_eq_none plain.unqualified, plain.start, plain.unqualified,
    plainName]

def isQuotable (c : Char) : Bool := isChar c && c != '"' && c != '<'

theorem all_isQuotable_escapeChar {c : Char} (legal : isChar c = true) :
    (escapeChar c).all isQuotable = true := by
  unfold escapeChar
  split_ifs with lt gt amp apos quot
  iterate 5 decide
  simp [isQuotable, legal, lt, quot]

theorem quoted?_escape {value : List Char} (rest : List Char)
    (legal : ∀ c ∈ value, isChar c = true) :
    quoted? ('"' :: (value.flatMap escapeChar ++ '"' :: rest)) =
      some (value.flatMap escapeChar, rest) := by
  have inside : ∀ d ∈ value.flatMap escapeChar, isQuotable d = true := by
    intro d hd
    obtain ⟨c, hc, hd⟩ := List.mem_flatMap.1 hd
    exact List.all_eq_true.1 (all_isQuotable_escapeChar (legal c hc)) d hd
  simp only [isQuotable, Bool.and_eq_true, and_assoc] at inside
  have unended : ∀ d ∈ value.flatMap escapeChar, (d != '"' && d != '<') = true := by
    intro d hd
    rw [(inside d hd).2.1, (inside d hd).2.2, Bool.and_true]
  have good : (value.flatMap escapeChar).all isChar = true :=
    List.all_eq_true.2 fun d hd => (inside d hd).1
  simp only [quoted?, true_or, if_true, List.takeWhile_append_of_pos unended,
    List.dropWhile_append_of_pos unended]
  simp [good]

theorem IsPlainName.exists_cons (plain : IsPlainName name) :
    ∃ c cs, name = c :: cs ∧ isNameStart c = true := by
  obtain ⟨start, -, -, -⟩ := plain
  cases name with
  | nil => simp at start
  | cons c cs => exact ⟨c, cs, rfl, by simpa using start⟩

theorem not_isSpace_of_isNameStart {c : Char} (h : isNameStart c = true) : isSpace c = false := by
  apply Bool.eq_false_iff.2
  intro space
  simp only [isSpace, Bool.or_eq_true, beq_iff_eq] at space
  rcases space with ((rfl | rfl) | rfl) | rfl <;> exact absurd h (by decide)

theorem skipSpaces_name (plain : IsPlainName name) : skipSpaces (name ++ rest) = name ++ rest := by
  obtain ⟨c, cs, rfl, start⟩ := plain.exists_cons
  simp [skipSpaces, not_isSpace_of_isNameStart start]

def attributeText (name value rest : List Char) : List Char :=
  name ++ '=' :: '"' :: (value.flatMap escapeChar ++ '"' :: rest)

theorem attribute?_attributeText {value : List Char} (rest : List Char) (plain : IsPlainName name)
    (legal : ∀ c ∈ value, isChar c = true) : attribute? (attributeText name value rest) =
      some ((plainName name, value.flatMap escapeChar), rest) := by
  have read : qname? (attributeText name value rest) = some (plainName name,
      '=' :: '"' :: (value.flatMap escapeChar ++ '"' :: rest)) := qname?_append plain rfl
  have quoted := quoted?_escape rest legal
  simp only [attribute?, read, Option.bind_eq_bind, Option.bind_some]
  simp [skipSpaces, isSpace, strip?, quoted]

def tagEnd (empty : Bool) : List Char := if empty then ['/', '>'] else ['>']

theorem tagRest?_tagEnd (empty : Bool) (rest : List Char) :
    tagRest? (tagEnd empty ++ rest) = some (([], empty), rest) := by
  cases empty <;> (rw [tagRest?]; simp [tagEnd, skipSpaces, isSpace])

theorem tagRest?_attributeText {value : List Char} {as : List (QName × String)} {empty : Bool}
    {after : List Char} (plain : IsPlainName name) (legal : ∀ c ∈ value, isChar c = true)
    (later : tagRest? rest = some ((as, empty), after)) :
    tagRest? (' ' :: attributeText name value rest) =
      some (((plainName name, String.ofList (spacedList value)) :: as, empty), after) := by
  have skipped : skipSpaces (' ' :: attributeText name value rest) =
      attributeText name value rest := skipSpaces_name plain
  have read := attribute?_attributeText rest plain legal
  obtain ⟨c, cs, split_name, start⟩ := plain.exists_cons
  have first : attributeText name value rest = c :: (attributeText cs value rest) := by
    rw [split_name]
    rfl
  rw [tagRest?]
  split
  · rename_i found
    rw [skipped, first] at found
    exact absurd ((List.cons.inj found).1 ▸ start) (by decide)
  · rename_i found
    rw [skipped, first] at found
    exact absurd ((List.cons.inj found).1 ▸ start) (by decide)
  · rw [if_neg (by simp [isSpace])]
    split
    · rename_i unread
      rw [skipped, read] at unread
      cases unread
    · rename_i found
      rw [skipped, read] at found
      cases found
      simp [expand?_escape, later]

def attributesText : List Attribute → List Char → List Char
  | [], rest => rest
  | a :: as, rest => ' ' :: attributeText a.name.toList a.value.toList (attributesText as rest)

structure IsPlain (a : Attribute) : Prop where
  space : a.space = none
  name : IsPlainName a.name.toList
  value : IsKeptText a.value

instance : DecidablePred IsPlain := fun a =>
  decidable_of_iff (a.space = none ∧ IsPlainName a.name.toList ∧ IsKeptText a.value)
    ⟨fun ⟨space, named, kept⟩ => ⟨space, named, kept⟩,
      fun ⟨space, named, kept⟩ => ⟨space, named, kept⟩⟩

theorem isPlain_plain {name value : String} (named : IsPlainName name.toList)
    (kept : IsKeptText value) : IsPlain (.plain name value) := ⟨rfl, named, kept⟩

def readAttribute (a : Attribute) : QName × String := (⟨"", a.name⟩, a.value)

def Attribute.spaced (a : Attribute) : Attribute := { a with value := Xml.spaced a.value }

theorem Attribute.spaced_eq_self {a : Attribute} (plain : IsPlain a) : a.spaced = a := by
  rw [Attribute.spaced, Xml.spaced_eq_self plain.value]

theorem isChar_of_isPlain_spaced {a : Attribute} (plain : IsPlain a.spaced) :
    ∀ c ∈ a.value.toList, isChar c = true := by
  have kept := plain.value
  simp only [Attribute.spaced, Xml.spaced, IsKeptText, String.toList_ofList] at kept
  exact isChar_of_spacedList fun c hc => (kept c hc).1

theorem tagRest?_attributesText {attributes : List Attribute}
    (plain : ∀ a ∈ attributes, IsPlain a.spaced) (empty : Bool) (rest : List Char) :
    tagRest? (attributesText attributes (tagEnd empty ++ rest)) =
      some ((attributes.map fun a => readAttribute a.spaced, empty), rest) := by
  induction attributes with
  | nil => exact tagRest?_tagEnd empty rest
  | cons a attributes ih =>
    obtain ⟨first, later⟩ := List.forall_mem_cons.1 plain
    have named : IsPlainName a.name.toList := first.name
    rw [attributesText, tagRest?_attributeText named (isChar_of_isPlain_spaced first) (ih later)]
    simp [plainName, readAttribute, Attribute.spaced, Xml.spaced]

theorem startTag?_eq {attributes : List Attribute} (named : IsPlainName name)
    (plain : ∀ a ∈ attributes, IsPlain a.spaced) (empty : Bool) (rest : List Char) :
    startTag? (name ++ attributesText attributes (tagEnd empty ++ rest)) =
      some (.opened (plainName name) (attributes.map fun a => readAttribute a.spaced) empty,
        rest) := by
  have stops : (attributesText attributes (tagEnd empty ++ rest)).head?.all fun c =>
      !isNameChar c := by
    cases attributes with
    | nil => cases empty <;> rfl
    | cons => rfl
  simp [startTag?, qname?_append named stops, tagRest?_attributesText plain]

theorem endTag?_eq (named : IsPlainName name) (rest : List Char) :
    endTag? (name ++ '>' :: rest) = some (.closed (plainName name), rest) := by
  have read : qname? (name ++ '>' :: rest) = some (plainName name, '>' :: rest) :=
    qname?_append named rfl
  simp [endTag?, read, skipSpaces, isSpace, strip?]

end Tags

section Items

theorem item?_start {name rest : List Char} {attributes : List Attribute}
    (named : IsPlainName name) (plain : ∀ a ∈ attributes, IsPlain a.spaced) (empty : Bool) :
    item? ('<' :: (name ++ attributesText attributes (tagEnd empty ++ rest))) =
      some (some (.opened (plainName name) (attributes.map fun a => readAttribute a.spaced) empty),
        rest) := by
  have read := startTag?_eq named plain empty rest
  obtain ⟨c, cs, rfl, start⟩ := named.exists_cons
  rw [List.cons_append] at read ⊢
  rw [item?, read]
  · rfl
  all_goals
    intro _ same
    exact absurd ((List.cons.inj same).1 ▸ start) (by decide)

theorem item?_end {name : List Char} (named : IsPlainName name) (rest : List Char) :
    item? ('<' :: '/' :: (name ++ '>' :: rest)) = some (some (.closed (plainName name)), rest) := by
  rw [item?, endTag?_eq named rest]
  rfl

theorem strip?_eq_none {m c : Char} (ms cs : List Char) (h : m ≠ c) :
    strip? (m :: ms) (c :: cs) = none := by
  simp [strip?, h]

theorem cutAt?_eq_none {m : Char} {cs : List Char} (ms : List Char) (h : m ∉ cs) :
    cutAt? (m :: ms) cs = none := by
  induction cs with
  | nil => rfl
  | cons c cs ih =>
    simp only [List.mem_cons, not_or] at h
    simp [cutAt?, strip?_eq_none ms cs h.1, ih h.2]

theorem isSome_expandFrom {cs : List Char} (h : ∀ c ∈ cs, c = '\n' ∨ c = ' ') :
    (expandFrom 0 cs).isSome = true := by
  induction cs with
  | nil => rfl
  | cons c cs ih =>
    obtain ⟨first, later⟩ := List.forall_mem_cons.1 h
    obtain ⟨expanded, read⟩ := Option.isSome_iff_exists.1 (ih later)
    rcases first with rfl | rfl <;> simp [expandFrom, read]

theorem characterData?_blank {blank : List Char} (rest : List Char)
    (h : ∀ c ∈ blank, c = '\n' ∨ c = ' ') :
    characterData? (blank ++ '<' :: rest) = some (.text true, '<' :: rest) := by
  have inside : ∀ c ∈ blank, (c != '<') = true := by
    intro c hc
    rcases h c hc with rfl | rfl <;> rfl
  have content : (blank ++ '<' :: rest).takeWhile (· != '<') = blank := by
    simp [List.takeWhile_append_of_pos inside]
  have after : (blank ++ '<' :: rest).dropWhile (· != '<') = '<' :: rest := by
    simp [List.dropWhile_append_of_pos inside]
  have good : blank.all isChar = true := by
    refine List.all_eq_true.2 fun c hc => ?_
    rcases h c hc with rfl | rfl <;> rfl
  have spaces : blank.all isSpace = true := by
    refine List.all_eq_true.2 fun c hc => ?_
    rcases h c hc with rfl | rfl <;> rfl
  have unclosed : ']' ∉ blank := by
    intro hc
    rcases h _ hc with same | same <;> cases same
  have uncut : cutAt? "]]>".toList blank = none := cutAt?_eq_none [']', '>'] unclosed
  have expanded : (expand? blank).isSome = true := isSome_expandFrom h
  simp only [characterData?, content, after, good, spaces, uncut, expanded]
  rfl

theorem item?_newLine (level : Nat) (rest : List Char) :
    item? ((newLine level).toList ++ '<' :: rest) = some (some (.text true), '<' :: rest) := by
  have blank : ∀ c ∈ '\n' :: List.replicate (2 * level) ' ', c = '\n' ∨ c = ' ' := by
    simp +contextual
  have read := characterData?_blank rest blank
  rw [newLine, String.toList_ofList, List.cons_append] at *
  rw [item?, read]
  · rfl
  all_goals
    intro _ same
    exact absurd (List.cons.inj same).1 (by decide)

end Items

end RelationAtlas.Xml
