import RelationAtlas.Proofs.Xml.RoundTrip

/-! # White space in what is written

Writing an element with blanks for the white space in its values gives the same text only if its
values hold no other white space: the line breaks between tags are the same, and those in values
are gone. -/

namespace RelationAtlas.Xml

def isBreak (c : Char) : Bool := c == '\t' || c == '\n' || c == '\r'

def breaks (cs : List Char) : Nat := cs.countP isBreak

section Values

theorem breaks_append (cs ds : List Char) : breaks (cs ++ ds) = breaks cs + breaks ds :=
  List.countP_append

theorem breaks_cons (c : Char) (cs : List Char) : breaks (c :: cs) = breaks [c] + breaks cs :=
  breaks_append [c] cs

theorem breaks_escapeChar (c : Char) : breaks (escapeChar c) = breaks [c] := by
  unfold escapeChar
  split_ifs with lt gt amp apos quot
  · subst lt; decide
  · subst gt; decide
  · subst amp; decide
  · subst apos; decide
  · subst quot; decide
  · rfl

theorem breaks_flatMap_escapeChar (cs : List Char) :
    breaks (cs.flatMap escapeChar) = breaks cs := by
  induction cs with
  | nil => rfl
  | cons c cs ih => rw [List.flatMap_cons, breaks_append, breaks_escapeChar, ih, breaks_cons c cs]

theorem isBreak_spacedChar (c : Char) : isBreak (spacedChar c) = false := by
  unfold spacedChar
  split
  · rfl
  · simp_all [isBreak]

theorem breaks_spacedList (cs : List Char) : breaks (spacedList cs) = 0 := by
  fun_induction spacedList cs with
  | case1 => rfl
  | case2 rest ih => rw [breaks_cons, ih]; rfl
  | case3 c rest _ ih =>
    rw [breaks_cons, ih]
    simp [breaks, isBreak_spacedChar]

theorem spacedList_eq_self_of_breaks {cs : List Char} (none_left : breaks cs = 0) :
    spacedList cs = cs := by
  fun_induction spacedList cs with
  | case1 => rfl
  | case2 rest => simp [breaks, isBreak] at none_left
  | case3 c rest _ ih =>
    rw [breaks_cons] at none_left
    have plain : isBreak c = false := by
      have first : breaks [c] = 0 := by omega
      simpa [breaks] using first
    have same : spacedChar c = c := by
      simp only [isBreak, Bool.or_eq_false_iff, beq_eq_false_iff_ne] at plain
      simp [spacedChar, plain]
    rw [same, ih (by omega)]

theorem spaced_eq_self_iff {text : String} :
    spaced text = text ↔ ∀ c ∈ text.toList, isBreak c = false := by
  have none_left : breaks text.toList = 0 ↔ ∀ c ∈ text.toList, isBreak c = false := by
    simp [breaks, List.countP_eq_zero]
  rw [← none_left]
  constructor
  · intro same
    rw [← same, spaced, String.toList_ofList, breaks_spacedList]
  · intro plain
    rw [spaced, spacedList_eq_self_of_breaks plain, String.ofList_toList]

end Values

section Elements

def valuesText (attributes : List Attribute) : List Char :=
  attributes.flatMap fun a => a.value.toList

mutual

def Element.breaks : Element → Nat
  | ⟨_, attributes, children⟩ => breaks (valuesText attributes) + breaksAll children

def breaksAll : List Element → Nat
  | [] => 0
  | e :: es => e.breaks + breaksAll es

end

theorem breaks_attributeText (name value rest : List Char) :
    breaks (attributeText name value rest) = breaks name + breaks value + breaks rest := by
  rw [attributeText, breaks_append, breaks_cons, breaks_cons '"', breaks_append, breaks_cons '"',
    breaks_flatMap_escapeChar]
  simp [breaks, isBreak]
  omega

theorem breaks_attributesText (attributes : List Attribute) (rest : List Char) :
    breaks (attributesText attributes rest) =
      breaks (attributesText (attributes.map Attribute.spaced) rest) +
        breaks (valuesText attributes) := by
  induction attributes with
  | nil => rfl
  | cons a attributes ih =>
    have read : breaks a.spaced.value.toList = 0 := by
      rw [Attribute.spaced, spaced, String.toList_ofList, breaks_spacedList]
    have values : breaks (valuesText (a :: attributes)) =
        breaks a.value.toList + breaks (valuesText attributes) := breaks_append _ _
    have named : a.spaced.name = a.name := rfl
    rw [List.map_cons, attributesText, attributesText, breaks_cons,
      breaks_cons ' ' (attributeText _ _ (attributesText (List.map _ _) _)), breaks_attributeText,
      breaks_attributeText, ih, read, values, named]
    omega

theorem breaks_attributesText_append (attributes : List Attribute) (rest : List Char) :
    breaks (attributesText attributes rest) =
      breaks (attributesText attributes []) + breaks rest := by
  induction attributes with
  | nil => simp [attributesText, breaks]
  | cons a attributes ih =>
    rw [attributesText, attributesText, breaks_cons,
      breaks_cons ' ' (attributeText _ _ (attributesText _ [])), breaks_attributeText,
      breaks_attributeText, ih]
    omega

variable {single : String → Bool}

theorem breaks_writeElements {children : List Element}
    (each : ∀ c ∈ children, ∀ level, breaks (writeElement single level c).toList =
      breaks (writeElement single level c.spaced).toList + c.breaks) (level : Nat) :
    breaks (writeElements single level children).toList =
      breaks (writeElements single level (children.map Element.spaced)).toList +
        breaksAll children := by
  induction children with
  | nil => rfl
  | cons c children ih =>
    obtain ⟨first, later⟩ := List.forall_mem_cons.1 each
    rw [List.map_cons, writeElements, writeElements, String.toList_append, String.toList_append,
      breaks_append, breaks_append, first, ih later, breaksAll]
    omega

theorem exists_breaks_writeElement (single : String → Bool) (level : Nat) (name : String) :
    ∃ n, ∀ attributes children,
      breaks (writeElement single level ⟨name, attributes, children⟩).toList =
        n + breaks (attributesText attributes []) +
          if single name then 0 else breaks (writeElements single (level + 1) children).toList := by
  have shape := fun attributes children =>
    @toList_writeElement single name attributes level children []
  simp only [List.append_nil] at shape
  cases one : single name with
  | true =>
    refine ⟨breaks (newLine level).toList + (breaks name.toList + breaks (tagEnd true)), ?_⟩
    intro attributes children
    rw [shape, breaks_append, breaks_cons, breaks_append, breaks_attributesText_append, one]
    simp [breaks, isBreak]
    omega
  | false =>
    refine ⟨breaks (newLine level).toList + (breaks name.toList + breaks (tagEnd false)) +
      (breaks (newLine level).toList + breaks name.toList), ?_⟩
    intro attributes children
    rw [shape, breaks_append, breaks_cons, breaks_append, breaks_attributesText_append, one]
    simp [breaks, isBreak]
    omega

theorem breaks_writeElement {e : Element} (w : Writable single e.spaced) (level : Nat) :
    breaks (writeElement single level e).toList =
      breaks (writeElement single level e.spaced).toList + e.breaks := by
  generalize read : e.spaced = e' at w ⊢
  induction w generalizing e level with
  | @intro name attributes children named plain distinct closed inside ih =>
    obtain ⟨name, attributes, children⟩ := e
    rw [Element.spaced_mk] at read
    cases read
    have each : ∀ c ∈ children, ∀ level, breaks (writeElement single level c).toList =
        breaks (writeElement single level c.spaced).toList + c.breaks :=
      fun c hc level => ih c.spaced (List.mem_map_of_mem hc) level rfl
    obtain ⟨n, count⟩ := exists_breaks_writeElement single level name
    have values := breaks_attributesText attributes []
    rw [count, count, Element.breaks]
    cases one : single name with
    | true =>
      obtain rfl : children = [] := by simpa using closed one
      simp only [if_true, breaksAll]
      omega
    | false =>
      have later := breaks_writeElements each (level + 1)
      simp only [Bool.false_eq_true, if_false]
      omega

mutual

theorem Element.spaced_eq_self_of_breaks : ∀ {e : Element}, e.breaks = 0 → e.spaced = e
  | ⟨name, attributes, children⟩, none_left => by
    rw [Element.breaks, Nat.add_eq_zero_iff, breaks, List.countP_eq_zero] at none_left
    obtain ⟨values, inside⟩ := none_left
    have same : ∀ a ∈ attributes, a.spaced = a := by
      intro a ha
      have plain : spaced a.value = a.value := spaced_eq_self_iff.2 fun c hc =>
        Bool.eq_false_iff.2 (values c (List.mem_flatMap_of_mem ha hc))
      rw [Attribute.spaced, plain]
    rw [Element.spaced_mk, List.map_congr_left same, List.map_id',
      spacedAll_eq_self_of_breaks inside]

theorem spacedAll_eq_self_of_breaks :
    ∀ {es : List Element}, breaksAll es = 0 → es.map Element.spaced = es
  | [], _ => rfl
  | e :: es, none_left => by
    rw [breaksAll, Nat.add_eq_zero_iff] at none_left
    rw [List.map_cons, Element.spaced_eq_self_of_breaks none_left.1,
      spacedAll_eq_self_of_breaks none_left.2]

end

theorem write_spaced_eq_iff {e : Element} (w : Writable single e.spaced) :
    write single e.spaced = write single e ↔ e.spaced = e := by
  constructor
  · intro same
    have counted := breaks_writeElement w 0
    have texts := congrArg String.toList same
    rw [toList_write, toList_write, List.append_cancel_left_eq] at texts
    rw [texts] at counted
    exact Element.spaced_eq_self_of_breaks (by omega)
  · intro same
    rw [same]

end Elements

end RelationAtlas.Xml
