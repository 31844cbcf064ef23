import RelationAtlas.Proofs.Outcome
import RelationAtlas.Proofs.Xml.Markup
import RelationAtlas.Xml.Document

/-! # Reading written documents

A written element reads as the events of its tags and of the line breaks between them, and these
events are put together to the element again. So a document with plain names and values is read
back as it was written. -/

namespace RelationAtlas.Xml

/-- The element can be written and read back: names and values are plain, no two attributes have
one name, and an element that is one tag holds no others. -/
inductive Writable (single : String → Bool) : Element → Prop
  | intro {name : String} {attributes : List Attribute} {children : List Element}
      (named : IsPlainName name.toList) (plain : ∀ a ∈ attributes, IsPlain a)
      (distinct : (attributes.map Attribute.name).Nodup)
      (closed : single name = true → children = []) (inside : ∀ c ∈ children, Writable single c) :
      Writable single ⟨name, attributes, children⟩

theorem writable_iff {single : String → Bool} {name : String} {attributes : List Attribute}
    {children : List Element} : Writable single ⟨name, attributes, children⟩ ↔
      IsPlainName name.toList ∧ (∀ a ∈ attributes, IsPlain a) ∧
        (attributes.map Attribute.name).Nodup ∧ (single name = true → children = []) ∧
          ∀ c ∈ children, Writable single c := by
  constructor
  · rintro ⟨named, plain, distinct, closed, inside⟩
    exact ⟨named, plain, distinct, closed, inside⟩
  · rintro ⟨named, plain, distinct, closed, inside⟩
    exact ⟨named, plain, distinct, closed, inside⟩

mutual

def decideWritable (single : String → Bool) : (e : Element) → Decidable (Writable single e)
  | ⟨_, attributes, children⟩ =>
    have : Decidable (∀ a ∈ attributes, IsPlain a) := List.decidableBAll _ attributes
    have := decideAllWritable single children
    decidable_of_iff _ writable_iff.symm

def decideAllWritable (single : String → Bool) :
    (es : List Element) → Decidable (∀ e ∈ es, Writable single e)
  | [] => .isTrue (List.forall_mem_nil _)
  | e :: es =>
    have := decideWritable single e
    have := decideAllWritable single es
    decidable_of_iff _ List.forall_mem_cons.symm

end

instance (single : String → Bool) : DecidablePred (Writable single) := decideWritable single

section Spacing

mutual

def Element.spaced : Element → Element
  | ⟨name, attributes, children⟩ => ⟨name, attributes.map Attribute.spaced, spacedAll children⟩

def spacedAll : List Element → List Element
  | [] => []
  | e :: es => e.spaced :: spacedAll es

end

@[simp]
theorem spacedAll_eq_map (es : List Element) : spacedAll es = es.map Element.spaced := by
  induction es with
  | nil => rfl
  | cons e es ih => rw [spacedAll, ih, List.map_cons]

@[simp]
theorem Element.spaced_mk (name : String) (attributes : List Attribute) (children : List Element) :
    Element.spaced ⟨name, attributes, children⟩ =
      ⟨name, attributes.map Attribute.spaced, children.map Element.spaced⟩ := by
  rw [Element.spaced, spacedAll_eq_map]

theorem Writable.spaced_eq_self {single : String → Bool} {e : Element} (w : Writable single e) :
    e.spaced = e := by
  induction w with
  | intro named plain distinct closed inside ih =>
    rw [Element.spaced_mk, List.map_congr_left fun a ha => Attribute.spaced_eq_self (plain a ha),
      List.map_congr_left ih, List.map_id', List.map_id']

end Spacing

section Events

mutual

def eventsOf (single : String → Bool) : Element → List Event
  | ⟨name, attributes, children⟩ =>
    .text true :: .opened ⟨"", name⟩ (attributes.map readAttribute) (single name) ::
      if single name then []
      else eventsOfAll single children ++ [.text true, .closed ⟨"", name⟩]

def eventsOfAll (single : String → Bool) : List Element → List Event
  | [] => []
  | e :: es => eventsOf single e ++ eventsOfAll single es

end

theorem toList_writeAttributes (attributes : List Attribute) (rest : List Char) :
    (writeAttributes attributes).toList ++ rest = attributesText attributes rest := by
  induction attributes with
  | nil => simp [writeAttributes, attributesText]
  | cons a attributes ih =>
    rw [attributesText, ← ih]
    simp [writeAttributes, writeAttribute, escape, attributeText]

theorem events?_of_item? {cs rest : List Char} {event : Option Event} (some_left : cs ≠ [])
    (h : item? cs = some (event, rest)) :
    events? cs = (events? rest).map (event.toList ++ ·) := by
  cases cs with
  | nil => exact absurd rfl some_left
  | cons c cs =>
    rw [events?]
    split
    · rename_i unread
      cases unread.symm.trans h
    · rename_i read
      cases read.symm.trans h
      rfl

variable {single : String → Bool} {name : String} {attributes : List Attribute}

theorem events?_start (level : Nat) (named : IsPlainName name.toList)
    (plain : ∀ a ∈ attributes, IsPlain a.spaced) (empty : Bool) (rest : List Char) :
    events? ((newLine level).toList ++
        '<' :: (name.toList ++ attributesText attributes (tagEnd empty ++ rest))) =
      (events? rest).map ([.text true,
        .opened ⟨"", name⟩ (attributes.map fun a => readAttribute a.spaced) empty] ++ ·) := by
  rw [events?_of_item? (by simp [newLine]) (item?_newLine _ _),
    events?_of_item? (by simp) (item?_start named plain empty)]
  simp [plainName, Option.map_map, Function.comp_def]

theorem events?_end (level : Nat) (named : IsPlainName name.toList) (rest : List Char) :
    events? ((newLine level).toList ++ '<' :: '/' :: (name.toList ++ '>' :: rest)) =
      (events? rest).map ([.text true, .closed ⟨"", name⟩] ++ ·) := by
  rw [events?_of_item? (by simp [newLine]) (item?_newLine _ _),
    events?_of_item? (by simp) (item?_end named rest)]
  simp [plainName, Option.map_map, Function.comp_def]

theorem toList_writeElement (level : Nat) (children : List Element) (rest : List Char) :
    (writeElement single level ⟨name, attributes, children⟩).toList ++ rest =
      (newLine level).toList ++ '<' :: (name.toList ++ attributesText attributes
        (tagEnd (single name) ++ if single name then rest else
          (writeElements single (level + 1) children).toList ++
            ((newLine level).toList ++ '<' :: '/' :: (name.toList ++ '>' :: rest)))) := by
  cases one : single name <;>
    simp [writeElement, one, tagEnd, ← toList_writeAttributes]

theorem events?_writeElements {children : List Element}
    (each : ∀ c ∈ children, ∀ level rest, events? ((writeElement single level c).toList ++ rest) =
      (events? rest).map (eventsOf single c.spaced ++ ·)) (level : Nat) (rest : List Char) :
    events? ((writeElements single level children).toList ++ rest) =
      (events? rest).map (eventsOfAll single (children.map Element.spaced) ++ ·) := by
  induction children with
  | nil => simp [writeElements, eventsOfAll]
  | cons c children ih =>
    obtain ⟨first, later⟩ := List.forall_mem_cons.1 each
    rw [writeElements, String.toList_append, List.append_assoc, first, ih later]
    simp [eventsOfAll, Option.map_map, Function.comp_def]

theorem events?_writeElement {e : Element} (w : Writable single e.spaced) (level : Nat)
    (rest : List Char) : events? ((writeElement single level e).toList ++ rest) =
      (events? rest).map (eventsOf single e.spaced ++ ·) := by
  generalize read : e.spaced = e' at w ⊢
  induction w generalizing e level rest with
  | @intro name attributes children named plain distinct closed inside ih =>
    obtain ⟨name, attributes, children⟩ := e
    rw [Element.spaced_mk] at read
    cases read
    have plain := List.forall_mem_map.1 plain
    have each : ∀ c ∈ children, ∀ level rest, events? ((writeElement single level c).toList ++
        rest) = (events? rest).map (eventsOf single c.spaced ++ ·) :=
      fun c hc level rest => ih c.spaced (List.mem_map_of_mem hc) level rest rfl
    rw [toList_writeElement, events?_start level named plain, eventsOf]
    cases one : single name with
    | true => simp [Function.comp_def]
    | false =>
      simp only [Bool.false_eq_true, if_false]
      rw [events?_writeElements each, events?_end level named]
      simp [Option.map_map, Function.comp_def]

end Events

section Assembly

open Assembly

variable {single : String → Bool} {name : String} {attributes : List Attribute}

theorem areDistinct_of_nodup (distinct : (attributes.map Attribute.name).Nodup) :
    areDistinct attributes = true := by
  induction attributes with
  | nil => rfl
  | cons a attributes ih =>
    rw [List.map_cons, List.nodup_cons] at distinct
    simp only [areDistinct, ih distinct.2, Bool.and_true, Bool.not_eq_true', List.any_eq_false]
    intro b hb same
    simp only [Bool.and_eq_true, beq_iff_eq] at same
    exact distinct.1 (same.2 ▸ List.mem_map_of_mem hb)

theorem frame?_readAttribute (outer : Scope) (plain : ∀ a ∈ attributes, IsPlain a)
    (distinct : (attributes.map Attribute.name).Nodup) :
    frame? outer ⟨"", name⟩ (attributes.map readAttribute) =
      some ⟨⟨"", name⟩, attributes, outer, []⟩ := by
  have declares : ∀ a ∈ attributes, isDeclaration (readAttribute a).1 = false := by
    intro a ha
    have := (plain a ha).name.declaresNothing
    simpa [isDeclaration, readAttribute, ← String.toList_inj] using this
  have none_declared : (attributes.map readAttribute).filter (fun a => isDeclaration a.1) = [] := by
    simpa [List.filter_eq_nil_iff] using declares
  have all_kept : (attributes.map readAttribute).filter (fun a => !isDeclaration a.1) =
      attributes.map readAttribute := by
    simpa [List.filter_eq_self] using declares
  have resolved : attributes.mapM ((fun a => resolveAttribute? outer a.1 a.2) ∘ readAttribute) =
      some attributes := by
    refine mapM_eq_some_iff.2 (List.forall₂_same.2 fun a ha => ?_)
    have space := (plain a ha).space
    obtain ⟨_, _, _⟩ := a
    simp_all [resolveAttribute?, attributeSpace?, readAttribute]
  simp only [frame?, declarations?, none_declared, all_kept]
  simp [resolved, areDistinct_of_nodup distinct]

theorem step?_blank (a : Assembly) : a.step? (.text true) = some a := rfl

theorem step?_opened (name : String) {frames : List Frame} {root : Option Element}
    (free : frames = [] → root = none)
    (plain : ∀ a ∈ attributes, IsPlain a) (distinct : (attributes.map Attribute.name).Nodup) :
    ∃ f : Frame, f.name = ⟨"", name⟩ ∧ f.children = [] ∧ f.attributes = attributes ∧
      ∀ empty, step? ⟨frames, root⟩ (.opened ⟨"", name⟩ (attributes.map readAttribute) empty) =
        some (if empty then place frames f.element else ⟨f :: frames, none⟩) := by
  have shut : (frames.isEmpty && root.isSome) = false := by
    cases frames with
    | nil => simp [free rfl]
    | cons => rfl
  have framed : frame? ((frames.head?.map Frame.scope).getD []) ⟨"", name⟩ _ = _ :=
    frame?_readAttribute _ plain distinct
  refine ⟨⟨⟨"", name⟩, attributes, (frames.head?.map Frame.scope).getD [], []⟩, rfl, rfl, rfl,
    fun empty => ?_⟩
  simp only [step?, shut, framed]
  cases empty <;> rfl

theorem step?_closed (f : Frame) (frames : List Frame) (root : Option Element) :
    step? ⟨f :: frames, root⟩ (.closed f.name) = some (place frames f.element) := by
  simp [step?]

theorem foldlM_eventsOfAll {children : List Element} (each : ∀ c ∈ children,
      ∀ frames root rest, (frames = [] → root = none) →
        (eventsOf single c ++ rest).foldlM step? ⟨frames, root⟩ =
          rest.foldlM step? (place frames c)) (f : Frame) (frames : List Frame)
    (rest : List Event) : (eventsOfAll single children ++ rest).foldlM step? ⟨f :: frames, none⟩ =
      rest.foldlM step? ⟨{ f with children := children.reverse ++ f.children } :: frames, none⟩ := by
  induction children generalizing f with
  | nil => rfl
  | cons c children ih =>
    obtain ⟨first, later⟩ := List.forall_mem_cons.1 each
    rw [eventsOfAll, List.append_assoc, first _ _ _ (by simp), place, ih later]
    simp

theorem foldlM_eventsOf {e : Element} (w : Writable single e) (frames : List Frame)
    (root : Option Element) (rest : List Event) (free : frames = [] → root = none) :
    (eventsOf single e ++ rest).foldlM step? ⟨frames, root⟩ = rest.foldlM step? (place frames e) := by
  induction w generalizing frames root rest with
  | @intro name attributes children named plain distinct closed inside ih =>
    obtain ⟨f, f_name, f_children, f_attributes, opened⟩ := step?_opened name free plain distinct
    rw [eventsOf]
    cases one : single name with
    | true =>
      obtain rfl := closed one
      have element : f.element = ⟨name, attributes, []⟩ := by
        simp [Frame.element, f_name, f_children, f_attributes]
      simp [step?_blank, opened, element]
    | false =>
      have element : Frame.element { f with children := children.reverse ++ f.children } =
          ⟨name, attributes, children⟩ := by
        simp [Frame.element, f_name, f_children, f_attributes]
      have closing : step? ⟨{ f with children := children.reverse ++ f.children } :: frames, none⟩
          (.closed ⟨"", name⟩) = some (place frames ⟨name, attributes, children⟩) := by
        rw [← element, ← f_name]
        exact step?_closed _ _ _
      simp only [Bool.false_eq_true, if_false, List.cons_append, List.append_assoc, List.nil_append,
        List.foldlM_cons, step?_blank, opened, Option.bind_eq_bind, Option.bind_some,
        foldlM_eventsOfAll ih, closing]

end Assembly

def declaration : String := "<?xml version=\"1.0\" encoding=\"utf-8\"?>"

theorem body?_declaration (rest : List Char) : body? (declaration.toList ++ rest) = some rest := rfl

theorem toList_write (single : String → Bool) (e : Element) :
    (write single e).toList = declaration.toList ++ (writeElement single 0 e).toList :=
  String.toList_append

/-- What is written is read with the white space in its values as blanks. -/
theorem parse?_write_spaced {single : String → Bool} {e : Element} (w : Writable single e.spaced) :
    parse? (write single e) = some e.spaced := by
  have body : body? (write single e).toList = some (writeElement single 0 e).toList := by
    rw [toList_write]
    exact body?_declaration _
  have read : events? (writeElement single 0 e).toList = some (eventsOf single e.spaced) := by
    have := events?_writeElement w 0 []
    simpa [events?] using this
  have assembled := foldlM_eventsOf w [] none [] fun _ => rfl
  rw [List.append_nil] at assembled
  simp only [parse?, body, read, Option.bind_eq_bind, Option.bind_some]
  rw [Assembly.start, assembled]
  rfl

theorem parse?_write {single : String → Bool} {e : Element} (w : Writable single e) :
    parse? (write single e) = some e := by
  have same := w.spaced_eq_self
  have read : parse? (write single e) = some e.spaced := parse?_write_spaced (same.symm ▸ w)
  rwa [same] at read

end RelationAtlas.Xml
