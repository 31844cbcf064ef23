import RelationAtlas.Proofs.Outcome
import RelationAtlas.Proofs.Xml.Markup
import RelationAtlas.Xml.Document

/-! # Characters that are read

The values of a document that is read hold only characters that a document may hold. Those that a
reference stands for are checked, and putting elements together changes no value. -/

namespace RelationAtlas.Xml

def IsLegalText (text : String) : Prop := ∀ c ∈ text.toList, isChar c = true

inductive IsLegal : Element → Prop
  | intro {name : String} {attributes : List Attribute} {children : List Element}
      (values : ∀ a ∈ attributes, IsLegalText a.value) (inside : ∀ c ∈ children, IsLegal c) :
      IsLegal ⟨name, attributes, children⟩

section Markup

variable {cs rest value : List Char}

theorem isChar_of_numbered? {n : Nat} {c : Char} (read : numbered? n = some c) :
    isChar c = true := by
  simp only [numbered?, Option.ite_none_left_eq_some, Option.ite_none_right_eq_some,
    Option.some.injEq] at read
  obtain ⟨-, legal, rfl⟩ := read
  exact legal

theorem isChar_of_referenced? {c : Char} (read : referenced? cs = some c) : isChar c = true := by
  unfold referenced? at read
  split at read
  · obtain ⟨n, -, read⟩ := Option.bind_eq_some_iff.1 read
    exact isChar_of_numbered? read
  · obtain ⟨n, -, read⟩ := Option.bind_eq_some_iff.1 read
    exact isChar_of_numbered? read
  · obtain ⟨before, after, listed, -⟩ := List.lookup_eq_some_iff.1 read
    have known : ∀ e ∈ entities, isChar e.2 = true := by decide
    exact known (cs, c) (by simp [listed])

theorem isChar_spacedChar {c : Char} (legal : isChar c = true) : isChar (spacedChar c) = true := by
  unfold spacedChar
  split
  · rfl
  · exact legal

theorem isKept_spacedChar {c : Char} (legal : isChar c = true) : IsKept (spacedChar c) := by
  refine ⟨isChar_spacedChar legal, ?_⟩
  unfold spacedChar
  split
  case isTrue => decide
  case isFalse plain => simpa [not_or] using plain

theorem isKeptText_spaced {text : String} (legal : IsLegalText text) :
    IsKeptText (spaced text) := by
  intro c hc
  rw [spaced, String.toList_ofList] at hc
  rcases mem_spacedList hc with rfl | ⟨d, inside, rfl⟩
  · decide
  · exact isKept_spacedChar (legal d inside)

theorem isChar_of_expandFrom {skip : Nat} (legal : ∀ c ∈ cs, isChar c = true)
    (read : expandFrom skip cs = some value) : ∀ c ∈ value, isChar c = true := by
  fun_induction expandFrom skip cs generalizing value with
  | case1 =>
    cases read
    exact List.forall_mem_nil _
  | case2 _ _ _ ih => exact ih (List.forall_mem_cons.1 legal).2 read
  | case3 rest ih =>
    simp only [Option.bind_eq_bind, Option.bind_eq_some_iff, Option.pure_def, Option.some.injEq]
      at read
    obtain ⟨⟨body, _⟩, -, c, known, later, read, rfl⟩ := read
    exact List.forall_mem_cons.2 ⟨isChar_of_referenced? known,
      ih body (List.forall_mem_cons.1 legal).2 read⟩
  | case4 rest ih =>
    simp only [Option.bind_eq_bind, Option.bind_eq_some_iff, Option.pure_def, Option.some.injEq]
      at read
    obtain ⟨later, read, rfl⟩ := read
    exact List.forall_mem_cons.2 ⟨rfl, ih (List.forall_mem_cons.1 legal).2 read⟩
  | case5 c rest _ _ ih =>
    simp only [Option.bind_eq_bind, Option.bind_eq_some_iff, Option.pure_def, Option.some.injEq]
      at read
    obtain ⟨later, read, rfl⟩ := read
    obtain ⟨first, after⟩ := List.forall_mem_cons.1 legal
    exact List.forall_mem_cons.2 ⟨isChar_spacedChar first, ih after read⟩

theorem isChar_of_quoted? (read : quoted? cs = some (value, rest)) :
    ∀ c ∈ value, isChar c = true := by
  unfold quoted? at read
  split at read
  · cases read
  · split_ifs at read
    split at read
    · simp only [Option.ite_none_right_eq_some, Option.some.injEq, Prod.mk.injEq] at read
      obtain ⟨⟨-, legal⟩, rfl, -⟩ := read
      exact List.all_eq_true.1 legal
    · cases read

theorem isChar_of_attribute? {name : QName} (read : attribute? cs = some ((name, value), rest)) :
    ∀ c ∈ value, isChar c = true := by
  simp only [attribute?, Option.bind_eq_bind, Option.bind_eq_some_iff, Option.pure_def,
    Option.some.injEq, Prod.mk.injEq] at read
  obtain ⟨_, -, _, -, _, quoted, ⟨-, rfl⟩, -⟩ := read
  exact isChar_of_quoted? quoted

theorem isLegal_of_tagRest? {attributes : List (QName × String)} {empty : Bool}
    (read : tagRest? cs = some ((attributes, empty), rest)) :
    ∀ a ∈ attributes, IsLegalText a.2 := by
  fun_induction tagRest? cs generalizing attributes empty rest with
  | case1 =>
    cases read
    exact List.forall_mem_nil _
  | case2 =>
    cases read
    exact List.forall_mem_nil _
  | case3 => cases read
  | case4 => cases read
  | case5 cs _ name raw rest found value attributes empty after later expanded _ _ ih =>
    cases read
    have legal : IsLegalText (String.ofList value) := by
      rw [IsLegalText, String.toList_ofList]
      exact isChar_of_expandFrom (isChar_of_attribute? found) expanded
    exact List.forall_mem_cons.2 ⟨legal, ih later⟩
  | case6 => cases read

def Event.IsLegal : Event → Prop
  | .opened _ attributes _ => ∀ a ∈ attributes, IsLegalText a.2
  | .closed _ => True
  | .text _ => True

theorem isLegal_of_startTag? {event : Event} (read : startTag? cs = some (event, rest)) :
    event.IsLegal := by
  simp only [startTag?, Option.bind_eq_bind, Option.bind_eq_some_iff, Option.pure_def,
    Option.some.injEq, Prod.mk.injEq] at read
  obtain ⟨_, -, _, attributesRead, rfl, -⟩ := read
  exact isLegal_of_tagRest? attributesRead

theorem isLegal_of_endTag? {event : Event} (read : endTag? cs = some (event, rest)) :
    event.IsLegal := by
  simp only [endTag?, Option.bind_eq_bind, Option.bind_eq_some_iff, Option.pure_def,
    Option.some.injEq, Prod.mk.injEq] at read
  obtain ⟨_, -, _, -, rfl, -⟩ := read
  trivial

theorem isLegal_of_characterSection? {event : Event}
    (read : characterSection? cs = some (event, rest)) : event.IsLegal := by
  simp only [characterSection?, Option.bind_eq_bind, Option.bind_eq_some_iff, Option.pure_def,
    Option.ite_none_right_eq_some, Option.some.injEq, Prod.mk.injEq] at read
  obtain ⟨_, -, -, rfl, -⟩ := read
  trivial

theorem isLegal_of_characterData? {event : Event} (read : characterData? cs = some (event, rest)) :
    event.IsLegal := by
  simp only [characterData?, Option.ite_none_right_eq_some, Option.some.injEq,
    Prod.mk.injEq] at read
  obtain ⟨-, rfl, -⟩ := read
  trivial

theorem isLegal_of_item? {event : Event} (read : item? cs = some (some event, rest)) :
    event.IsLegal := by
  have passed : ∀ {x : Option (Event × List Char)} {put : Event × List Char → _},
      (∀ p, put p = (some p.1, p.2)) → x.map put = some (some event, rest) →
        x = some (event, rest) := by
    intro x put puts h
    obtain ⟨p, rfl, same⟩ := Option.map_eq_some_iff.1 h
    rw [puts, Prod.mk.injEq, Option.some.injEq] at same
    rw [← same.1, ← same.2]
  unfold item? at read
  split at read
  · simp at read
  · exact isLegal_of_characterSection? (passed (fun _ => rfl) read)
  · cases read
  · simp at read
  · exact isLegal_of_endTag? (passed (fun _ => rfl) read)
  · exact isLegal_of_startTag? (passed (fun _ => rfl) read)
  · exact isLegal_of_characterData? (passed (fun _ => rfl) read)

theorem isLegal_of_events? {events : List Event} (read : events? cs = some events) :
    ∀ e ∈ events, e.IsLegal := by
  fun_induction events? cs generalizing events with
  | case1 =>
    cases read
    exact List.forall_mem_nil _
  | case2 => cases read
  | case3 c cs event rest found ih =>
    obtain ⟨later, laterRead, rfl⟩ := Option.map_eq_some_iff.1 read
    refine List.forall_mem_append.2 ⟨fun e he => ?_, ih laterRead⟩
    cases Option.mem_toList.1 he
    exact isLegal_of_item? found

end Markup

section Assembly

structure Frame.IsLegal (f : Frame) : Prop where
  values : ∀ a ∈ f.attributes, IsLegalText a.value
  inside : ∀ c ∈ f.children, Xml.IsLegal c

structure Assembly.IsLegal (a : Assembly) : Prop where
  frames : ∀ f ∈ a.frames, f.IsLegal
  root : ∀ e ∈ a.root, Xml.IsLegal e

theorem Frame.IsLegal.element {f : Frame} (legal : f.IsLegal) : Xml.IsLegal f.element :=
  .intro legal.values fun c hc => legal.inside c (List.mem_reverse.1 hc)

theorem isLegal_of_frame? {outer : Scope} {name : QName} {attributes : List (QName × String)}
    {f : Frame} (legal : ∀ a ∈ attributes, IsLegalText a.2)
    (made : frame? outer name attributes = some f) : f.IsLegal := by
  simp only [frame?, Option.bind_eq_bind, Option.pure_def, Option.bind_none,
    Option.ite_none_left_eq_some, Option.bind_eq_some_iff, Option.some.injEq] at made
  obtain ⟨-, scope, -, resolved, resolve, -, -, rfl⟩ := made
  refine ⟨fun a ha => ?_, List.forall_mem_nil _⟩
  obtain ⟨given, listed, same⟩ := exists_of_mem_right (mapM_eq_some_iff.1 resolve) ha
  obtain ⟨space, -, rfl⟩ := Option.map_eq_some_iff.1 same
  exact legal given (List.mem_filter.1 listed).1

theorem isLegal_place {frames : List Frame} {e : Element} (legal : ∀ f ∈ frames, f.IsLegal)
    (placed : Xml.IsLegal e) : (Assembly.place frames e).IsLegal := by
  cases frames with
  | nil => exact ⟨List.forall_mem_nil _, by simpa [Assembly.place] using placed⟩
  | cons f frames =>
    obtain ⟨first, later⟩ := List.forall_mem_cons.1 legal
    have inner := List.forall_mem_cons.2 ⟨placed, first.inside⟩
    exact ⟨List.forall_mem_cons.2 ⟨⟨first.values, inner⟩, later⟩, by simp [Assembly.place]⟩

theorem isLegal_step? {a b : Assembly} {event : Event} (legal : a.IsLegal)
    (brought : event.IsLegal) (stepped : a.step? event = some b) : b.IsLegal := by
  cases event with
  | text blank =>
    rw [Assembly.step?, Option.ite_none_right_eq_some] at stepped
    cases stepped.2
    exact legal
  | closed name =>
    rw [Assembly.step?] at stepped
    split at stepped
    · cases stepped
    · rename_i f frames opened
      rw [Option.ite_none_right_eq_some] at stepped
      cases stepped.2
      obtain ⟨first, later⟩ := List.forall_mem_cons.1 (opened ▸ legal.frames)
      exact isLegal_place later first.element
  | opened name attributes empty =>
    rw [Assembly.step?, Option.ite_none_left_eq_some] at stepped
    obtain ⟨-, stepped⟩ := stepped
    simp only [Option.bind_eq_bind, Option.bind_eq_some_iff] at stepped
    obtain ⟨f, made, stepped⟩ := stepped
    have framed := isLegal_of_frame? brought made
    split at stepped
    · cases stepped
      exact isLegal_place legal.frames framed.element
    · cases stepped
      exact ⟨List.forall_mem_cons.2 ⟨framed, legal.frames⟩, by simp⟩

theorem isLegal_foldlM {a b : Assembly} {events : List Event} (legal : a.IsLegal)
    (brought : ∀ e ∈ events, e.IsLegal) (run : events.foldlM Assembly.step? a = some b) :
    b.IsLegal := by
  induction events generalizing a with
  | nil =>
    cases run
    exact legal
  | cons event events ih =>
    obtain ⟨first, later⟩ := List.forall_mem_cons.1 brought
    rw [List.foldlM_cons, Option.bind_eq_bind, Option.bind_eq_some_iff] at run
    obtain ⟨next, stepped, run⟩ := run
    exact ih (isLegal_step? legal first stepped) later run

/-- A document that is read holds only characters of a document, those that references stand for
included. -/
theorem isLegal_of_parse? {text : String} {e : Element} (read : parse? text = some e) :
    IsLegal e := by
  simp only [parse?, Option.bind_eq_bind, Option.bind_eq_some_iff] at read
  obtain ⟨_, -, events, eventsRead, last, run, finished⟩ := read
  have start : Assembly.start.IsLegal := ⟨List.forall_mem_nil _, by simp [Assembly.start]⟩
  have legal := isLegal_foldlM start (isLegal_of_events? eventsRead) run
  rw [Assembly.finish?, Option.ite_none_right_eq_some] at finished
  exact legal.root e finished.2

end Assembly

end RelationAtlas.Xml
