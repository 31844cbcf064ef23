import Mathlib.Data.List.Basic
import Mathlib.Tactic.SplitIfs
import RelationAtlas.Model.Build
import RelationAtlas.Proofs.ObjectName
import RelationAtlas.Proofs.Outcome

/-! # Names with one simple form

Read from left to right, two dots of a simple form are a dot of a part and a single one ends a
part. That gives the parts back as long as none of them begins with a dot after another one. In
general it gives the parts settled: the dots that a part begins with go to the end of the part
before it, and a part of nothing but dots between two others leaves a dot between them. So names
have one simple form exactly if they settle alike. -/

namespace RelationAtlas

namespace Text

def dotted (parts : List (List Char)) : List Char :=
  List.intercalate ['.'] (parts.map (doubled '.'))

def putFirst (c : Char) : List (List Char) → List (List Char)
  | [] => [[c]]
  | part :: parts => (c :: part) :: parts

def undotted : List Char → List (List Char)
  | [] => [[]]
  | '.' :: '.' :: rest => putFirst '.' (undotted rest)
  | '.' :: rest => [] :: undotted rest
  | c :: rest => putFirst c (undotted rest)

/-- Moves the dots that a part begins with to the end of the part before it. -/
def shift (part : List Char) : List Char → List (List Char) → List (List Char)
  | '.' :: next, parts => shift (part ++ ['.']) next parts
  -- the dots on both sides of nothing read as one dot of a part
  | [], after :: parts => (part ++ '.' :: after) :: parts
  | next, parts => part :: next :: parts

def settle : List (List Char) → List (List Char)
  | [] => []
  | part :: parts =>
    match settle parts with
    | [] => [part]
    | next :: later => shift part next later

/-- Parts that are told from what is before them: none begins with a dot, and only the last may
be empty. -/
def Later : List (List Char) → Prop
  | [] => True
  | part :: parts => part.head? ≠ some '.' ∧ (part = [] → parts = []) ∧ Later parts

theorem dotted_singleton (part : List Char) : dotted [part] = doubled '.' part := by
  simp [dotted]

theorem dotted_cons (part next : List Char) (parts : List (List Char)) :
    dotted (part :: next :: parts) = doubled '.' part ++ '.' :: dotted (next :: parts) := by
  simp [dotted, List.intercalate_cons_cons]

theorem dotted_append (part rest : List Char) (parts : List (List Char)) :
    dotted ((part ++ rest) :: parts) = doubled '.' part ++ dotted (rest :: parts) := by
  cases parts with
  | nil => rw [dotted_singleton, dotted_singleton, doubled_append]
  | cons next parts => rw [dotted_cons, dotted_cons, doubled_append, List.append_assoc]

section Reading

theorem undotted_separator {cs : List Char} (h : cs.head? ≠ some '.') :
    undotted ('.' :: cs) = [] :: undotted cs := by
  rw [undotted]
  rintro rest rfl
  exact h rfl

theorem undotted_char {c : Char} (h : c ≠ '.') (cs : List Char) :
    undotted (c :: cs) = putFirst c (undotted cs) := by
  rw [undotted]
  · rintro rest rfl
    exact absurd rfl h
  · exact fun same => absurd same h

theorem undotted_doubled (part cs : List Char) :
    undotted (doubled '.' part ++ cs) = part.foldr putFirst (undotted cs) := by
  induction part with
  | nil => rfl
  | cons c part ih =>
    rw [doubled_cons, List.append_assoc]
    split_ifs with dot
    · subst dot
      exact congrArg (putFirst '.') ih
    · exact (undotted_char dot _).trans (congrArg (putFirst c) ih)

theorem foldr_putFirst (part next : List Char) (parts : List (List Char)) :
    part.foldr putFirst (next :: parts) = (part ++ next) :: parts := by
  induction part with
  | nil => rfl
  | cons c part ih =>
    rw [List.foldr_cons, ih]
    rfl

theorem head?_dotted {part : List Char} {parts : List (List Char)}
    (later : Later (part :: parts)) : (dotted (part :: parts)).head? ≠ some '.' := by
  obtain ⟨dotless, last, -⟩ := later
  cases part with
  | nil =>
    rw [last rfl]
    simp [dotted_singleton, doubled_nil]
  | cons c part =>
    have other : c ≠ '.' := by simpa using dotless
    have first := dotted_append [c] part parts
    rw [doubled_cons, if_neg other] at first
    rw [show c :: part = [c] ++ part from rfl, first]
    simpa using other

theorem undotted_dotted {part : List Char} {parts : List (List Char)} (later : Later parts) :
    undotted (dotted (part :: parts)) = part :: parts := by
  induction parts generalizing part with
  | nil =>
    have whole := undotted_doubled part []
    rw [List.append_nil] at whole
    rw [dotted_singleton, whole, undotted, foldr_putFirst, List.append_nil]
  | cons next parts ih =>
    rw [dotted_cons, undotted_doubled, undotted_separator (head?_dotted later),
      ih later.2.2, foldr_putFirst, List.append_nil]

end Reading

section Settling

theorem dotted_shift (part next : List Char) (parts : List (List Char)) :
    dotted (shift part next parts) = dotted (part :: next :: parts) := by
  fun_induction shift part next parts with
  | case1 part next parts ih =>
    rw [ih, dotted_cons, dotted_cons, doubled_append, show '.' :: next = ['.'] ++ next from rfl,
      dotted_append]
    simp [doubled]
  | case2 part after parts =>
    rw [dotted_append, dotted_cons, dotted_cons, show '.' :: after = ['.'] ++ after from rfl,
      dotted_append]
    simp [doubled]
  | case3 part next parts => rfl

theorem shift_later (part next : List Char) {parts : List (List Char)} (h : Later parts) :
    ∃ first later, shift part next parts = first :: later ∧ Later later := by
  fun_induction shift part next parts with
  | case1 part next parts ih => exact ih h
  | case2 part after parts => exact ⟨_, parts, rfl, h.2.2⟩
  | case3 part next parts undotted last =>
    refine ⟨part, next :: parts, rfl, ?_, ?_, h⟩
    · intro dot
      obtain ⟨rest, rfl⟩ := List.head?_eq_some_iff.1 dot
      exact undotted rest rfl
    · rintro rfl
      cases parts with
      | nil => rfl
      | cons after parts => exact absurd rfl (last after parts rfl)

theorem settle_later (part : List Char) (parts : List (List Char)) :
    ∃ first later, settle (part :: parts) = first :: later ∧ Later later := by
  -- from the last part on, since dots may pass through several parts
  induction parts generalizing part with
  | nil => exact ⟨part, [], rfl, trivial⟩
  | cons next parts ih =>
    obtain ⟨first, later, settled, apart⟩ := ih next
    rw [settle, settled]
    exact shift_later part first apart

theorem dotted_settle (parts : List (List Char)) : dotted (settle parts) = dotted parts := by
  induction parts with
  | nil => rfl
  | cons part parts ih =>
    cases parts with
    | nil => rfl
    | cons next parts =>
      obtain ⟨first, later, settled, -⟩ := settle_later next parts
      rw [settled] at ih
      rw [settle, settled]
      change dotted (shift part first later) = _
      rw [dotted_shift, dotted_cons, dotted_cons, ih]

theorem undotted_eq_settle (part : List Char) (parts : List (List Char)) :
    undotted (dotted (part :: parts)) = settle (part :: parts) := by
  obtain ⟨first, later, settled, apart⟩ := settle_later part parts
  rw [← dotted_settle, settled, undotted_dotted apart]

theorem dotted_eq_iff {ps qs : List (List Char)} (hp : ps ≠ []) (hq : qs ≠ []) :
    dotted ps = dotted qs ↔ settle ps = settle qs := by
  obtain ⟨p, ps, rfl⟩ := List.exists_cons_of_ne_nil hp
  obtain ⟨q, qs, rfl⟩ := List.exists_cons_of_ne_nil hq
  constructor
  · intro same
    rw [← undotted_eq_settle, same, undotted_eq_settle]
  · intro same
    rw [← dotted_settle, same, dotted_settle]

end Settling

theorem later_of_forall {parts : List (List Char)} (filled : ∀ p ∈ parts, p ≠ [])
    (dotless : ∀ p ∈ parts, p.head? ≠ some '.') : Later parts := by
  induction parts with
  | nil => trivial
  | cons part parts ih =>
    obtain ⟨filledFirst, filledLater⟩ := List.forall_mem_cons.1 filled
    obtain ⟨dotlessFirst, dotlessLater⟩ := List.forall_mem_cons.1 dotless
    exact ⟨dotlessFirst, fun empty => absurd empty filledFirst, ih filledLater dotlessLater⟩

theorem settle_of_later {part : List Char} {parts : List (List Char)} (later : Later parts) :
    settle (part :: parts) = part :: parts := by
  rw [← undotted_eq_settle, undotted_dotted later]

end Text

namespace ObjectName

def settled (n : ObjectName) : List (List Char) := Text.settle (n.parts.map String.toList)

def OpensPlain (n : ObjectName) : Prop := ∀ p ∈ n.parts.tail, p.toList.head? ≠ some '.'

instance : DecidablePred OpensPlain := fun n =>
  inferInstanceAs (Decidable (∀ p ∈ n.parts.tail, p.toList.head? ≠ some '.'))

theorem settled_of_opensPlain {n : ObjectName} (real : n.isRoot = false) (plain : n.OpensPlain) :
    n.settled = n.parts.map String.toList := by
  have filled : ∀ p ∈ n.parts, p.toList ≠ [] := fun p hp => toList_ne_nil real hp
  rw [settled]
  rw [OpensPlain] at plain
  cases parts : n.parts with
  | nil => rfl
  | cons part parts' =>
    rw [parts] at filled plain
    refine Text.settle_of_later (Text.later_of_forall ?_ ?_)
    · simpa using fun p hp => filled p (List.mem_cons_of_mem _ hp)
    · simpa using plain

theorem eq_of_toLists {a b : ObjectName}
    (same : a.parts.map String.toList = b.parts.map String.toList) : a = b := by
  have injective : Function.Injective String.toList := fun _ _ => String.toList_injective
  have parts := List.map_injective_iff.2 injective same
  obtain ⟨_, _⟩ := a
  obtain ⟨_, _⟩ := b
  cases parts
  rfl

/-- Two names have one simple form exactly if they settle alike. Names of which no part after the
first begins with a dot are told apart. -/
theorem simple_eq_iff {a b : ObjectName} (ha : a.isRoot = false) (hb : b.isRoot = false) :
    (a.simple = b.simple ↔ a.settled = b.settled) ∧
      (a.OpensPlain → b.OpensPlain → a.simple = b.simple → a = b) := by
  have settles : a.simple = b.simple ↔ a.settled = b.settled := by
    rw [← String.toList_inj, toList_simple, toList_simple, ← Text.dotted, ← Text.dotted]
    refine Text.dotted_eq_iff ?_ ?_
    · simpa [isRoot] using ha
    · simpa [isRoot] using hb
  refine ⟨settles, fun plain plain' same => eq_of_toLists ?_⟩
  rw [← settled_of_opensPlain ha plain, settles.1 same, settled_of_opensPlain hb plain']

theorem simple_eq_iff_dots :
    (⟨["db", ".", "x"], .inr rfl⟩ : ObjectName).simple =
        (⟨["db..x"], .inr rfl⟩ : ObjectName).simple ∧
      (⟨["dbo.", "x.y."], .inr rfl⟩ : ObjectName).simple ≠
        (⟨["dbo", "x.y."], .inr rfl⟩ : ObjectName).simple := by
  constructor
  · exact (simple_eq_iff rfl rfl).1.2 (by decide +kernel)
  · intro same
    have equal := (simple_eq_iff rfl rfl).2 (by decide) (by decide) same
    exact absurd (congrArg parts equal) (by decide)

/-- A dot moves from one part to the next, and the catalog of both tables has no model. -/
theorem moved_dot_collides : ∃ a b : ObjectName,
    ofParts ["a.", "b"] = .ok a ∧ ofParts ["a", ".b"] = .ok b ∧ a.simple = b.simple ∧ a ≠ b ∧
      Model.build {} ⟨[{ name := a }, { name := b }], none⟩ =
        .error (.invalidCatalog (.repeatedTable "[a].[.b]")) :=
  ⟨⟨["a.", "b"], .inr rfl⟩, ⟨["a", ".b"], .inr rfl⟩, rfl, rfl, by decide +kernel, by decide,
    by decide +kernel⟩

end ObjectName

end RelationAtlas
