import RelationAtlas.Proofs.Entity.RoundTrip

/-! # Rows that are read, and documents for rows

Whatever is read for an extent has its shape. Each tree of rows has a document: the one in which
the elements of the lists follow one another. -/

namespace RelationAtlas

namespace Merges

variable {α : Type}

theorem cons_nil {lists : List (List α)} {merged : List α} (h : Merges lists merged) :
    Merges ([] :: lists) merged := by
  induction h with
  | done empty => exact .done (List.forall_mem_cons.2 ⟨rfl, empty⟩)
  | @take lists i x xs rest at_i _ ih => exact .take (i := i + 1) at_i ih

theorem append {xs : List α} {lists : List (List α)} {merged : List α} (h : Merges lists merged) :
    Merges (xs :: lists) (xs ++ merged) := by
  induction xs with
  | nil => exact h.cons_nil
  | cons x xs ih => exact .take (i := 0) rfl ih

theorem flatten (lists : List (List α)) : Merges lists lists.flatten := by
  induction lists with
  | nil => exact .done (List.forall_mem_nil _)
  | cons xs lists ih => exact ih.append

end Merges

namespace Entity

open Xml (Attribute Element)

section Shape

theorem mem_names_valuesOf {hop : Hop} {given : NameMap String} {name : String} :
    name ∈ (valuesOf hop given).names ↔ name ∈ selectedNames hop := by
  have absent : name ∉ (valuesOf hop given).names ↔ name ∉ selectedNames hop := by
    rw [← NameMap.get?_eq_none_iff, valuesOf, NameMap.get?_ofList_map]
    split_ifs with selected <;> simp [selected]
  exact not_iff_not.1 absent

theorem isSome_matchingOf {hop : Hop} {given : NameMap String} :
    (matchingOf hop given).isSome ↔ Extent.IsFiltered hop := by
  rw [matchingOf, Extent.IsFiltered]
  split_ifs with unfiltered
  · simp only [Bool.or_eq_true, List.isEmpty_iff, Option.isNone_iff_eq_none] at unfiltered
    rcases unfiltered with none_given | outermost <;> simp [*]
  · simp only [Bool.or_eq_true, not_or, List.isEmpty_iff, Option.isNone_iff_eq_none] at unfiltered
    simp [unfiltered.1, Option.isSome_iff_ne_none.2 unfiltered.2]

variable {m : Model}

mutual

theorem shaped_of_ofElement : ∀ {extent : Extent} {table : TableId} {tableAlias : String}
    {e : Element} {entity : Entity}, Entity.ofElement m table tableAlias extent e = .ok entity →
      Shaped m table tableAlias extent entity
  | ⟨hop, children⟩, table, tableAlias, e, entity, h => by
    rw [Entity.ofElement] at h
    obtain ⟨names, resolved, h⟩ := bind_eq_ok_iff.1 h
    obtain ⟨related, read, h⟩ := bind_eq_ok_iff.1 h
    cases h
    rw [Shaped]
    exact ⟨fun _ => mem_names_valuesOf, isSome_matchingOf, names, resolved,
      shapedAll_of_relatedOf (Query.aliasesFrom_length resolved) read⟩

theorem shapedAll_of_relatedOf : ∀ {children : List Extent} {table : TableId}
    {names : List String} {e : Element} {related : List Related},
      names.length = children.length → relatedOf m table names children e = .ok related →
      ShapedAll m table names children related
  | [], table, names, e, related, length, read => by
    obtain rfl := List.length_eq_zero_iff.1 length
    cases read
    trivial
  | child :: children, table, [], e, related, length, read => by cases length
  | child :: children, table, name :: names, e, related, length, read => by
    rw [relatedOf] at read
    obtain ⟨d, resolved, read⟩ := bind_eq_ok_iff.1 read
    obtain ⟨rows, readRows, read⟩ := bind_eq_ok_iff.1 read
    obtain ⟨rest, readRest, read⟩ := bind_eq_ok_iff.1 read
    cases read
    rw [ShapedAll]
    refine ⟨⟨d, resolved, rfl, rfl, rfl, fun row hrow => ?_⟩,
      shapedAll_of_relatedOf (Nat.succ.inj length) readRest⟩
    -- a row of the list was read from one of the elements
    obtain ⟨element, -, readRow⟩ := exists_of_mem_right (mapM_eq_ok_iff.1 readRows) hrow
    exact shaped_of_ofElement readRow

end

end Shape

section Document

mutual

def element (name : String) (more : List Attribute) : Entity → Element
  | ⟨values, matching, related⟩ =>
    ⟨name, more ++ rowAttributes values matching, (listElements related).flatten⟩

def listElements : List Related → List (List Element)
  | [] => []
  | ⟨_, tableAlias, _, rows⟩ :: related =>
    rowElements (XmlName.encode tableAlias) rows :: listElements related

def rowElements (name : String) : List Entity → List Element
  | [] => []
  | row :: rows => row.element name [] :: rowElements name rows

end

theorem name_element (name : String) (more : List Attribute) (row : Entity) :
    (row.element name more).name = name := by
  obtain ⟨values, matching, related⟩ := row
  rw [element]

mutual

theorem renders_element : ∀ (name : String) (more : List Attribute) (row : Entity),
    Renders more row (row.element name more)
  | name, more, ⟨values, matching, related⟩ => by
    rw [element, Renders]
    exact ⟨.refl _, _, rendersLists_listElements related, .flatten _⟩

theorem rendersLists_listElements : ∀ related : List Related,
    RendersLists related (listElements related)
  | [] => trivial
  | ⟨_, tableAlias, _, rows⟩ :: related => by
    rw [listElements, RendersLists]
    exact ⟨rendersRows_rowElements _ rows, rendersLists_listElements related⟩

theorem rendersRows_rowElements : ∀ (name : String) (rows : List Entity),
    RendersRows name rows (rowElements name rows)
  | _, [] => trivial
  | name, row :: rows => by
    rw [rowElements, RendersRows]
    exact ⟨⟨name_element name [] row, renders_element name [] row⟩,
      rendersRows_rowElements name rows⟩

end

end Document

end Entity

end RelationAtlas
