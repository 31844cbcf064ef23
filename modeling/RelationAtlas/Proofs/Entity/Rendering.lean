import RelationAtlas.Entity.Materialize
import RelationAtlas.Proofs.NameMap
import RelationAtlas.Proofs.XmlName

/-! # Rows as elements

The elements by which a database may answer for a tree of rows. The values that are not NULL are
attributes in any order; the elements of related rows are merged in any way that keeps the order
of each list. -/

namespace RelationAtlas

/-- A list that other lists are merged into, each in its own order. -/
inductive Merges {α : Type} : List (List α) → List α → Prop
  | done {lists : List (List α)} : (∀ xs ∈ lists, xs = []) → Merges lists []
  | take {lists : List (List α)} {i : Nat} {x : α} {xs rest : List α} :
      lists[i]? = some (x :: xs) → Merges (lists.set i xs) rest → Merges lists (x :: rest)

theorem Merges.filter_eq {α : Type} {p : α → Bool} {lists : List (List α)} {merged : List α}
    (h : Merges lists merged) {j : Nat} {ys : List α} (at_j : lists[j]? = some ys)
    (own : ∀ y ∈ ys, p y = true)
    (others : ∀ k zs, k ≠ j → lists[k]? = some zs → ∀ z ∈ zs, p z = false) :
    merged.filter p = ys := by
  induction h generalizing ys with
  | done empty =>
    rw [empty ys (List.mem_of_getElem? at_j)]
    rfl
  | @take lists i x xs rest at_i _ ih =>
    have bound := (List.getElem?_eq_some_iff.1 at_i).1
    have later : ∀ k zs, k ≠ j → (lists.set i xs)[k]? = some zs → ∀ z ∈ zs, p z = false := by
      intro k zs ne found z hz
      by_cases here : i = k
      · subst here
        rw [List.getElem?_set_self bound] at found
        cases found
        exact others i _ ne at_i z (List.mem_cons_of_mem _ hz)
      · rw [List.getElem?_set_ne here] at found
        exact others k zs ne found z hz
    -- the first item is of the list itself, or of one whose items are left out
    by_cases same : i = j
    · subst same
      rw [at_i] at at_j
      cases at_j
      rw [List.filter_cons_of_pos (own x List.mem_cons_self), ih (List.getElem?_set_self bound)
        (fun y hy => own y (List.mem_cons_of_mem _ hy)) later]
    · have foreign := others i _ same at_i x List.mem_cons_self
      rw [List.filter_cons_of_neg (by simp [foreign])]
      refine ih ?_ own later
      rw [List.getElem?_set_ne same]
      exact at_j

namespace Entity

open Xml (Attribute Element)

def flagText (matching : Bool) : String := if matching then "1" else "0"

def rowAttributes (values : NameMap (Option String)) (matching : Option Bool) : List Attribute :=
  values.entries.filterMap (fun (name, value) =>
      value.map (Attribute.plain (XmlName.encode name))) ++
    (matching.map fun b => Attribute.plain Query.matchingColumn (flagText b)).toList

mutual

/-- An element that holds a row, with some attributes more. -/
def Renders (more : List Attribute) : Entity → Element → Prop
  | ⟨values, matching, related⟩, e =>
    e.attributes.Perm (more ++ rowAttributes values matching) ∧
      ∃ lists, RendersLists related lists ∧ Merges lists e.children

def RendersLists : List Related → List (List Element) → Prop
  | [], [] => True
  | ⟨_, tableAlias, _, rows⟩ :: related, es :: lists =>
    RendersRows (XmlName.encode tableAlias) rows es ∧ RendersLists related lists
  | _, _ => False

def RendersRows (name : String) : List Entity → List Element → Prop
  | [], [] => True
  | row :: rows, e :: es => (e.name = name ∧ Renders [] row e) ∧ RendersRows name rows es
  | _, _ => False

end

theorem rendersRows_iff {name : String} {rows : List Entity} {es : List Element} :
    RendersRows name rows es ↔
      List.Forall₂ (fun row e => e.name = name ∧ Renders [] row e) rows es := by
  induction rows generalizing es with
  | nil => cases es <;> simp [RendersRows]
  | cons row rows ih => cases es <;> simp [RendersRows, ih]

theorem rendersLists_iff {related : List Related} {lists : List (List Element)} :
    RendersLists related lists ↔ List.Forall₂ (fun r es =>
      RendersRows (XmlName.encode r.tableAlias) r.entities es) related lists := by
  induction related generalizing lists with
  | nil => cases lists <;> simp [RendersLists]
  | cons r related ih =>
    obtain ⟨name, tableAlias, endId, rows⟩ := r
    cases lists <;> simp [RendersLists, ih]

def RendersRoot (fingerprint : String) (root : Entity) (e : Element) : Prop :=
  e.name = "root" ∧
    Renders [Attribute.plain Query.fingerprintAttribute fingerprint] root e

def decoded (a : Attribute) : String × String := (XmlName.decode a.name, a.value)

theorem decoded_plain (name value : String) :
    decoded (Attribute.plain (XmlName.encode name) value) = (name, value) := by
  rw [decoded, Attribute.plain, XmlName.decode_encode]

theorem map_decoded_rowAttributes (values : NameMap (Option String)) (matching : Option Bool) :
    (rowAttributes values matching).map decoded =
      values.entries.filterMap (fun (name, value) => value.map fun v => (name, v)) ++
        (matching.map fun b => (Query.matchingColumn, flagText b)).toList := by
  have flag : XmlName.decode Query.matchingColumn = Query.matchingColumn := by decide +kernel
  rw [rowAttributes, List.map_append, List.map_filterMap]
  congr 1
  · refine List.filterMap_congr ?_
    rintro ⟨name, value⟩ -
    cases value with
    | none => rfl
    | some v => exact congrArg some (decoded_plain name v)
  · cases matching with
    | none => rfl
    | some b => simp [decoded, Attribute.plain, flag]

theorem mem_decoded {values : NameMap (Option String)} {matching : Option Bool}
    {name value : String} : (name, value) ∈ (rowAttributes values matching).map decoded ↔
      (name, some value) ∈ values.entries ∨
        ∃ b, matching = some b ∧ name = Query.matchingColumn ∧ value = flagText b := by
  rw [map_decoded_rowAttributes, List.mem_append, List.mem_filterMap]
  refine or_congr ?_ ?_
  · constructor
    · rintro ⟨⟨n, v⟩, entry, found⟩
      obtain ⟨w, rfl, same⟩ := Option.map_eq_some_iff.1 found
      cases same
      exact entry
    · intro entry
      exact ⟨_, entry, rfl⟩
  · cases matching with
    | none => simp
    | some b => simp

/-- The attributes of a row have different names unless a value is named like the flag. -/
theorem decoded_names_nodup {values : NameMap (Option String)} {matching : Option Bool}
    (apart : matching.isSome → Query.matchingColumn ∉ values.names) :
    (((rowAttributes values matching).map decoded).map Prod.fst).Nodup := by
  rw [map_decoded_rowAttributes, List.map_append, List.nodup_append]
  have sub : ((values.entries.filterMap fun (name, value) =>
      value.map fun v => (name, v)).map Prod.fst).Sublist values.names := by
    rw [List.map_filterMap, NameMap.names]
    induction values.entries with
    | nil => exact .slnil
    | cons d rest ih =>
      obtain ⟨name, value⟩ := d
      cases value with
      | none => exact ih.cons _
      | some v => exact ih.cons_cons _
  refine ⟨sub.nodup values.names_nodup, ?_, ?_⟩
  · cases matching <;> simp
  · rintro name hn other ho rfl
    cases matching with
    | none => cases ho
    | some b =>
      cases List.mem_singleton.1 ho
      exact apart rfl (sub.subset hn)

end Entity

end RelationAtlas
