import Mathlib.Data.List.Induction
import Mathlib.Data.List.Nodup
import Mathlib.Data.List.Perm.Basic
import RelationAtlas.NameMap

/-! # Laws of maps from names

Looking up is membership among the entries. Inserting changes what is found under one name only,
and two maps that find the same under every name are one map. -/

namespace RelationAtlas

variable {α : Type}

theorem mem_insertEntry_self (name : String) (value : α) (entries : List (String × α)) :
    (name, value) ∈ insertEntry name value entries := by
  induction entries with
  | nil => simp [insertEntry]
  | cons d rest ih =>
    obtain ⟨n, v⟩ := d
    rw [insertEntry]
    split_ifs
    · exact List.mem_cons_self
    · exact List.mem_cons_of_mem _ ih
    · exact List.mem_cons_self

theorem mem_insertEntry_of_ne {name : String} {value : α} {entries : List (String × α)}
    {e : String × α} (h : e ∈ entries) (ne : e.1 ≠ name) :
    e ∈ insertEntry name value entries := by
  induction entries with
  | nil => cases h
  | cons d rest ih =>
    obtain ⟨n, v⟩ := d
    rw [insertEntry]
    rcases List.mem_cons.1 h with rfl | later
    · split_ifs with before after
      · exact List.mem_cons_of_mem _ h
      · exact List.mem_cons_self
      · exact absurd (String.le_antisymm (String.not_lt.1 before) (String.not_lt.1 after)) ne
    · split_ifs
      · exact List.mem_cons_of_mem _ h
      · exact List.mem_cons_of_mem _ (ih later)
      · exact List.mem_cons_of_mem _ later

namespace NameMap

theorem names_ascending (m : NameMap α) : m.names.Pairwise (· < ·) :=
  List.pairwise_map.2 m.ascending

theorem names_nodup (m : NameMap α) : m.names.Nodup := by
  refine m.names_ascending.imp ?_
  intro a b less same
  exact String.lt_irrefl a (same ▸ less)

theorem entries_nodup (m : NameMap α) : m.entries.Nodup :=
  List.Nodup.of_map Prod.fst m.names_nodup

theorem value_unique {m : NameMap α} {name : String} {v w : α} (hv : (name, v) ∈ m.entries)
    (hw : (name, w) ∈ m.entries) : v = w :=
  congrArg Prod.snd (List.inj_on_of_nodup_map m.names_nodup hv hw rfl)

theorem get?_eq_some_iff {m : NameMap α} {name : String} {value : α} :
    m.get? name = some value ↔ (name, value) ∈ m.entries := by
  constructor
  · intro h
    obtain ⟨before, after, split, -⟩ := List.lookup_eq_some_iff.1 h
    rw [split]
    exact List.mem_append_right _ List.mem_cons_self
  · intro h
    cases found : m.get? name with
    | none => exact absurd rfl (bne_iff_ne.1 (List.lookup_eq_none_iff.1 found _ h))
    | some w =>
      obtain ⟨before, after, split, -⟩ := List.lookup_eq_some_iff.1 found
      have hw : (name, w) ∈ m.entries := by
        rw [split]
        exact List.mem_append_right _ List.mem_cons_self
      rw [value_unique h hw]

theorem get?_eq_none_iff {m : NameMap α} {name : String} :
    m.get? name = none ↔ name ∉ m.names := by
  rw [Option.eq_none_iff_forall_ne_some]
  simp only [ne_eq, get?_eq_some_iff, names, List.mem_map, Prod.exists, exists_and_right,
    exists_eq_right, not_exists]

theorem contains_iff {m : NameMap α} {name : String} : m.contains name ↔ name ∈ m.names := by
  rw [contains, ← not_iff_not, ← get?_eq_none_iff, Option.not_isSome_iff_eq_none]

theorem eq_of_get?_eq {m n : NameMap α} (h : ∀ name, m.get? name = n.get? name) : m = n := by
  have same : ∀ e, e ∈ m.entries ↔ e ∈ n.entries := by
    rintro ⟨name, value⟩
    rw [← get?_eq_some_iff, h, get?_eq_some_iff]
  have perm := (List.perm_ext_iff_of_nodup m.entries_nodup n.entries_nodup).2 same
  apply ext
  refine perm.eq_of_pairwise ?_ m.ascending n.ascending
  intro d e _ _ hde hed
  exact absurd (String.lt_trans hde hed) (String.lt_irrefl _)

theorem names_eq_of_mem {β : Type} {m : NameMap α} {n : NameMap β}
    (h : ∀ name, name ∈ m.names ↔ name ∈ n.names) : m.names = n.names := by
  have perm := (List.perm_ext_iff_of_nodup m.names_nodup n.names_nodup).2 fun {name} => h name
  refine perm.eq_of_pairwise ?_ m.names_ascending n.names_ascending
  intro a b _ _ hab hba
  exact absurd (String.lt_trans hab hba) (String.lt_irrefl _)

theorem get?_insert (m : NameMap α) (name : String) (value : α) (other : String) :
    (m.insert name value).get? other = if other = name then some value else m.get? other := by
  split_ifs with same
  · rw [same, get?_eq_some_iff]
    exact mem_insertEntry_self name value m.entries
  · ext v
    rw [get?_eq_some_iff, get?_eq_some_iff]
    constructor
    · intro h
      rcases mem_insertEntry h with h | h
      · exact absurd (congrArg Prod.fst h) same
      · exact h
    · intro h
      exact mem_insertEntry_of_ne h same

theorem mem_names_insert {m : NameMap α} {name : String} {value : α} {other : String} :
    other ∈ (m.insert name value).names ↔ other = name ∨ other ∈ m.names := by
  rw [← contains_iff, ← contains_iff, contains, contains, get?_insert]
  by_cases same : other = name <;> simp [same]

theorem get?_empty (name : String) : (empty : NameMap α).get? name = none := rfl

theorem get?_ofList_append (pairs : List (String × α)) (name : String) (value : α)
    (other : String) : (ofList (pairs ++ [(name, value)])).get? other =
      if other = name then some value else (ofList pairs).get? other := by
  rw [ofList, List.foldl_append]
  exact get?_insert _ name value other

theorem get?_ofList (pairs : List (String × α)) (name : String) :
    (ofList pairs).get? name = (pairs.findRev? fun e => e.1 == name).map Prod.snd := by
  rw [List.findRev?_eq_find?_reverse]
  induction pairs using List.reverseRecOn with
  | nil => rfl
  | append_singleton pairs e ih =>
    obtain ⟨n, v⟩ := e
    rw [get?_ofList_append, ih, List.reverse_append, List.reverse_singleton, List.singleton_append]
    by_cases same : name = n
    · simp [same]
    · rw [if_neg same, List.find?_cons_of_neg (by simpa using Ne.symm same)]

theorem get?_ofList_eq_some_iff {pairs : List (String × α)}
    (distinct : (pairs.map Prod.fst).Nodup) {name : String} {value : α} :
    (ofList pairs).get? name = some value ↔ (name, value) ∈ pairs := by
  induction pairs using List.reverseRecOn with
  | nil => simp [ofList, get?_empty]
  | append_singleton pairs e ih =>
    obtain ⟨n, v⟩ := e
    rw [List.map_append, List.nodup_append] at distinct
    obtain ⟨before, -, apart⟩ := distinct
    rw [get?_ofList_append, List.mem_append, List.mem_singleton, Prod.mk.injEq]
    split_ifs with same
    · subst same
      have absent : (name, value) ∉ pairs := by
        intro h
        exact apart name (List.mem_map_of_mem h) name (by simp) rfl
      simp [absent, eq_comm]
    · simp [ih before, same]

theorem get?_ofList_map (names : List String) (f : String → α) (name : String) :
    (ofList (names.map fun n => (n, f n))).get? name =
      if name ∈ names then some (f name) else none := by
  induction names using List.reverseRecOn with
  | nil => simp [ofList, get?_empty]
  | append_singleton names n ih =>
    rw [List.map_append, List.map_singleton, get?_ofList_append, ih]
    by_cases same : name = n <;> simp [same]

end NameMap

end RelationAtlas
