import Mathlib.Data.List.Induction
import Mathlib.Data.List.Nodup
import RelationAtlas.Model.Build
import RelationAtlas.Proofs.Model.Keys
import RelationAtlas.Proofs.Text.Basic

/-! # Relations are made in pairs

The relations of a model are made one after the other, and each adds two ends. What one relation
adds is said by `addRelation_eq`; from it follow, by induction on the relations made, where the
ends of each relation stand and that no two ends of a table have one name. -/

namespace RelationAtlas.Model

def keyed (bare : List Table) (resolved : List (TableId × ForeignKey)) : List Table :=
  bare.head?.toList ++ (bare.drop 1).map fun t => t.withForeignKeys resolved

theorem build_eq_bind (options : BrowseOptions) (catalog : Catalog) : build options catalog = do
    let bare ← Table.allOfCatalog (includedTables options catalog)
    let resolved ← (catalog.tables.mapM (Table.resolveAll bare)).map List.flatten
    let tables := keyed bare resolved
    let ends := (specs tables).foldl (addRelation tables) []
    return ⟨tables.map (closeUp ends), ends, catalog.fingerprint⟩ := by
  rw [build]
  congr 1
  funext bare
  cases catalog.tables.mapM (Table.resolveAll bare) <;> rfl

theorem build_eq_ok {options : BrowseOptions} {catalog : Catalog} {m : Model}
    (h : build options catalog = .ok m) : ∃ bare resolved,
      Table.allOfCatalog (includedTables options catalog) = .ok bare ∧
        catalog.tables.mapM (Table.resolveAll bare) = .ok resolved ∧
          let tables := keyed bare resolved.flatten
          let ends := (specs tables).foldl (addRelation tables) []
          m = ⟨tables.map (closeUp ends), ends, catalog.fingerprint⟩ := by
  unfold build at h
  obtain ⟨bare, hb, h⟩ := bind_eq_ok_iff.1 h
  obtain ⟨resolved, hr, h⟩ := bind_eq_ok_iff.1 h
  cases h
  exact ⟨bare, resolved, hb, hr, rfl⟩

section Keyed

variable {bare : List Table} {resolved : List (TableId × ForeignKey)}

theorem keyed_getElem? (bare : List Table) (resolved : List (TableId × ForeignKey)) (i : Nat) :
    (keyed bare resolved)[i]? =
      bare[i]?.map fun t => if i = 0 then t else t.withForeignKeys resolved := by
  cases bare with
  | nil => simp [keyed]
  | cons t rest => cases i <;> simp [keyed]

theorem keyed_placed (placed : Table.Placed bare) : Table.Placed (keyed bare resolved) := by
  intro i t found
  rw [keyed_getElem?] at found
  obtain ⟨b, hb, rfl⟩ := Option.map_eq_some_iff.1 found
  obtain ⟨id, within, plain⟩ := placed i b hb
  split_ifs <;> exact ⟨id, within, plain⟩

theorem joins_keyed {t : Table} {k : ForeignKey} (h : Table.Joins bare t k) :
    Table.Joins (keyed bare resolved) (t.withForeignKeys resolved) k := by
  obtain ⟨own, arity, r, found, within⟩ := h
  refine ⟨own, arity, if k.principal.table = 0 then r else r.withForeignKeys resolved, ?_, ?_⟩
  · rw [keyed_getElem?, found]
    rfl
  · split_ifs <;> exact within

theorem keyed_joins {sources : List Catalog.Table} {lists : List (List (TableId × ForeignKey))}
    (placed : Table.Placed bare) (h : sources.mapM (Table.resolveAll bare) = .ok lists)
    {t : Table} (ht : t ∈ (keyed bare lists.flatten).drop 1) {k : ForeignKey}
    (hk : k ∈ t.foreignKeys) (named : k.isRootKey = false) :
    Table.Joins (keyed bare lists.flatten) t k := by
  cases bare with
  | nil => simp [keyed] at ht
  | cons b rest =>
    have ht : t ∈ rest.map fun t => t.withForeignKeys lists.flatten := ht
    obtain ⟨s, hs, rfl⟩ := List.mem_map.1 ht
    apply joins_keyed
    rcases List.mem_append.1 hk with hk | hk
    · obtain ⟨e, he, rfl⟩ := List.mem_map.1 hk
      obtain ⟨listed, same⟩ := List.mem_filter.1 he
      obtain ⟨list, hl, he⟩ := List.mem_flatten.1 listed
      obtain ⟨source, -, resolvedAll⟩ := exists_of_mem_right (mapM_eq_ok_iff.1 h) hl
      obtain ⟨u, hu, -, owner, f, -, made⟩ := Table.resolveAll_eq_ok resolvedAll e he
      have : u = s := by
        refine placed.eq_of_id (List.mem_of_mem_drop hu) (List.mem_cons_of_mem _ hs) ?_
        rw [← owner]
        exact beq_iff_eq.1 same
      subst this
      exact Table.resolve_joins placed made
    · rw [List.mem_singleton] at hk
      subst hk
      cases named

end Keyed

def EndSpec.Within (tables : List Table) (s : EndSpec) : Prop :=
  ∃ t, tables[s.table]? = some t ∧ ∀ p ∈ s.columns, p < t.columns.length

structure RelationSpec.Sound (tables : List Table) (s : RelationSpec) : Prop where
  principal : s.principal.Within tables
  dependent : s.dependent.Within tables
  arity : s.principal.columns.length = s.dependent.columns.length

theorem rootSpec_sound {tables : List Table} (placed : Table.Placed tables) {t : Table}
    (ht : t ∈ tables.drop 1) : (rootSpec t).Sound tables := by
  have member := List.mem_of_mem_drop ht
  obtain ⟨r, hr⟩ : ∃ r, tables[0]? = some r := by
    cases tables with
    | nil => cases member
    | cons r rest => exact ⟨r, rfl⟩
  exact ⟨⟨r, hr, nofun⟩, ⟨t, placed.get_of_mem member, nofun⟩, rfl⟩

theorem foreignKeySpec_sound {tables : List Table} (placed : Table.Placed tables) {t : Table}
    (ht : t ∈ tables) {k : ForeignKey} (joins : Table.Joins tables t k) :
    (foreignKeySpec t k).Sound tables :=
  ⟨joins.referenced, ⟨t, placed.get_of_mem ht, joins.own⟩, joins.arity⟩

theorem specs_sound {tables : List Table} (placed : Table.Placed tables)
    (joins : ∀ t ∈ tables.drop 1, ∀ k ∈ t.foreignKeys, k.isRootKey = false →
      Table.Joins tables t k) : ∀ s ∈ specs tables, s.Sound tables := by
  intro s hs
  rcases List.mem_append.1 hs with hs | hs
  · obtain ⟨t, ht, rfl⟩ := List.mem_map.1 hs
    exact rootSpec_sound placed ht
  · obtain ⟨t, ht, hs⟩ := List.mem_flatMap.1 hs
    obtain ⟨k, hk, rfl⟩ := List.mem_map.1 hs
    obtain ⟨listed, named⟩ := List.mem_filter.1 hk
    exact foreignKeySpec_sound placed (List.mem_of_mem_drop ht)
      (joins t ht k listed (by simpa using named))

/-- An end that was made for one side of a relation. Only its name may be another one. -/
structure MadeFor (tables : List Table) (s : EndSpec) (principal : Bool) (other : EndId)
    (e : RelationEnd) : Prop where
  table : e.table = s.table
  principal : e.principal = principal
  many : e.many = isMany tables s
  key : e.key = s.key
  columns : e.columns = s.columns
  other : e.other = other
  named : e.name.isSome = s.name.isSome

section Run

variable {tables : List Table} {ends : List RelationEnd}

theorem freeName_not_mem (tables : List Table) (ends : List RelationEnd) (table partner : TableId)
    (name : String) : freeName tables ends table partner name ∉ takenNames ends table := by
  simp only [freeName]
  split_ifs with taken
  · exact Text.firstFree_numbered_not_mem _ _
  · simpa using taken

theorem addEnd_eq (tables : List Table) (ends : List RelationEnd) (s : EndSpec) (principal : Bool)
    (partner : TableId) (other : EndId) : ∃ e, addEnd tables ends s principal partner other =
      ends ++ [e] ∧ e.id = ends.length ∧ MadeFor tables s principal other e ∧
        ∀ name, e.name = some name → name ∉ takenNames ends e.table := by
  refine ⟨_, rfl, rfl, ⟨rfl, rfl, rfl, rfl, rfl, rfl, by simp⟩, ?_⟩
  intro name hn
  obtain ⟨wanted, -, rfl⟩ := Option.map_eq_some_iff.1 hn
  exact freeName_not_mem tables ends s.table partner wanted

theorem takenNames_append (ends : List RelationEnd) (e : RelationEnd) (t : TableId) :
    takenNames (ends ++ [e]) t =
      takenNames ends t ++ if e.table = t then e.name.toList else [] := by
  rw [takenNames, List.filterMap_append, takenNames]
  split_ifs with h
  · cases hn : e.name <;> simp [h, hn]
  · simp [h]

def NamesDistinct (ends : List RelationEnd) : Prop := ∀ t, (takenNames ends t).Nodup

theorem NamesDistinct.append {e : RelationEnd} (h : NamesDistinct ends)
    (free : ∀ name, e.name = some name → name ∉ takenNames ends e.table) :
    NamesDistinct (ends ++ [e]) := by
  intro t
  rw [takenNames_append]
  split_ifs with here
  · subst here
    cases hn : e.name with
    | none => simpa using h e.table
    | some name => exact List.nodup_append.2 ⟨h e.table, by simp, by
        rintro a ha b hb rfl
        exact free name hn (by simpa [← List.mem_singleton.1 hb] using ha)⟩
  · simpa using h t

theorem addRelation_eq (tables : List Table) (ends : List RelationEnd) (s : RelationSpec) :
    ∃ p d, addRelation tables ends s = ends ++ [p, d] ∧
      p.id = ends.length ∧ MadeFor tables s.principal true (ends.length + 1) p ∧
      d.id = ends.length + 1 ∧ MadeFor tables s.dependent false ends.length d ∧
      (NamesDistinct ends → NamesDistinct (ends ++ [p, d])) := by
  obtain ⟨p, hp, idp, madep, freep⟩ :=
    addEnd_eq tables ends s.principal true s.dependent.table (ends.length + 1)
  obtain ⟨d, hd, idd, maded, freed⟩ :=
    addEnd_eq tables (ends ++ [p]) s.dependent false s.principal.table ends.length
  refine ⟨p, d, ?_, idp, madep, by simpa using idd, maded, ?_⟩
  · rw [addRelation, hp, hd, List.append_assoc]
    rfl
  · intro h
    have := (h.append freep).append freed
    rwa [List.append_assoc] at this

/-- The ends of a list of relations: those of the relation at `k` stand at `2 * k` and after it. -/
structure RunOf (tables : List Table) (relations : List RelationSpec) (ends : List RelationEnd) :
    Prop where
  length : ends.length = 2 * relations.length
  pair : ∀ (k : Nat) s, relations[k]? = some s → ∃ p d,
    ends[2 * k]? = some p ∧ ends[2 * k + 1]? = some d ∧
      p.id = 2 * k ∧ MadeFor tables s.principal true (2 * k + 1) p ∧
      d.id = 2 * k + 1 ∧ MadeFor tables s.dependent false (2 * k) d
  distinct : NamesDistinct ends

theorem RunOf.step {relations : List RelationSpec} (h : RunOf tables relations ends)
    (s : RelationSpec) : RunOf tables (relations ++ [s]) (addRelation tables ends s) := by
  obtain ⟨p, d, added, idp, madep, idd, maded, distinct⟩ := addRelation_eq tables ends s
  rw [added]
  refine ⟨by simp [h.length]; omega, ?_, distinct h.distinct⟩
  intro k r hr
  by_cases last : k = relations.length
  · subst last
    -- the relation is the new one, and its ends are those that are added
    have same : r = s := by simpa using hr.symm
    subst same
    rw [h.length] at idp madep idd maded
    exact ⟨p, d, by simp [← h.length], by simp [← h.length], idp, madep, idd, maded⟩
  · have early : k < relations.length := by
      have := (List.getElem?_eq_some_iff.1 hr).1
      simp only [List.length_append, List.length_singleton] at this
      omega
    rw [List.getElem?_append_left early] at hr
    obtain ⟨p', d', hp, hd, made⟩ := h.pair k r hr
    refine ⟨p', d', ?_, ?_, made⟩
    · rwa [List.getElem?_append_left (by rw [h.length]; omega)]
    · rwa [List.getElem?_append_left (by rw [h.length]; omega)]

theorem runOf_foldl (tables : List Table) (relations : List RelationSpec) :
    RunOf tables relations (relations.foldl (addRelation tables) []) := by
  -- from the end, since a relation adds to the ends of those before it
  induction relations using List.reverseRecOn with
  | nil => exact ⟨rfl, by simp, fun _ => List.nodup_nil⟩
  | append_singleton relations s ih =>
    rw [List.foldl_append]
    exact ih.step s

end Run

end RelationAtlas.Model
