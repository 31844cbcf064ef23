import RelationAtlas.Proofs.Model.Multiplicity

/-! # Leaving views out

The tables of a model are those of the catalog that are no views, if views are to be left out. The
foreign keys are looked for in the whole catalog, by simple name. So a view that is left out has no
part in the model unless a table has its simple name: that table gets the foreign keys of the
view. -/

namespace RelationAtlas

def Catalog.withoutViews (c : Catalog) : Catalog :=
  { c with tables := c.tables.filter fun t => !t.isView }

namespace Model

variable {options : BrowseOptions} {catalog : Catalog} {m : Model}

theorem includedTables_of_excludeViews (excluded : options.excludeViews = true) :
    includedTables options catalog = catalog.withoutViews.tables := by
  rw [includedTables, excluded]
  rfl

theorem not_mem_includedTables_iff (excluded : options.excludeViews = true) {v : Catalog.Table}
    (hv : v ∈ catalog.tables) : v ∉ includedTables options catalog ↔ v.isView = true := by
  rw [includedTables_of_excludeViews excluded, Catalog.withoutViews, List.mem_filter]
  simp [hv]

theorem includedTables_withoutViews (excluded : options.excludeViews = true)
    (settings : BrowseOptions) (catalog : Catalog) :
    includedTables settings catalog.withoutViews = includedTables options catalog := by
  rw [includedTables_of_excludeViews excluded]
  refine List.filter_eq_self.2 fun t ht => ?_
  have real : t.isView = false := by simpa using (List.mem_filter.1 ht).2
  simp [real]

theorem resolveAll_leftOut (apart : ViewsApart options catalog) {v : Catalog.Table}
    (hv : v ∈ catalog.tables) (left : v ∉ includedTables options catalog) :
    Table.resolveAll (bareTables options catalog) v = .ok [] := by
  rw [Table.resolveAll]
  cases found : Table.bySimple? (bareTables options catalog) v.name.simple with
  | none => rfl
  | some t =>
    obtain ⟨listed, same⟩ := Table.bySimple?_mem found
    obtain ⟨i, s, abbreviation, at_i, rfl⟩ := Table.mem_tablesOf (t := t) listed
    have none : v.foreignKeys = [] := by
      by_contra keys
      exact apart v hv left keys s (List.mem_of_getElem? at_i) same
    rw [none]
    rfl

theorem build_of_viewsApart (excluded : options.excludeViews = true)
    (apart : ViewsApart options catalog) (settings : BrowseOptions) :
    build options catalog = build settings catalog.withoutViews := by
  rw [build_eq_bind, build_eq_bind, includedTables_withoutViews excluded]
  cases made : Table.allOfCatalog (includedTables options catalog) with
  | error e => rfl
  | ok bare =>
    obtain ⟨-, rfl⟩ := Table.allOfCatalog_eq_ok_iff.1 made
    have passed : ∀ v ∈ catalog.tables, (!v.isView) = false →
        Table.resolveAll (bareTables options catalog) v = .ok [] := by
      intro v hv view
      rw [Bool.not_eq_false'] at view
      exact resolveAll_leftOut apart hv ((not_mem_includedTables_iff excluded hv).2 view)
    have same : (catalog.withoutViews.tables.mapM
        (Table.resolveAll (bareTables options catalog))).map List.flatten =
          (catalog.tables.mapM (Table.resolveAll (bareTables options catalog))).map
            List.flatten := mapM_filter_flatten passed
    change ((catalog.tables.mapM (Table.resolveAll (bareTables options catalog))).map
      List.flatten >>= _) = _
    rw [← same]
    rfl

theorem Built.foreignKey_names_of_included {lists : List (List (TableId × ForeignKey))}
    (b : Built options catalog lists m) {i : Nat} {source : Catalog.Table}
    (hs : (includedTables options catalog)[i]? = some source) :
    (m.table (i + 1)).foreignKeys.map ForeignKey.name =
      (catalog.foreignKeysOf source.name.simple).map Catalog.ForeignKey.name ++ [""] := by
  obtain ⟨abbreviation, t, rfl, ht, -, own⟩ := b.table_eq hs
  rw [own]
  exact b.foreignKey_names ht

theorem viewsApart_of_build (excluded : options.excludeViews = true) {settings : BrowseOptions}
    (whole : build options catalog = .ok m)
    (without : build settings catalog.withoutViews = .ok m) : ViewsApart options catalog := by
  obtain ⟨lists, b⟩ := built_of_build whole
  obtain ⟨lists', b'⟩ := built_of_build without
  intro v hv left keys s hs same
  have view : (!v.isView) = false := by
    rw [Bool.not_eq_false']
    exact (not_mem_includedTables_iff excluded hv).1 left
  obtain ⟨i, at_i⟩ := List.mem_iff_getElem?.1 hs
  have at_i' : (includedTables settings catalog.withoutViews)[i]? = some s := by
    rwa [includedTables_withoutViews excluded]
  have names := congrArg List.length
    ((b.foreignKey_names_of_included at_i).symm.trans (b'.foreignKey_names_of_included at_i'))
  simp only [List.length_append, List.length_map, Nat.add_right_cancel_iff] at names
  rw [Catalog.foreignKeysOf, Catalog.foreignKeysOf, Catalog.withoutViews, List.filter_comm]
    at names
  exact keys (nil_of_flatMap_filter names.symm (List.mem_filter.2 ⟨hv, beq_iff_eq.2 same.symm⟩) view)

theorem exists_build_withoutViews (excluded : options.excludeViews = true)
    (settings : BrowseOptions) (whole : build options catalog = .ok m) :
    ∃ m', build settings catalog.withoutViews = .ok m' := by
  obtain ⟨bare, lists, made, resolved, -⟩ := build_eq_ok whole
  have each : ∀ s ∈ catalog.tables, ∃ list, Table.resolveAll bare s = .ok list :=
    exists_forall₂_iff.1 ⟨lists, mapM_eq_ok_iff.1 resolved⟩
  obtain ⟨kept, resolved'⟩ := exists_forall₂_iff.2 fun s (hs : s ∈ catalog.withoutViews.tables) =>
    each s (List.mem_filter.1 hs).1
  rw [build, includedTables_withoutViews excluded]
  exact exists_bind_ok made (exists_bind_ok (mapM_eq_ok_iff.2 resolved') ⟨_, rfl⟩)

/-- To leave views out is to build the model of the catalog without them, as long as none of them
has foreign keys under the simple name of a table. If one has, the models differ, or there is only
the one without views. -/
theorem build_leavingViewsOut (excluded : options.excludeViews = true)
    (settings : BrowseOptions) (catalog : Catalog) :
    (ViewsApart options catalog → build options catalog = build settings catalog.withoutViews) ∧
    (∀ m, build settings catalog.withoutViews = .ok m →
      (build options catalog = .ok m ↔ ViewsApart options catalog)) ∧
    ∀ m, build options catalog = .ok m →
      ∃ m', build settings catalog.withoutViews = .ok m' := by
  refine ⟨fun apart => build_of_viewsApart excluded apart settings, fun m without => ⟨?_, ?_⟩,
    fun m => exists_build_withoutViews excluded settings⟩
  · exact fun whole => viewsApart_of_build excluded whole without
  · exact fun apart => (build_of_viewsApart excluded apart settings).trans without

def painting : Catalog where
  tables := [
    { name := ⟨["painter"], .inr rfl⟩
      columns := [⟨"id", "int", false⟩]
      indexes := [⟨"pk_painter", true, true, [⟨"id", .ascending⟩], none⟩] },
    { name := ⟨["portraitist"], .inr rfl⟩
      isView := true
      columns := [⟨"id", "int", false⟩]
      foreignKeys := [⟨"painter", ["id"], ⟨["painter"], .inr rfl⟩, "pk_painter"⟩] }]

theorem build_leavingViewsOut_painting : ∃ m,
    build {} painting.withoutViews = .ok m ∧ build { excludeViews := true } painting = .ok m := by
  obtain ⟨m, without⟩ := exists_ok_of_isOk (x := build {} painting.withoutViews)
    (by decide +kernel)
  have apart : ViewsApart { excludeViews := true } painting := by
    have names : ∀ v ∈ painting.tables, v.foreignKeys ≠ [] →
        ∀ s ∈ includedTables { excludeViews := true } painting,
          s.name.simple ≠ v.name.simple := by decide +kernel
    exact fun v hv _ => names v hv
  exact ⟨m, without, ((build_leavingViewsOut rfl {} painting).2.1 m without).2 apart⟩

/-- A view of the name of the books, which is left out, gives them one more foreign key. -/
theorem left_out_view_gives_foreign_key : ∃ m m', build {} library.withoutViews = .ok m ∧
    build { excludeViews := true } library = .ok m' ∧ m' ≠ m ∧
      (m.table 2).foreignKeys.map ForeignKey.name = ["author", ""] ∧
        (m'.table 2).foreignKeys.map ForeignKey.name = ["author", "author", ""] := by
  obtain ⟨m, without⟩ := exists_ok_of_isOk (x := build {} library.withoutViews) (by decide +kernel)
  obtain ⟨m', whole⟩ := exists_ok_of_isOk (x := build { excludeViews := true } library)
    (by decide +kernel)
  have few : (build {} library.withoutViews).toOption.map (fun m =>
      (m.table 2).foreignKeys.map ForeignKey.name) = some ["author", ""] := by decide +kernel
  have more : (build { excludeViews := true } library).toOption.map (fun m =>
      (m.table 2).foreignKeys.map ForeignKey.name) = some ["author", "author", ""] := by
    decide +kernel
  rw [without] at few
  rw [whole] at more
  have few := Option.some.inj few
  have more := Option.some.inj more
  refine ⟨m, m', without, whole, ?_, few, more⟩
  rintro rfl
  exact absurd (few.symm.trans more) (by decide)

end Model

end RelationAtlas
