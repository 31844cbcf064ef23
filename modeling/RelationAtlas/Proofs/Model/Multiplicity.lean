import Mathlib.Data.Multiset.Count
import Mathlib.Data.Multiset.Filter
import Mathlib.Data.Multiset.MapFold
import RelationAtlas.Proofs.Model.Anchors
import RelationAtlas.Proofs.Query.Truth

/-! # How many rows a hop leads to

What a database may hold is limited by the indexes that keep rows unique. A hop leads to one row at
most, whatever an admissible database holds, exactly when the model does not say that it leads to
many. If the join columns contain no key of the target, two rows that agree on them and differ
elsewhere show it. -/

namespace RelationAtlas

abbrev Row (V : Type) := Nat → Option V

/-- The rows of each table, any of them more than once. -/
abbrev Database (V : Type) := TableId → Multiset (Row V)

variable {V : Type}

def Index.values (i : Index) (row : Row V) : List (Option V) := i.tuple.positions.map row

/-- No two rows agree on all columns of the index, where NULL agrees with NULL. -/
def Index.KeepsUnique (i : Index) (rows : Multiset (Row V)) : Prop := (rows.map i.values).Nodup

namespace Model

def Admits (m : Model) (db : Database V) : Prop :=
  ∀ t < m.tables.length, ∀ i ∈ (m.table t).indexes,
    i.guaranteesUniqueness = true → i.KeepsUnique (db t)

section Twins

def rowOf (columns : List Nat) (v w : V) : Row V := fun p => some (if p ∈ columns then v else w)

/-- Rows of one value only, and in one table beside it a row that has this value in the given
columns and another value elsewhere. -/
def twins (target : TableId) (columns : List Nat) (v w : V) : Database V := fun t =>
  if t = target then {rowOf columns v v, rowOf columns v w} else {rowOf columns v v}

variable {v w : V}

theorem mem_twins (target t : TableId) (columns : List Nat) :
    rowOf columns v v ∈ twins target columns v w t := by
  rw [twins]
  split_ifs <;> simp

theorem admits_twins {m : Model} {target : TableId} {columns : List Nat} (ne : v ≠ w)
    (noKey : Table.containsKey (m.table target).indexes columns = false) :
    m.Admits (twins target columns v w) := by
  intro t _ i hi guarantees
  rw [Index.KeepsUnique, twins]
  split_ifs with here
  · subst here
    have open_ : i.tuple.positions.all columns.contains = false := by
      have := List.any_eq_false.1 noKey i hi
      simpa [guarantees] using this
    obtain ⟨p, hp, free⟩ := List.all_eq_false.1 open_
    have outside : p ∉ columns := by simpa using free
    have apart : i.values (rowOf columns v v) ≠ i.values (rowOf columns v w) := by
      intro same
      have := List.map_eq_map_iff.1 same p hp
      simp [rowOf, outside, ne] at this
    simpa using apart
  · simp

end Twins

section Partners

variable [DecidableEq V]

def Joins (m : Model) (e : EndId) (row partner : Row V) : Prop :=
  Query.Truth.all (((m.otherEnd e).columns.zip (m.relationEnd e).columns).map fun (theirs, own) =>
    .compare (fun v w => v == w) (partner theirs) (row own)) = .yes

instance (m : Model) (e : EndId) (row : Row V) : DecidablePred (m.Joins e row) := fun _ =>
  inferInstanceAs (Decidable (_ = _))

def partners (m : Model) (db : Database V) (e : EndId) (row : Row V) : Multiset (Row V) :=
  (db (m.otherEnd e).table).filter (m.Joins e row)

theorem joins_iff {m : Model} {e : EndId} {row partner : Row V} : m.Joins e row partner ↔
    ∀ p ∈ (m.otherEnd e).columns.zip (m.relationEnd e).columns,
      partner p.1 = row p.2 ∧ (row p.2).isSome := by
  rw [Joins, Query.Truth.all_eq_yes, List.forall_mem_map]
  simp only [Query.Truth.compare_beq_eq_yes]

theorem agree_of_joins {m : Model} {e : EndId}
    (arity : (m.otherEnd e).columns.length = (m.relationEnd e).columns.length)
    {row r s : Row V} (hr : m.Joins e row r) (hs : m.Joins e row s) {p : Nat}
    (hp : p ∈ (m.otherEnd e).columns) : r p = s p := by
  obtain ⟨k, at_k⟩ := List.mem_iff_getElem?.1 hp
  have inside : k < (m.relationEnd e).columns.length := by
    rw [← arity]
    exact (List.getElem?_eq_some_iff.1 at_k).1
  have pair : (p, (m.relationEnd e).columns[k]) ∈
      (m.otherEnd e).columns.zip (m.relationEnd e).columns :=
    List.mem_of_getElem? (List.getElem?_zip_eq_some.2 ⟨at_k, List.getElem?_eq_getElem inside⟩)
  rw [(joins_iff.1 hr _ pair).1, (joins_iff.1 hs _ pair).1]

theorem card_partners_le_one {m : Model} {db : Database V} (admits : m.Admits db) {e : EndId}
    (inside : (m.otherEnd e).table < m.tables.length)
    (arity : (m.otherEnd e).columns.length = (m.relationEnd e).columns.length)
    (key : Table.containsKey (m.target e).indexes (m.otherEnd e).columns = true) (row : Row V) :
    (m.partners db e row).card ≤ 1 := by
  obtain ⟨i, hi, guarded⟩ := List.any_eq_true.1 key
  obtain ⟨guarantees, covered⟩ := Bool.and_eq_true_iff.1 guarded
  have distinct : ((m.partners db e row).map i.values).Nodup :=
    Multiset.nodup_of_le (Multiset.map_le_map (Multiset.filter_le _ _))
      (admits _ inside i hi guarantees)
  rcases Multiset.empty_or_exists_mem (m.partners db e row) with none | ⟨r, hr⟩
  · simp [none]
  · have same : ∀ vs ∈ (m.partners db e row).map i.values, i.values r = vs := by
      intro vs hvs
      obtain ⟨s, hs, rfl⟩ := Multiset.mem_map.1 hvs
      refine List.map_congr_left fun p hp => ?_
      have joined : p ∈ (m.otherEnd e).columns := by
        simpa using List.all_eq_true.1 covered p hp
      exact agree_of_joins arity (Multiset.mem_filter.1 hr).2 (Multiset.mem_filter.1 hs).2 joined
    rw [← Multiset.card_map i.values, ← Multiset.count_eq_card.2 same]
    exact Multiset.nodup_iff_count_le_one.1 distinct _

theorem card_partners_twins {m : Model} {e : EndId} (v w : V) :
    (m.partners (twins (m.otherEnd e).table (m.otherEnd e).columns v w) e
      (rowOf (m.otherEnd e).columns v v)).card = 2 := by
  have joined : ∀ row ∈ twins (m.otherEnd e).table (m.otherEnd e).columns v w (m.otherEnd e).table,
      m.Joins e (rowOf (m.otherEnd e).columns v v) row := by
    intro row hrow
    rw [joins_iff]
    intro p pair
    have inside := (List.of_mem_zip pair).1
    rw [twins, if_pos rfl] at hrow
    obtain rfl | rfl : row = rowOf (m.otherEnd e).columns v v ∨
        row = rowOf (m.otherEnd e).columns v w := by simpa using hrow
    · simp [rowOf]
    · simp [rowOf, inside]
  rw [partners, Multiset.filter_eq_self.2 joined, twins, if_pos rfl]
  rfl

end Partners

section Built

variable {options : BrowseOptions} {catalog : Catalog} {m : Model}
  {lists : List (List (TableId × ForeignKey))}

theorem Built.found (b : Built options catalog lists m) (apart : ViewsApart options catalog)
    (named : ∀ s ∈ catalog.tables, Catalog.Named (s.foreignKeys.map Catalog.ForeignKey.name))
    {t : Table} (ht : t ∈ Table.tablesOf (includedTables options catalog)) {f : ForeignKey}
    (hf : f ∈ (t.withForeignKeys lists.flatten).foreignKeys) :
    (t.withForeignKeys lists.flatten).foreignKey? f.name = some f := by
  refine b.foreignKey?_eq ht hf (List.nodup_iff_count_le_one.1 ?_ _)
  obtain ⟨i, source, abbreviation, hs, rfl⟩ := Table.mem_tablesOf ht
  have included := List.mem_of_getElem? hs
  obtain ⟨distinct, nonempty⟩ := named source (List.mem_of_mem_filter included)
  change ((catalog.foreignKeysOf source.name.simple).map Catalog.ForeignKey.name ++ [""]).Nodup
  rw [foreignKeysOf_eq b.distinct apart included]
  exact List.nodup_append_comm.1 (List.nodup_cons.2 ⟨nonempty, distinct⟩)

theorem Built.anchored (b : Built options catalog lists m) (apart : ViewsApart options catalog)
    (named : ∀ s ∈ catalog.tables, Catalog.Named (s.foreignKeys.map Catalog.ForeignKey.name))
    {s : RelationSpec} (hs : s ∈ specs (keyed (bareTables options catalog) lists.flatten)) :
    s.principal.Anchored (keyed (bareTables options catalog) lists.flatten) ∧
      s.dependent.Anchored (keyed (bareTables options catalog) lists.flatten) := by
  obtain ⟨t, ht, rfl | ⟨k, -, f, made, -, hf, rfl⟩⟩ := b.spec_cases hs
  · exact b.anchored_root ht
  · obtain ⟨r, hr, i, hi, -, -, -, reference⟩ := index_of_resolve made
    have at_t := b.getElem?_keyed ht
    have dependent := anchored_dependent made (b.found apart named ht hf)
    exact ⟨b.anchored_principal hr hi reference, ⟨_, _, at_t, dependent⟩⟩

theorem Built.standsOn (b : Built options catalog lists m) (apart : ViewsApart options catalog)
    (named : ∀ s ∈ catalog.tables, Catalog.Named (s.foreignKeys.map Catalog.ForeignKey.name))
    {i : Nat} (hi : i < m.ends.length) : ∃ tuple, m.StandsOn i tuple := by
  obtain ⟨k, s, hs, side⟩ := b.assembled.spec_of_lt hi
  obtain ⟨-, -, principal, -, dependent⟩ := b.assembled.pair hs
  obtain ⟨⟨t, tuple, at_t, anchored⟩, ⟨u, other, at_u, anchored'⟩⟩ :=
    b.anchored apart named (List.mem_of_getElem? hs)
  rcases side with rfl | rfl
  · exact ⟨tuple, b.assembled.standsOn principal at_t anchored⟩
  · exact ⟨other, b.assembled.standsOn dependent at_u anchored'⟩

/-- An end is said to lead to one row exactly if no admissible database has a row that joins
more. Views that are left out must not lend their foreign keys to a table of the model. -/
theorem navigatesToMany_eq_false_iff (h : build options catalog = .ok m)
    (named : ∀ s ∈ catalog.tables, Catalog.Named (s.foreignKeys.map Catalog.ForeignKey.name))
    (apart : ViewsApart options catalog) {V : Type} [DecidableEq V] [Nontrivial V] {e : EndId}
    (he : e < m.ends.length) : m.navigatesToMany e = false ↔
      ∀ db : Database V, m.Admits db → ∀ row ∈ db (m.relationEnd e).table,
        (m.partners db e row).card ≤ 1 := by
  obtain ⟨lists, b⟩ := built_of_build h
  have other := b.assembled.other_lt he
  obtain ⟨tuple, stands⟩ := b.standsOn apart named other
  have many : m.navigatesToMany e =
      !Table.containsKey (m.target e).indexes (m.otherEnd e).columns := by
    rw [navigatesToMany, otherEnd, stands.many, stands.flag]
    rfl
  rw [many, Bool.not_eq_false']
  constructor
  · intro key db admits row _
    exact card_partners_le_one admits (b.assembled.table_lt other) (b.assembled.paired he).arity
      key row
  · intro one
    by_contra noKey
    rw [Bool.not_eq_true] at noKey
    obtain ⟨v, w, ne⟩ := exists_pair_ne V
    have few := one _ (admits_twins ne noKey) _ (mem_twins _ _ _)
    rw [card_partners_twins] at few
    omega

end Built

theorem navigatesToMany_eq_false_iff_staff :
    (∀ db : Database Nat, staffModel.Admits db → ∀ row ∈ db 1,
      (staffModel.partners db 7 row).card ≤ 1) ∧
    ¬∀ db : Database Nat, staffModel.Admits db → ∀ row ∈ db 1,
      (staffModel.partners db 6 row).card ≤ 1 := by
  have named : ∀ s ∈ staff.tables, Catalog.Named (s.foreignKeys.map Catalog.ForeignKey.name) := by
    decide
  have apart : ViewsApart {} staff := viewsApart_of_included rfl
  have boss := navigatesToMany_eq_false_iff build_staff named apart (V := Nat) (e := 7)
    (by decide +kernel)
  have led := navigatesToMany_eq_false_iff build_staff named apart (V := Nat) (e := 6)
    (by decide +kernel)
  exact ⟨boss.1 (by decide +kernel), fun one => absurd (led.2 one) (by decide +kernel)⟩

def library : Catalog where
  tables := [
    { name := ⟨["author"], .inr rfl⟩
      columns := [⟨"id", "int", false⟩]
      indexes := [⟨"pk_author", true, true, [⟨"id", .ascending⟩], none⟩] },
    { name := ⟨["book"], .inr rfl⟩
      columns := [⟨"author_id", "int", false⟩, ⟨"id", "int", false⟩]
      indexes := [⟨"pk_book", true, true, [⟨"id", .ascending⟩], none⟩]
      foreignKeys := [⟨"author", ["author_id"], ⟨["author"], .inr rfl⟩, "pk_author"⟩] },
    { name := ⟨["book"], .inr rfl⟩
      isView := true
      columns := [⟨"id", "int", false⟩]
      foreignKeys := [⟨"author", ["id"], ⟨["author"], .inr rfl⟩, "pk_author"⟩] }]

/-- The view is left out, and its foreign key is found in place of that of the table: an author is
said to have one book, and may have two. -/
theorem left_out_view_hides_many : ∃ m, build { excludeViews := true } library = .ok m ∧
    (∀ s ∈ library.tables, Catalog.Named (s.foreignKeys.map Catalog.ForeignKey.name)) ∧
    4 < m.ends.length ∧ m.navigatesToMany 4 = false ∧ ∃ db : Database Nat, m.Admits db ∧
      ∃ row ∈ db (m.relationEnd 4).table, (m.partners db 4 row).card = 2 := by
  have succeeds : (build { excludeViews := true } library).isOk = true := by decide +kernel
  obtain ⟨m, built⟩ := exists_ok_of_isOk succeeds
  have evaluates : (build { excludeViews := true } library).toOption.map (fun m =>
      (decide (4 < m.ends.length), m.navigatesToMany 4,
        Table.containsKey (m.target 4).indexes (m.otherEnd 4).columns)) =
      some (true, false, false) := by decide +kernel
  rw [built] at evaluates
  obtain ⟨inside, one, noKey⟩ : 4 < m.ends.length ∧ m.navigatesToMany 4 = false ∧
      Table.containsKey (m.target 4).indexes (m.otherEnd 4).columns = false := by
    simpa [Except.toOption] using evaluates
  exact ⟨m, built, by decide, inside, one, _, admits_twins Nat.zero_ne_one noKey, _,
    mem_twins _ _ _, card_partners_twins _ _⟩

end Model

end RelationAtlas
