import RelationAtlas.Proofs.Query.Compilable

/-! # The columns that a statement names

A tree of extents becomes a statement exactly if every extent of it follows a relation to a table
that has the columns it selects and those it gives values for. Columns that it only orders by, or
searches in, are not looked up; a statement names no others than its tables have if these do, too. -/

namespace RelationAtlas.Query

variable {m : Model}

mutual

def Everywhere (m : Model) (P : Table → Hop → Prop) (parent : TableId) : Extent → Prop
  | ⟨hop, children⟩ => ∃ e, relationOf m parent hop = .ok e ∧ P (m.target e.id) hop ∧
      EverywhereAll m P (m.target e.id).id children

def EverywhereAll (m : Model) (P : Table → Hop → Prop) (parent : TableId) : List Extent → Prop
  | [] => True
  | x :: xs => Everywhere m P parent x ∧ EverywhereAll m P parent xs

end

section Combine

variable {P Q R : Table → Hop → Prop}

mutual

theorem Everywhere.combine (both : ∀ t hop, P t hop → Q t hop → R t hop) :
    ∀ {x : Extent} {parent : TableId}, Everywhere m P parent x → Everywhere m Q parent x →
      Everywhere m R parent x
  | ⟨hop, children⟩, parent, hP, hQ => by
    rw [Everywhere] at hP hQ ⊢
    obtain ⟨e, found, own, below⟩ := hP
    obtain ⟨e', found', own', below'⟩ := hQ
    rw [found] at found'
    cases found'
    exact ⟨e, found, both _ _ own own', EverywhereAll.combine both below below'⟩

theorem EverywhereAll.combine (both : ∀ t hop, P t hop → Q t hop → R t hop) :
    ∀ {xs : List Extent} {parent : TableId}, EverywhereAll m P parent xs →
      EverywhereAll m Q parent xs → EverywhereAll m R parent xs
  | [], _, _, _ => by trivial
  | x :: xs, parent, hP, hQ => by
    rw [EverywhereAll] at hP hQ ⊢
    exact ⟨Everywhere.combine both hP.1 hQ.1, EverywhereAll.combine both hP.2 hQ.2⟩

end

end Combine

structure Accepted (t : Table) (hop : Hop) : Prop where
  fits : Fits t hop
  few : hop.values.length ≤ hop.order.length
  real : t.name.isRoot = false

structure NamesOwn (t : Table) (hop : Hop) : Prop where
  columns : ∀ n ∈ hop.columns, t.Has n
  order : ∀ o ∈ hop.order, t.Has o.name
  scan : ∀ s ∈ hop.scan, ∀ term ∈ s.terms, t.Has term.column

structure RestOwn (t : Table) (hop : Hop) : Prop where
  order : ∀ o ∈ hop.order.drop hop.values.length, t.Has o.name
  scan : ∀ s ∈ hop.scan, ∀ term ∈ s.terms, t.Has term.column

theorem NamesOwn.rest {t : Table} {hop : Hop} (h : NamesOwn t hop) : RestOwn t hop :=
  ⟨fun o ho => h.order o (List.mem_of_mem_drop ho), h.scan⟩

theorem namesOwn_of_rest {t : Table} {hop : Hop} (accepted : Accepted t hop)
    (rest : RestOwn t hop) : NamesOwn t hop := by
  refine ⟨accepted.fits.columns, ?_, rest.scan⟩
  intro o ho
  rw [← List.take_append_drop hop.values.length hop.order, List.mem_append] at ho
  rcases ho with placed | beyond
  · exact accepted.fits.position o placed
  · exact rest.order o beyond

mutual

theorem compilable_iff_everywhere : ∀ {x : Extent} {parent : TableId},
    Compilable m parent x ↔ Everywhere m Accepted parent x
  | ⟨hop, children⟩, parent => by
    rw [Compilable, Everywhere]
    apply exists_congr
    intro e
    rw [compilableAll_iff_everywhere]
    constructor
    · rintro ⟨found, fits, few, real, below⟩
      exact ⟨found, ⟨fits, few, real⟩, below⟩
    · rintro ⟨found, ⟨fits, few, real⟩, below⟩
      exact ⟨found, fits, few, real, below⟩

theorem compilableAll_iff_everywhere : ∀ {xs : List Extent} {parent : TableId},
    CompilableAll m parent xs ↔ EverywhereAll m Accepted parent xs
  | [], _ => Iff.rfl
  | x :: xs, parent => by
    rw [CompilableAll, EverywhereAll, compilable_iff_everywhere, compilableAll_iff_everywhere]

end

theorem mem_of_requireColumn {t : Table} {names : List String} {columns : List Column}
    (h : names.mapM (requireColumn t) = .ok columns) : ∀ n ∈ names, t.Has n :=
  fun n hn => requireColumn_eq_ok_iff.1 (exists_forall₂_iff.1 ⟨columns, mapM_eq_ok_iff.1 h⟩ n hn)

theorem fits_of_selectedColumns {t : Table} {hop : Hop} {columns : List Column}
    (h : selectedColumns t hop = .ok columns) : Fits t hop := by
  have few := selectedColumns_eq_ok h
  rw [selectedColumns, if_neg (by omega)] at h
  obtain ⟨-, -, h⟩ := bind_eq_ok_iff.1 h
  obtain ⟨own, selected, h⟩ := bind_eq_ok_iff.1 h
  obtain ⟨position, placed, -⟩ := bind_eq_ok_iff.1 h
  refine ⟨mem_of_requireColumn selected, ?_⟩
  intro o ho
  exact requireColumn_eq_ok_iff.1
    (exists_forall₂_iff.1 ⟨position, mapM_eq_ok_iff.1 placed⟩ o ho)

theorem real_of_compile {parent : TableId} {parentAlias : Option String} {tableAlias : String}
    {hop : Hop} {children : List Extent} {q : Subquery} {e : RelationEnd}
    (h : compile m parent parentAlias tableAlias ⟨hop, children⟩ = .ok q)
    (found : relationOf m parent hop = .ok e) : (m.target e.id).name.isRoot = false := by
  rw [compile] at h
  obtain ⟨e', found', h⟩ := bind_eq_ok_iff.1 h
  rw [found] at found'
  cases found'
  obtain ⟨_, -, h⟩ := bind_eq_ok_iff.1 h
  obtain ⟨_, -, h⟩ := bind_eq_ok_iff.1 h
  obtain ⟨_, -, h⟩ := bind_eq_ok_iff.1 h
  obtain ⟨text, made, -⟩ := bind_eq_ok_iff.1 h
  have escaped : (m.target e.id).name.escaped = .ok text := made
  cases root : (m.target e.id).name.isRoot with
  | false => rfl
  | true =>
    rw [ObjectName.escaped, if_pos root] at escaped
    cases escaped

mutual

theorem compilable_of_compile : ∀ {x : Extent} {parent : TableId} {parentAlias : Option String}
    {tableAlias : String} {q : Subquery}, compile m parent parentAlias tableAlias x = .ok q →
      Compilable m parent x
  | ⟨hop, children⟩, parent, parentAlias, tableAlias, q, h => by
    obtain ⟨e, columns, names, subqueries, found, selected, named, compiled, -⟩ := compile_eq_ok h
    rw [Compilable]
    exact ⟨e, found, fits_of_selectedColumns selected, selectedColumns_eq_ok selected,
      real_of_compile h found, compilableAll_of_compileAll (aliasesFrom_length named) compiled⟩

theorem compilableAll_of_compileAll : ∀ {xs : List Extent} {parent : TableId}
    {parentAlias : Option String} {names : List String} {qs : List Subquery},
      names.length = xs.length → compileAll m parent parentAlias names xs = .ok qs →
        CompilableAll m parent xs
  | [], _, _, _, _, _, _ => by trivial
  | x :: xs, _, _, [], _, length, _ => by cases length
  | x :: xs, parent, parentAlias, name :: names, qs, length, h => by
    obtain ⟨q, more, compiled, compiledRest, rfl⟩ := compileAll_eq_ok h
    rw [CompilableAll]
    exact ⟨compilable_of_compile compiled,
      compilableAll_of_compileAll (Nat.succ.inj length) compiledRest⟩

end

theorem exists_sql_iff {root : Extent} :
    (∃ text, sql m root = .ok text) ↔ CompilableAll m Model.rootId root.children := by
  constructor
  · rintro ⟨text, h⟩
    rw [sql] at h
    obtain ⟨names, named, h⟩ := bind_eq_ok_iff.1 h
    obtain ⟨queries, compiled, -⟩ := bind_eq_ok_iff.1 h
    exact compilableAll_of_compileAll (aliasesFrom_length named) compiled
  · exact exists_sql

/-- A tree has a statement exactly if everywhere in it the selected columns and those with values
are the table's; then all columns that it names are the tables' exactly if the others are. -/
theorem sql_columns (m : Model) (root : Extent) :
    ((∃ text, sql m root = .ok text) ↔ EverywhereAll m Accepted Model.rootId root.children) ∧
      ∀ text, sql m root = .ok text →
        (EverywhereAll m NamesOwn Model.rootId root.children ↔
          EverywhereAll m RestOwn Model.rootId root.children) := by
  have accepts := (@exists_sql_iff m root).trans compilableAll_iff_everywhere
  refine ⟨accepts, ?_⟩
  intro text h
  have accepted := accepts.1 ⟨text, h⟩
  constructor
  · intro names
    exact EverywhereAll.combine (fun _ _ own _ => own.rest) names names
  · intro rest
    exact EverywhereAll.combine (fun _ _ => namesOwn_of_rest) accepted rest

def personsByBoss : Extent :=
  (Extent.root ⟨.table, 0⟩).withChild
    ⟨{ relation := some "dbo.person", flavor := ⟨.table, 0⟩, columns := ["id", "name"]
       order := [⟨"boss_id", .ascending⟩], values := [some "1"] }, []⟩

theorem sql_columns_personsByBoss : ∃ text, sql Model.staffModel personsByBoss = .ok text ∧
    EverywhereAll Model.staffModel NamesOwn Model.rootId personsByBoss.children := by
  have succeeds : (sql Model.staffModel personsByBoss).isOk = true := by decide +kernel
  obtain ⟨text, made⟩ := exists_ok_of_isOk succeeds
  obtain ⟨accepts, names⟩ := sql_columns Model.staffModel personsByBoss
  obtain ⟨⟨e, found, -, -⟩, -⟩ := accepts.1 ⟨text, made⟩
  have rest : EverywhereAll Model.staffModel RestOwn Model.rootId personsByBoss.children :=
    ⟨⟨e, found, ⟨nofun, nofun⟩, trivial⟩, trivial⟩
  exact ⟨text, made, (names text made).2 rest⟩

def byAge : Hop where
  relation := some "dbo.person"
  flavor := ⟨.table, 0⟩
  columns := ["id"]
  order := [⟨"age", .ascending⟩]

def personsByAge : Extent := (Extent.root ⟨.table, 0⟩).withChild ⟨byAge, []⟩

/-- A column that no value is given for is not looked up. -/
theorem unknown_order_accepted : sql Model.staffModel personsByAge = .ok
      ("select (select max(modify_date) from sys.objects) [@modify_date], (select [p].[id] from " ++
        "[dbo].[person] [p] order by [p].[age] for xml auto, type) for xml path('root')") ∧
    ¬EverywhereAll Model.staffModel NamesOwn Model.rootId personsByAge.children := by
  refine ⟨by decide +kernel, ?_⟩
  rintro ⟨⟨e, found, own, -⟩, -⟩
  have ageless : ((relationOf Model.staffModel Model.rootId byAge).toOption.all fun e =>
      ((Model.staffModel.target e.id).column? "age").isNone) = true := by decide +kernel
  have known := Table.isSome_column?_iff.2 (own.order ⟨"age", .ascending⟩ List.mem_cons_self)
  have found : relationOf Model.staffModel Model.rootId byAge = .ok e := found
  rw [found] at ageless
  have unknown : ((Model.staffModel.target e.id).column? "age").isNone = true := ageless
  rw [Option.isNone_iff_eq_none] at unknown
  rw [unknown] at known
  cases known

end RelationAtlas.Query
