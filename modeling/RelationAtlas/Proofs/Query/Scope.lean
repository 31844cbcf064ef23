import RelationAtlas.Proofs.Query.Alias
import RelationAtlas.Proofs.Query.Structure

/-! # What aliases mean in nested queries

A column reference is read from the query that it stands in outwards, and its alias means the first
query that has it. Where no alias is given, an alias continues the one of the query around it. So
no query hides another, and a join compares a table with that of the query directly around it. -/

namespace RelationAtlas.Query

inductive Nested (queries : List Subquery) : List Subquery → Subquery → Prop
  | outermost {q : Subquery} (listed : q ∈ queries) : Nested queries [] q
  | inside {p q : Subquery} {outer : List Subquery} (around : Nested queries outer p)
      (listed : q ∈ p.subqueries) : Nested queries (p :: outer) q

/-- How far out the query is that an alias means, among queries from the inside outwards. -/
def level? (scopes : List Subquery) (tableAlias : String) : Option Nat :=
  scopes.findIdx? fun q => q.tableAlias == tableAlias

section Levels

variable {p q : Subquery} {outer : List Subquery}

theorem level?_own : level? (q :: outer) q.tableAlias = some 0 := by
  rw [level?, List.findIdx?_cons, if_pos (beq_self_eq_true _)]

theorem level?_around (apart : p.tableAlias ≠ q.tableAlias) :
    level? (q :: p :: outer) p.tableAlias = some 1 := by
  have hidden : ¬(q.tableAlias == p.tableAlias) = true := by simpa using apart.symm
  rw [level?, List.findIdx?_cons, if_neg hidden, ← level?, level?_own]
  rfl

end Levels

structure Scoped (outer : List Subquery) (q : Subquery) : Prop where
  apart : ∀ p ∈ outer, q.tableAlias ≠ p.tableAlias
  joins : ∀ c d, Condition.joins c d ∈ q.conditions →
    level? (q :: outer) c.tableAlias = some 0 ∧ level? (q :: outer) d.tableAlias = some 1

def Unnamed (children : List Extent) : Prop :=
  ∀ hop ∈ Extent.walkAll children, hop.tableAlias = none

theorem Unnamed.of_mem {children : List Extent} (h : Unnamed children) {c : Extent}
    (hc : c ∈ children) : c.tableAlias = none ∧ Unnamed c.children := by
  induction children with
  | nil => cases hc
  | cons child rest ih =>
    rw [Unnamed, Extent.walkAll, List.forall_mem_append] at h
    obtain ⟨own, later⟩ := h
    rcases List.mem_cons.1 hc with rfl | hc
    · obtain ⟨hop, children⟩ := c
      rw [Extent.walk, List.forall_mem_cons] at own
      exact own
    · exact ih later hc

section Conditions

variable {c d : ColumnRef} {tableAlias : String}

theorem joins_not_mem_atOrAfter (o : ColumnRef) (direction : Direction) (value : Option String) :
    Condition.joins c d ∉ atOrAfter o direction value := by
  by_cases descends : direction = .descending
  · cases value with
    | none => simp [atOrAfter, descends]
    | some value => simp [atOrAfter, descends]
  · cases value with
    | none => simp [atOrAfter, descends]
    | some value => simp [atOrAfter, descends]

theorem joins_not_mem_seekConditions (keys : Nat) (position : List (Option String × OrderColumn)) :
    Condition.joins c d ∉ seekConditions tableAlias keys position := by
  induction position generalizing keys with
  | nil => exact List.not_mem_nil
  | cons first rest ih =>
    obtain ⟨value, o⟩ := first
    rw [seekConditions]
    split_ifs with last
    · exact joins_not_mem_atOrAfter _ _ _
    · intro h
      rcases List.mem_cons.1 h with same | h
      · cases value <;> cases same
      · exact ih _ h

theorem joins_not_mem_scanConditions (terms : List ScanTerm) :
    Condition.joins c d ∉ terms.map (scanCondition tableAlias) := by
  intro h
  obtain ⟨term, -, same⟩ := List.mem_map.1 h
  rw [scanCondition] at same
  cases option : term.option <;> rw [option] at same <;> cases same

/-- Only a query below another one joins, and it joins its own table with that of the other. -/
theorem tableAlias_of_joins {m : Model} {e : RelationEnd} {parentAlias : Option String} {hop : Hop}
    {columns : List Column}
    (h : Condition.joins c d ∈ (selection m e parentAlias tableAlias hop columns).conditions) :
    c.tableAlias = tableAlias ∧ parentAlias = some d.tableAlias := by
  rw [selection_conditions, List.mem_append, List.mem_append] at h
  rcases h with (joins | seek) | scan
  · cases parentAlias with
    | none => cases joins
    | some parent =>
      obtain ⟨pair, -, same⟩ := List.mem_map.1 joins
      cases same
      exact ⟨rfl, rfl⟩
  · exact absurd seek (joins_not_mem_seekConditions _ _)
  · obtain ⟨s, -, scan⟩ := List.mem_flatMap.1 scan
    exact absurd scan (joins_not_mem_scanConditions _)

end Conditions

theorem tableAlias_of_compile {m : Model} {parent : TableId} {parentAlias : Option String}
    {tableAlias : String} {x : Extent} {q : Subquery}
    (h : compile m parent parentAlias tableAlias x = .ok q) : q.tableAlias = tableAlias := by
  obtain ⟨hop, children⟩ := x
  obtain ⟨_, _, _, _, -, -, -, -, rfl⟩ := compile_eq_ok h
  rfl

theorem exists_compile_of_mem {m : Model} {parent : TableId} {parentAlias : Option String}
    {children : List Extent} {names : List String} {qs : List Subquery}
    (h : compileAll m parent parentAlias names children = .ok qs) {q : Subquery} (hq : q ∈ qs) :
    ∃ x ∈ children.zip names, compile m parent parentAlias x.2 x.1 = .ok q := by
  induction children generalizing names qs with
  | nil => cases names <;> cases h <;> cases hq
  | cons child rest ih =>
    cases names with
    | nil =>
      cases h
      cases hq
    | cons name names =>
      obtain ⟨first, more, compiled, compiledRest, rfl⟩ := compileAll_eq_ok h
      rcases List.mem_cons.1 hq with rfl | hq
      · exact ⟨(child, name), List.mem_cons_self, compiled⟩
      · obtain ⟨x, hx, compiled⟩ := ih compiledRest hq
        exact ⟨x, List.mem_cons_of_mem _ hx, compiled⟩

structure Compiled (m : Model) (outer : List Subquery) (q : Subquery) : Prop where
  made : ∃ parent x, Unnamed x.children ∧
    compile m parent (outer.head?.map fun p => p.tableAlias) q.tableAlias x = .ok q
  longer : ∀ p ∈ outer, ProperPrefix p.tableAlias q.tableAlias

section Compiled

variable {m : Model} {parent : TableId} {outer queries : List Subquery} {q : Subquery}

theorem compiled_of_siblings {stem : String} {children : List Extent} {names : List String}
    {qs : List Subquery} (unnamed : Unnamed children)
    (named : aliases m parent stem children = .ok names)
    (compiled : compileAll m parent (outer.head?.map fun p => p.tableAlias) names children = .ok qs)
    (continued : ∀ p ∈ outer, p.tableAlias = stem ∨ ProperPrefix p.tableAlias stem)
    (hq : q ∈ qs) : Compiled m outer q := by
  obtain ⟨⟨x, name⟩, hx, made⟩ := exists_compile_of_mem compiled hq
  obtain ⟨own, below⟩ := unnamed.of_mem (List.of_mem_zip hx).1
  have longer := (aliases_disciplined named).longer _ hx own
  have same := tableAlias_of_compile made
  refine ⟨⟨parent, x, below, by rw [same]; exact made⟩, ?_⟩
  intro p hp
  rw [same]
  -- what continues the alias of the query around continues those further out
  rcases continued p hp with stem | further
  · rw [stem]
    exact longer
  · exact further.trans longer

theorem Compiled.inside {p : Subquery} (h : Compiled m outer p) (hq : q ∈ p.subqueries) :
    Compiled m (p :: outer) q := by
  obtain ⟨⟨parent, ⟨hop, children⟩, unnamed, made⟩, longer⟩ := h
  obtain ⟨e, columns, names, subqueries, -, -, named, compiled, same⟩ := compile_eq_ok made
  have nested : p.subqueries = subqueries := by rw [same]
  rw [nested] at hq
  refine compiled_of_siblings unnamed named compiled ?_ hq
  intro p' hp'
  rcases List.mem_cons.1 hp' with rfl | further
  · exact .inl rfl
  · exact .inr (longer p' further)

theorem compiled_of_nested {root : Extent} (unnamed : Unnamed root.children)
    (compiled : queriesOf m root = .ok queries) (h : Nested queries outer q) :
    Compiled m outer q := by
  induction h with
  | outermost listed =>
    obtain ⟨names, named, made⟩ := bind_eq_ok_iff.1 compiled
    exact compiled_of_siblings unnamed named made nofun listed
  | inside around listed ih => exact ih.inside listed

theorem scoped_of_compiled (h : Compiled m outer q) : Scoped outer q := by
  refine ⟨fun p hp => (h.longer p hp).ne.symm, ?_⟩
  intro c d joined
  obtain ⟨parent, ⟨hop, children⟩, -, made⟩ := h.made
  obtain ⟨e, columns, names, subqueries, -, -, -, -, same⟩ := compile_eq_ok made
  rw [same] at joined
  obtain ⟨own, around⟩ := tableAlias_of_joins joined
  refine ⟨by rw [own]; exact level?_own, ?_⟩
  cases outer with
  | nil => cases around
  | cons p outer =>
    rw [← Option.some.inj around]
    exact level?_around (h.longer p List.mem_cons_self).ne

end Compiled

/-- Siblings whose relations are found get one alias each, and a derived one is longer than the stem
and like no other. So in the statement of a tree without given aliases the alias of a query is that
of none around it, and the second alias of a join means the query directly around. -/
theorem alias_discipline (m : Model) :
    (∀ parent stem children, (∀ c ∈ children, ∃ e, relationOf m parent c.toHop = .ok e) →
      ∃ names, aliases m parent stem children = .ok names ∧
        Disciplined m parent stem children names) ∧
    ∀ root text, Unnamed root.children → sql m root = .ok text →
      ∃ queries, queriesOf m root = .ok queries ∧ text = render (statementTokens queries) ∧
        ∀ outer q, Nested queries outer q → Scoped outer q := by
  constructor
  · intro parent stem children resolves
    obtain ⟨names, named⟩ := exists_aliases resolves stem
    exact ⟨names, named, aliases_disciplined named⟩
  · intro root text unnamed accepted
    rw [sql_eq] at accepted
    cases compiled : queriesOf m root with
    | error e =>
      rw [compiled] at accepted
      cases accepted
    | ok queries =>
      rw [compiled] at accepted
      cases accepted
      exact ⟨queries, rfl, rfl, fun _ _ nested =>
        scoped_of_compiled (compiled_of_nested unnamed compiled nested)⟩

def reviews : List Extent :=
  [⟨{ relation := some "P_person", flavor := ⟨.table, 0⟩ }, []⟩,
    ⟨{ relation := some "P_person_ops", flavor := ⟨.table, 0⟩ }, []⟩,
    ⟨{ relation := some "P_person", flavor := ⟨.table, 0⟩, tableAlias := some "pr2" }, []⟩]

def personsWithStaff : Extent :=
  (Extent.root ⟨.table, 0⟩).withChild
    ⟨{ relation := some "dbo.person", flavor := ⟨.table, 0⟩ },
      [⟨{ relation := some "P_boss", flavor := ⟨.table, 0⟩ }, []⟩]⟩

theorem alias_discipline_staff :
    (aliases Model.staffModel 1 "p" reviews = .ok ["pr", "pr3", "pr2"] ∧
      Disciplined Model.staffModel 1 "p" reviews ["pr", "pr3", "pr2"]) ∧
    ∃ queries p q, queriesOf Model.staffModel personsWithStaff = .ok queries ∧
      Nested queries [p] q ∧ Scoped [p] q ∧
        .joins ⟨"pp", "boss_id"⟩ ⟨"p", "id"⟩ ∈ q.conditions ∧ level? [q, p] "p" = some 1 := by
  obtain ⟨siblings, nested⟩ := alias_discipline Model.staffModel
  constructor
  · have resolves : ∀ c ∈ reviews, ∃ e, relationOf Model.staffModel 1 c.toHop = .ok e := by
      have each : (reviews.all fun c => (relationOf Model.staffModel 1 c.toHop).isOk) = true := by
        decide +kernel
      exact fun c hc => exists_ok_of_isOk (List.all_eq_true.1 each c hc)
    obtain ⟨names, named, disciplined⟩ := siblings 1 "p" reviews resolves
    have made : aliases Model.staffModel 1 "p" reviews = .ok ["pr", "pr3", "pr2"] := by
      decide +kernel
    rw [made] at named
    cases named
    exact ⟨made, disciplined⟩
  · have succeeds : (sql Model.staffModel personsWithStaff).isOk = true := by decide +kernel
    obtain ⟨text, accepted⟩ := exists_ok_of_isOk succeeds
    have unnamed : Unnamed personsWithStaff.children := by
      rw [Unnamed]
      decide
    obtain ⟨queries, compiled, -, each⟩ := nested _ text unnamed accepted
    have shape : (queriesOf Model.staffModel personsWithStaff).toOption.map (fun queries =>
        queries.map fun p => p.subqueries.map fun q => q.conditions) =
          some [[[.joins ⟨"pp", "boss_id"⟩ ⟨"p", "id"⟩]]] := by decide +kernel
    rw [compiled] at shape
    obtain ⟨p, rfl, below⟩ := List.map_eq_singleton_iff.1 (Option.some.inj shape)
    obtain ⟨q, listed, conditions⟩ := List.map_eq_singleton_iff.1 below
    have inside : Nested [p] [p] q :=
      .inside (.outermost List.mem_cons_self) (listed ▸ List.mem_cons_self)
    have joined : Condition.joins ⟨"pp", "boss_id"⟩ ⟨"p", "id"⟩ ∈ q.conditions := by
      rw [conditions]
      exact List.mem_cons_self
    have own := each _ _ inside
    exact ⟨[p], p, q, compiled, inside, own, joined, (own.joins _ _ joined).2⟩

end RelationAtlas.Query
