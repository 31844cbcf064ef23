import RelationAtlas.Proofs.Query.Contents

/-! # Compiled extents

What compiling an extent gives, and in which order the texts of its filter values and scan terms
stand in the statement: once in the matching flag and, after those of the children, once more in
the condition of the position, followed by the search. -/

namespace RelationAtlas

def ScanTerm.comparand (t : ScanTerm) : String :=
  match t.option with
  | .equal value => value
  | .substring value => Query.containsPattern value

namespace Hop

def filterTexts (hop : Hop) : List String := hop.values.filterMap id

def scanTexts (hop : Hop) : List String :=
  hop.scan.toList.flatMap fun s => s.terms.map ScanTerm.comparand

end Hop

namespace Extent

mutual

/-- The texts that the query of an extent compares with, in order. -/
def texts : Extent → List String
  | ⟨hop, children⟩ => hop.filterTexts ++ textsAll children ++ (hop.filterTexts ++ hop.scanTexts)

def textsAll : List Extent → List String
  | [] => []
  | e :: es => e.texts ++ textsAll es

end

end Extent

namespace Query

theorem selectedColumns_eq_ok {t : Table} {hop : Hop} {columns : List Column}
    (h : selectedColumns t hop = .ok columns) : hop.values.length ≤ hop.order.length := by
  unfold selectedColumns at h
  split_ifs at h with short
  · cases h
  · omega

theorem compile_eq_ok {m : Model} {parent : TableId} {parentAlias : Option String}
    {tableAlias : String} {hop : Hop} {children : List Extent} {q : Subquery}
    (h : compile m parent parentAlias tableAlias ⟨hop, children⟩ = .ok q) :
    ∃ e columns names subqueries, relationOf m parent hop = .ok e ∧
      selectedColumns (m.target e.id) hop = .ok columns ∧
        aliases m (m.target e.id).id tableAlias children = .ok names ∧
          compileAll m (m.target e.id).id (some tableAlias) names children = .ok subqueries ∧
            q = ⟨selection m e parentAlias tableAlias hop columns, subqueries⟩ := by
  rw [compile] at h
  obtain ⟨e, found, h⟩ := bind_eq_ok_iff.1 h
  obtain ⟨columns, selected, h⟩ := bind_eq_ok_iff.1 h
  obtain ⟨names, named, h⟩ := bind_eq_ok_iff.1 h
  obtain ⟨subqueries, compiled, h⟩ := bind_eq_ok_iff.1 h
  obtain ⟨-, -, h⟩ := bind_eq_ok_iff.1 h
  cases h
  exact ⟨e, columns, names, subqueries, found, selected, named, compiled, rfl⟩

theorem compileAll_eq_ok {m : Model} {parent : TableId} {parentAlias : Option String}
    {name : String} {names : List String} {child : Extent} {rest : List Extent}
    {qs : List Subquery}
    (h : compileAll m parent parentAlias (name :: names) (child :: rest) = .ok qs) :
    ∃ q more, compile m parent parentAlias name child = .ok q ∧
      compileAll m parent parentAlias names rest = .ok more ∧ qs = q :: more := by
  rw [compileAll] at h
  obtain ⟨q, compiled, h⟩ := bind_eq_ok_iff.1 h
  obtain ⟨more, compiledRest, h⟩ := bind_eq_ok_iff.1 h
  cases h
  exact ⟨q, more, compiled, compiledRest, rfl⟩

/-- Nothing in a tree selects an expression as it is written. -/
def NoSelectables (hops : List Hop) : Prop := ∀ hop ∈ hops, hop.selectables = []

section Bare

variable {m : Model}

mutual

theorem compile_bare : ∀ {extent : Extent} {parent : TableId} {parentAlias : Option String}
    {tableAlias : String} {q : Subquery}, NoSelectables extent.walk →
      compile m parent parentAlias tableAlias extent = .ok q → q.Bare
  | ⟨hop, children⟩, _, _, _, q, plain, h => by
    obtain ⟨e, columns, names, subqueries, -, -, -, compiled, rfl⟩ := compile_eq_ok h
    have none : hop.selectables = [] := plain hop (by rw [Extent.walk]; exact List.mem_cons_self)
    refine ⟨?_, compileAll_bare (fun d hd => plain d ?_) compiled⟩
    · rw [selection, none]
      rfl
    · rw [Extent.walk]
      exact List.mem_cons_of_mem _ hd

theorem compileAll_bare : ∀ {children : List Extent} {parent : TableId}
    {parentAlias : Option String} {names : List String} {qs : List Subquery},
      NoSelectables (Extent.walkAll children) →
        compileAll m parent parentAlias names children = .ok qs → BareAll qs
  | [], _, _, names, qs, _, h => by
    cases names <;> cases h <;> trivial
  | child :: children, _, _, [], qs, _, h => by
    cases h
    trivial
  | child :: children, _, _, name :: names, qs, plain, h => by
    obtain ⟨q, more, compiled, compiledRest, rfl⟩ := compileAll_eq_ok h
    refine ⟨compile_bare (fun d hd => plain d ?_) compiled,
      compileAll_bare (fun d hd => plain d ?_) compiledRest⟩
    · rw [Extent.walkAll]
      exact List.mem_append_left _ hd
    · rw [Extent.walkAll]
      exact List.mem_append_right _ hd

end

end Bare

def Token.value? : Token → Option String
  | literal value => some value
  | raw _ | identifier _ => none

def valuesOf (cs : List Condition) : List String :=
  (cs.flatMap Condition.atoms).filterMap Token.value?

theorem valuesOf_cons (c : Condition) (cs : List Condition) :
    valuesOf (c :: cs) = c.atoms.filterMap Token.value? ++ valuesOf cs := by
  rw [valuesOf, List.flatMap_cons, List.filterMap_append, valuesOf]

theorem valuesOf_append (cs ds : List Condition) :
    valuesOf (cs ++ ds) = valuesOf cs ++ valuesOf ds := by
  rw [valuesOf, List.flatMap_append, List.filterMap_append, valuesOf, valuesOf]

theorem valuesOf_joinConditions (m : Model) (e : RelationEnd) (tableAlias parentAlias : String) :
    valuesOf (joinConditions m e tableAlias parentAlias) = [] := by
  rw [joinConditions]
  induction (m.relationEnd e.other).columns.zip e.columns with
  | nil => rfl
  | cons pair pairs ih => rwa [List.map_cons, valuesOf_cons]

theorem valuesOf_matchConditions (tableAlias : String)
    (position : List (Option String × OrderColumn)) :
    valuesOf (matchConditions tableAlias position) = position.filterMap Prod.fst := by
  induction position with
  | nil => rfl
  | cons p position ih =>
    obtain ⟨value, o⟩ := p
    rw [matchConditions, List.map_cons, valuesOf_cons]
    cases value with
    | none => exact ih
    | some value => exact congrArg (value :: ·) ih

theorem valuesOf_seekConditions (tableAlias : String) (keys : Nat)
    (position : List (Option String × OrderColumn)) :
    valuesOf (seekConditions tableAlias keys position) = position.filterMap Prod.fst := by
  induction position generalizing keys with
  | nil => rfl
  | cons p position ih =>
    obtain ⟨value, o⟩ := p
    rw [seekConditions]
    split_ifs with last
    · rw [List.isEmpty_iff.1 last.2]
      cases value with
      | none =>
        rw [atOrAfter]
        split_ifs <;> rfl
      | some value =>
        rw [atOrAfter]
        split_ifs <;> rfl
    · rw [valuesOf_cons, ih]
      cases value <;> rfl

theorem valuesOf_scanConditions (tableAlias : String) (terms : List ScanTerm) :
    valuesOf (terms.map (scanCondition tableAlias)) = terms.map ScanTerm.comparand := by
  induction terms with
  | nil => rfl
  | cons t terms ih =>
    rw [List.map_cons, valuesOf_cons, ih, List.map_cons, scanCondition, ScanTerm.comparand]
    cases t.option <;> rfl

theorem filterMap_fst_zip {values : List (Option String)} {order : List OrderColumn}
    (h : values.length ≤ order.length) : (values.zip order).filterMap Prod.fst =
      values.filterMap id := by
  rw [← List.map_fst_zip h, List.filterMap_map, List.map_fst_zip h]
  rfl

theorem value?_identifiers (names : List String) :
    (names.map Token.identifier).filterMap Token.value? = [] := by
  refine List.filterMap_eq_nil_iff.2 fun t ht => ?_
  obtain ⟨name, -, rfl⟩ := List.mem_map.1 ht
  rfl

theorem value?_flatMap {α : Type} (items : List α) {atoms : α → List Token}
    (none : ∀ x, (atoms x).filterMap Token.value? = []) :
    (items.flatMap atoms).filterMap Token.value? = [] := by
  rw [List.filterMap_flatMap]
  simp [none]

namespace Selection

theorem value?_firstAtoms (s : Selection) :
    s.firstAtoms.filterMap Token.value? = valuesOf s.matching := by
  rw [firstAtoms, List.filterMap_append, value?_flatMap s.columns fun c => by cases c <;> rfl,
    List.nil_append]
  split_ifs with none
  · rw [List.isEmpty_iff.1 none]
    rfl
  · rw [List.filterMap_append, valuesOf]
    exact List.append_nil _

theorem value?_tailAtoms (s : Selection) :
    s.tailAtoms.filterMap Token.value? = valuesOf s.conditions := by
  simp only [tailAtoms, List.filterMap_append]
  rw [value?_identifiers, value?_identifiers, value?_flatMap s.order fun _ => rfl,
    valuesOf]
  exact List.append_nil _

end Selection

theorem value?_atoms (own : Selection) (subqueries : List Subquery) :
    (Subquery.atoms ⟨own, subqueries⟩).filterMap Token.value? = valuesOf own.matching ++
      (atomsAll subqueries).filterMap Token.value? ++ valuesOf own.conditions := by
  rw [Subquery.atoms, List.filterMap_append, own.value?_tailAtoms]
  congr 1
  split_ifs with nothing
  · simp only [List.isEmpty_iff, List.append_eq_nil_iff] at nothing
    obtain ⟨⟨first, nested⟩, -⟩ := nothing
    have flag : valuesOf own.matching = [] := by
      rw [← own.value?_firstAtoms, ← own.atoms_firstItems, first]
      rfl
    rw [flag, ← atoms_subqueryTokens, nested]
    rfl
  · rw [List.filterMap_append, List.filterMap_append, own.value?_firstAtoms, Selection.lastAtoms,
      value?_identifiers, List.append_nil]

theorem selection_conditions (m : Model) (e : RelationEnd) (parentAlias : Option String)
    (tableAlias : String) (hop : Hop) (columns : List Column) :
    (selection m e parentAlias tableAlias hop columns).conditions =
      (parentAlias.map (joinConditions m e tableAlias)).getD [] ++
        seekConditions tableAlias hop.keyCount (hop.values.zip hop.order) ++
          hop.scan.toList.flatMap fun s => s.terms.map (scanCondition tableAlias) := by
  rw [Selection.conditions, selection, predicates, List.flatMap_append, List.flatMap_map]
  congr 1
  · exact List.flatMap_singleton' _
  · cases hop.scan with
    | none => rfl
    | some s => rfl

theorem values_selection (m : Model) (e : RelationEnd) (parentAlias : Option String)
    (tableAlias : String) {hop : Hop} (columns : List Column)
    (positioned : hop.values.length ≤ hop.order.length) :
    valuesOf (selection m e parentAlias tableAlias hop columns).matching = hop.filterTexts ∧
      valuesOf (selection m e parentAlias tableAlias hop columns).conditions =
        hop.filterTexts ++ hop.scanTexts := by
  have joins : valuesOf ((parentAlias.map (joinConditions m e tableAlias)).getD []) = [] := by
    cases parentAlias with
    | none => rfl
    | some parent => exact valuesOf_joinConditions m e tableAlias parent
  have scanned : valuesOf (hop.scan.toList.flatMap fun s =>
      s.terms.map (scanCondition tableAlias)) = hop.scanTexts := by
    rw [Hop.scanTexts]
    cases hop.scan with
    | none => rfl
    | some s => simpa using valuesOf_scanConditions tableAlias s.terms
  refine ⟨?_, ?_⟩
  · exact (valuesOf_matchConditions tableAlias _).trans (filterMap_fst_zip positioned)
  · rw [selection_conditions, valuesOf_append, valuesOf_append, joins, scanned,
      valuesOf_seekConditions, filterMap_fst_zip positioned]
    rfl

section Texts

variable {m : Model}

mutual

theorem compile_values : ∀ {extent : Extent} {parent : TableId} {parentAlias : Option String}
    {tableAlias : String} {q : Subquery},
      compile m parent parentAlias tableAlias extent = .ok q →
        q.atoms.filterMap Token.value? = extent.texts
  | ⟨hop, children⟩, _, parentAlias, tableAlias, q, h => by
    obtain ⟨e, columns, names, subqueries, -, selected, named, compiled, rfl⟩ := compile_eq_ok h
    have length := aliasesFrom_length named
    obtain ⟨flag, conditions⟩ := values_selection m e parentAlias tableAlias columns
      (selectedColumns_eq_ok selected)
    rw [value?_atoms, flag, conditions, compileAll_values length compiled, Extent.texts]

theorem compileAll_values : ∀ {children : List Extent} {parent : TableId}
    {parentAlias : Option String} {names : List String} {qs : List Subquery},
      names.length = children.length → compileAll m parent parentAlias names children = .ok qs →
        (atomsAll qs).filterMap Token.value? = Extent.textsAll children
  | [], _, _, names, qs, _, h => by
    cases names <;> cases h <;> rfl
  | child :: children, _, _, [], qs, length, h => by cases length
  | child :: children, _, _, name :: names, qs, length, h => by
    obtain ⟨q, more, compiled, compiledRest, rfl⟩ := compileAll_eq_ok h
    rw [atomsAll, List.filterMap_append, compile_values compiled,
      compileAll_values (Nat.succ.inj length) compiledRest, Extent.textsAll]

end

end Texts

end Query

end RelationAtlas
