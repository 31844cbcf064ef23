import RelationAtlas.Proofs.Query.Structure

/-! # The identifiers of a statement

What the identifiers of a statement stand for, in order. The query of an extent names the alias of
the extent and, behind it, the columns that the extent selects, seeks, searches and sorts by; the
parts of the name of its table, and the index that it has to use; and in its joins the columns of
the two ends of its relation, each with the alias of its own side. -/

namespace RelationAtlas

def Table.castsToText (t : Table) (name : String) : Bool :=
  (t.column? name).any fun c => c.type.needsTextCast

def Hop.selectsNothing (hop : Hop) : Bool :=
  hop.columns.isEmpty && hop.values.isEmpty && hop.selectables.isEmpty

namespace Query

def qualified (tableAlias : String) (columns : List String) : List String :=
  columns.flatMap fun c => [tableAlias, c]

/-- Everything comes after NULL in ascending order, so nothing is asked of a last column that begins
there. -/
def startsAtNull (keys : Nat) (position : List (Option String × OrderColumn)) : Bool :=
  decide (keys < position.length) &&
    position.getLast?.any fun (value, o) => value.isNone && o.direction != .descending

def soughtColumns (keys : Nat) (position : List (Option String × OrderColumn)) : List String :=
  let columns := position.map fun p => p.2.name
  if startsAtNull keys position then columns.dropLast else columns

def joinIdentifiers (m : Model) (e : RelationEnd) (tableAlias parentAlias : String) : List String :=
  ((m.relationEnd e.other).columns.zip e.columns).flatMap fun (own, theirs) =>
    [tableAlias, (m.table (m.relationEnd e.other).table).columnName own,
      parentAlias, (m.table e.table).columnName theirs]

def selectedIdentifiers (t : Table) (tableAlias : String) (hop : Hop) : List String :=
  (hop.columns.flatMap fun c => [tableAlias, c] ++ if t.castsToText c then [c] else []) ++
    if hop.values.isEmpty then []
    else qualified tableAlias ((hop.order.take hop.values.length).map OrderColumn.name) ++
      [matchingColumn]

def sourceIdentifiers (m : Model) (e : RelationEnd) (parentAlias : Option String)
    (tableAlias : String) (hop : Hop) : List String :=
  (m.target e.id).name.parts ++ [tableAlias] ++ hop.index.toList ++
    (parentAlias.map (joinIdentifiers m e tableAlias)).getD [] ++
    qualified tableAlias (soughtColumns hop.keyCount (hop.values.zip hop.order)) ++
    qualified tableAlias (hop.scan.toList.flatMap fun s => s.terms.map ScanTerm.column) ++
    qualified tableAlias (hop.order.map OrderColumn.name)

mutual

/-- The identifiers that the query of an extent is written with, in order. -/
def identifiers (m : Model) (parent : TableId) (parentAlias : Option String)
    (tableAlias : String) : Extent → List String
  | ⟨hop, children⟩ =>
    match relationOf m parent hop with
    | .error _ => []
    | .ok e =>
      let t := m.target e.id
      let names := (aliases m t.id tableAlias children).toOption.getD []
      (if hop.selectsNothing && children.isEmpty then ["_"]
        else selectedIdentifiers t tableAlias hop ++
          identifiersAll m t.id (some tableAlias) names children ++
            hop.selectables.map Selectable.name) ++
        sourceIdentifiers m e parentAlias tableAlias hop

def identifiersAll (m : Model) (parent : TableId) (parentAlias : Option String) :
    List String → List Extent → List String
  | name :: names, child :: rest =>
    identifiers m parent parentAlias name child ++ identifiersAll m parent parentAlias names rest
  | _, _ => []

end

def Token.identifier? : Token → Option String
  | identifier name => some name
  | raw _ | literal _ => none

def identifiersOf (ts : List Token) : List String := ts.filterMap Token.identifier?

@[simp] theorem identifiersOf_append (ts us : List Token) :
    identifiersOf (ts ++ us) = identifiersOf ts ++ identifiersOf us := List.filterMap_append

@[simp] theorem identifiersOf_identifiers (names : List String) :
    identifiersOf (names.map .identifier) = names := by
  rw [identifiersOf, List.filterMap_map]
  exact List.filterMap_some

theorem identifiersOf_flatMap {α : Type} (items : List α) (atoms : α → List Token) :
    identifiersOf (items.flatMap atoms) = items.flatMap fun x => identifiersOf (atoms x) :=
  List.filterMap_flatMap

theorem identifiersOf_equality (c : ColumnRef) (value : Option String) :
    identifiersOf (equality c value).atoms = [c.tableAlias, c.column] := by
  cases value <;> rfl

theorem soughtColumns_cons_cons (keys : Nat) (p q : Option String × OrderColumn)
    (rest : List (Option String × OrderColumn)) :
    soughtColumns keys (p :: q :: rest) = p.2.name :: soughtColumns (keys - 1) (q :: rest) := by
  have same : startsAtNull keys (p :: q :: rest) = startsAtNull (keys - 1) (q :: rest) := by
    rw [startsAtNull, startsAtNull, List.getLast?_cons_cons]
    congr 1
    simp only [List.length_cons, decide_eq_decide]
    omega
  simp only [soughtColumns, same]
  split_ifs <;> simp

theorem identifiersOf_atOrAfter (c : ColumnRef) (direction : Direction) (value : Option String) :
    identifiersOf ((atOrAfter c direction value).flatMap Condition.atoms) =
      if value.isNone && direction != .descending then [] else [c.tableAlias, c.column] := by
  cases value with
  | none => by_cases d : direction = .descending <;> simp [atOrAfter, d] <;> rfl
  | some value => by_cases d : direction = .descending <;> simp [atOrAfter, d] <;> rfl

theorem identifiersOf_seekConditions (tableAlias : String) (keys : Nat)
    (position : List (Option String × OrderColumn)) :
    identifiersOf ((seekConditions tableAlias keys position).flatMap Condition.atoms) =
      qualified tableAlias (soughtColumns keys position) := by
  induction position generalizing keys with
  | nil => rfl
  | cons p rest ih =>
    obtain ⟨value, o⟩ := p
    rw [seekConditions]
    cases rest with
    | nil =>
      -- only a last value that is no key may be one that nothing is asked for
      cases keys with
      | zero =>
        have starts : startsAtNull 0 [(value, o)] =
            (value.isNone && o.direction != .descending) := by simp [startsAtNull]
        rw [if_pos ⟨rfl, rfl⟩, identifiersOf_atOrAfter, soughtColumns, starts]
        split_ifs <;> rfl
      | succ keys =>
        rw [if_neg (by simp), List.flatMap_cons, identifiersOf_append, identifiersOf_equality,
          seekConditions, soughtColumns, startsAtNull]
        simp [qualified, identifiersOf]
    | cons q rest =>
      rw [if_neg (by simp), List.flatMap_cons, identifiersOf_append, identifiersOf_equality, ih,
        soughtColumns_cons_cons]
      rfl

/-- The rows behind a key that begin with a NULL are sought by the key only. -/
example : soughtColumns 1 [(some "7", ⟨"id", .ascending⟩), (none, ⟨"name", .ascending⟩)] =
    ["id"] := by
  decide

theorem identifiersOf_matchConditions (tableAlias : String)
    (position : List (Option String × OrderColumn)) :
    identifiersOf ((matchConditions tableAlias position).flatMap Condition.atoms) =
      qualified tableAlias (position.map fun p => p.2.name) := by
  rw [matchConditions, List.flatMap_map, identifiersOf_flatMap, qualified, List.flatMap_map]
  simp only [identifiersOf_equality]

theorem identifiersOf_joinConditions (m : Model) (e : RelationEnd)
    (tableAlias parentAlias : String) :
    identifiersOf ((joinConditions m e tableAlias parentAlias).flatMap Condition.atoms) =
      joinIdentifiers m e tableAlias parentAlias := by
  rw [joinConditions, List.flatMap_map, identifiersOf_flatMap, joinIdentifiers]
  rfl

theorem identifiersOf_scanConditions (tableAlias : String) (terms : List ScanTerm) :
    identifiersOf ((terms.map (scanCondition tableAlias)).flatMap Condition.atoms) =
      qualified tableAlias (terms.map ScanTerm.column) := by
  rw [List.flatMap_map, identifiersOf_flatMap, qualified, List.flatMap_map]
  congr 1
  funext term
  rw [scanCondition]
  cases term.option <;> rfl

theorem requireColumn_eq_ok {t : Table} {name : String} {c : Column}
    (h : requireColumn t name = .ok c) : t.column? name = some c ∧ c.name = name := by
  unfold requireColumn at h
  split at h
  · rename_i found
    cases h
    rw [Table.column?, List.findRev?_eq_find?_reverse] at found
    exact ⟨by rw [Table.column?, List.findRev?_eq_find?_reverse, found],
      by simpa using List.find?_some found⟩
  · cases h

theorem identifiersOf_selectColumn {t : Table} {name : String} {c : Column}
    (found : requireColumn t name = .ok c) (tableAlias : String) :
    identifiersOf (selectColumn tableAlias c).atoms =
      [tableAlias, name] ++ if t.castsToText name then [name] else [] := by
  obtain ⟨known, rfl⟩ := requireColumn_eq_ok found
  rw [selectColumn, Table.castsToText, known, Option.any_some]
  split_ifs <;> rfl

theorem mapM_requireColumn {t : Table} {hop : Hop} {columns : List Column}
    (h : selectedColumns t hop = .ok columns) :
    List.Forall₂ (fun name c => requireColumn t name = .ok c) hop.columns columns := by
  unfold selectedColumns at h
  split_ifs at h
  · cases h
  · obtain ⟨columns, found, h⟩ := bind_eq_ok_iff.1 h
    obtain ⟨-, -, h⟩ := bind_eq_ok_iff.1 h
    cases h
    exact mapM_eq_ok_iff.1 found

theorem identifiersOf_selectedColumns {t : Table} {names : List String} {columns : List Column}
    (found : List.Forall₂ (fun name c => requireColumn t name = .ok c) names columns)
    (tableAlias : String) :
    identifiersOf ((columns.map (selectColumn tableAlias)).flatMap SelectedColumn.atoms) =
      names.flatMap fun c => [tableAlias, c] ++ if t.castsToText c then [c] else [] := by
  induction found with
  | nil => rfl
  | cons first _ ih =>
    rw [List.map_cons, List.flatMap_cons, identifiersOf_append, ih, List.flatMap_cons,
      identifiersOf_selectColumn first]

theorem names_zip_take (values : List (Option String)) (order : List OrderColumn) :
    (values.zip order).map (fun p => p.2.name) =
      (order.take values.length).map OrderColumn.name := by
  induction values generalizing order with
  | nil => rfl
  | cons _ values ih =>
    cases order with
    | nil => rfl
    | cons o order => exact congrArg (o.name :: ·) (ih order)

section Selection

variable {m : Model} {e : RelationEnd} {parentAlias : Option String} {tableAlias : String}
  {hop : Hop} {columns : List Column}

theorem isEmpty_matchConditions (tableAlias : String) {hop : Hop}
    (positioned : hop.values.length ≤ hop.order.length) :
    (matchConditions tableAlias (hop.values.zip hop.order)).isEmpty = hop.values.isEmpty := by
  rw [Bool.eq_iff_iff, List.isEmpty_iff_length_eq_zero, List.isEmpty_iff_length_eq_zero,
    matchConditions, List.length_map, List.length_zip]
  omega

theorem identifiersOf_firstAtoms (selected : selectedColumns (m.target e.id) hop = .ok columns) :
    identifiersOf (selection m e parentAlias tableAlias hop columns).firstAtoms =
      selectedIdentifiers (m.target e.id) tableAlias hop := by
  have flagged := isEmpty_matchConditions tableAlias (selectedColumns_eq_ok selected)
  rw [Selection.firstAtoms, selectedIdentifiers, identifiersOf_append]
  simp only [selection, flagged]
  rw [identifiersOf_selectedColumns (mapM_requireColumn selected)]
  split_ifs
  · rfl
  · rw [identifiersOf_append, identifiersOf_matchConditions, names_zip_take]
    rfl

theorem identifiersOf_tailAtoms :
    identifiersOf (selection m e parentAlias tableAlias hop columns).tailAtoms =
      sourceIdentifiers m e parentAlias tableAlias hop := by
  have joins : identifiersOf (((parentAlias.map (joinConditions m e tableAlias)).getD []).flatMap
      Condition.atoms) = (parentAlias.map (joinIdentifiers m e tableAlias)).getD [] := by
    cases parentAlias with
    | none => rfl
    | some parent => exact identifiersOf_joinConditions m e tableAlias parent
  have searched : identifiersOf ((hop.scan.toList.flatMap fun s =>
      s.terms.map (scanCondition tableAlias)).flatMap Condition.atoms) =
        qualified tableAlias (hop.scan.toList.flatMap fun s => s.terms.map ScanTerm.column) := by
    cases hop.scan with
    | none => rfl
    | some s => simpa using identifiersOf_scanConditions tableAlias s.terms
  have sorted : identifiersOf ((hop.order.map fun o =>
      ((⟨tableAlias, o.name⟩ : ColumnRef), o.direction)).flatMap fun o => o.1.atoms) =
        qualified tableAlias (hop.order.map OrderColumn.name) := by
    rw [identifiersOf_flatMap, qualified, List.flatMap_map, List.flatMap_map]
    rfl
  rw [Selection.tailAtoms, sourceIdentifiers, selection_conditions]
  simp only [identifiersOf_append, List.flatMap_append, joins, searched,
    identifiersOf_seekConditions, identifiersOf_identifiers]
  simp only [selection, sorted, List.append_assoc]
  rfl

end Selection

section Tree

variable {m : Model}

theorem compileAll_length {children : List Extent} {parent : TableId}
    {parentAlias : Option String} {names : List String} {qs : List Subquery}
    (length : names.length = children.length)
    (h : compileAll m parent parentAlias names children = .ok qs) :
    qs.length = children.length := by
  induction children generalizing names qs with
  | nil => cases names <;> cases h <;> rfl
  | cons child children ih =>
    cases names with
    | nil => cases length
    | cons name names =>
      obtain ⟨q, more, -, compiledRest, rfl⟩ := compileAll_eq_ok h
      exact congrArg (· + 1) (ih (Nat.succ.inj length) compiledRest)

theorem subqueryTokens_length (qs : List Subquery) : (subqueryTokens qs).length = qs.length := by
  induction qs with
  | nil => rfl
  | cons q qs ih => rw [subqueryTokens, List.length_cons, ih, List.length_cons]

theorem isEmpty_items {e : RelationEnd} {hop : Hop} {columns : List Column}
    {children : List Extent} {qs : List Subquery}
    (selected : selectedColumns (m.target e.id) hop = .ok columns)
    (nested : qs.length = children.length) (parentAlias : Option String) (tableAlias : String) :
    let own := selection m e parentAlias tableAlias hop columns
    (own.firstItems ++ subqueryTokens qs ++ own.lastItems).isEmpty =
      (hop.selectsNothing && children.isEmpty) := by
  have flagged := isEmpty_matchConditions tableAlias (selectedColumns_eq_ok selected)
  have same : columns = [] ↔ hop.columns = [] := by
    rw [← List.length_eq_zero_iff, ← List.length_eq_zero_iff,
      (mapM_requireColumn selected).length_eq]
  have inner : subqueryTokens qs = [] ↔ children = [] := by
    rw [← List.length_eq_zero_iff, ← List.length_eq_zero_iff, subqueryTokens_length, nested]
  rw [Bool.eq_iff_iff]
  simp only [Selection.firstItems, Selection.lastItems, selection, Hop.selectsNothing, flagged,
    Bool.and_eq_true, List.isEmpty_iff, List.append_eq_nil_iff, List.map_eq_nil_iff, same, inner]
  split_ifs with unbound
  · simp only [unbound, and_true, and_right_comm]
  · simp [unbound]

mutual

theorem compile_identifiers : ∀ {extent : Extent} {parent : TableId} {parentAlias : Option String}
    {tableAlias : String} {q : Subquery},
      compile m parent parentAlias tableAlias extent = .ok q →
        identifiersOf q.atoms = identifiers m parent parentAlias tableAlias extent
  | ⟨hop, children⟩, _, parentAlias, tableAlias, q, h => by
    obtain ⟨e, columns, names, subqueries, found, selected, named, compiled, rfl⟩ := compile_eq_ok h
    have length := aliasesFrom_length named
    have nested := compileAll_identifiers length compiled
    have nothing :=
      isEmpty_items selected (compileAll_length length compiled) parentAlias tableAlias
    rw [Subquery.atoms, identifiers, found, identifiersOf_append, identifiersOf_tailAtoms, nothing]
    simp only [named, Except.toOption, Option.getD_some]
    split_ifs
    · rfl
    · rw [identifiersOf_append, identifiersOf_append, identifiersOf_firstAtoms selected, nested,
        Selection.lastAtoms, identifiersOf_identifiers]
      simp [selection, expression]

theorem compileAll_identifiers : ∀ {children : List Extent} {parent : TableId}
    {parentAlias : Option String} {names : List String} {qs : List Subquery},
      names.length = children.length → compileAll m parent parentAlias names children = .ok qs →
        identifiersOf (atomsAll qs) = identifiersAll m parent parentAlias names children
  | [], _, _, names, qs, _, h => by
    cases names <;> cases h <;> rfl
  | child :: children, _, _, [], qs, length, h => by cases length
  | child :: children, _, _, name :: names, qs, length, h => by
    obtain ⟨q, more, compiled, compiledRest, rfl⟩ := compileAll_eq_ok h
    rw [atomsAll, identifiersOf_append, compile_identifiers compiled,
      compileAll_identifiers (Nat.succ.inj length) compiledRest, identifiersAll]

end

end Tree

def Lexeme.identifier? (l : Lexeme) : Option String := l.atom?.bind Token.identifier?

/-- A statement without selectables splits completely, and its identifiers are the attribute of the
fingerprint and, extent by extent, the names that the model and the extents give. -/
theorem sql_identifiers {m : Model} {root : Extent} {text : String}
    (plain : NoSelectables root.walk) (accepted : sql m root = .ok text) :
    ∃ lexemes names, lexemes? text = some lexemes ∧
      aliases m Model.rootId "" root.children = .ok names ∧
        lexemes.filterMap Lexeme.identifier? = ("@" ++ fingerprintAttribute) ::
          identifiersAll m Model.rootId none names root.children := by
  rw [sql_eq] at accepted
  cases compiled : queriesOf m root with
  | error e =>
    rw [compiled] at accepted
    cases accepted
  | ok queries =>
    rw [compiled] at accepted
    cases accepted
    obtain ⟨names, named, nested⟩ := bind_eq_ok_iff.1 compiled
    obtain ⟨lexes, atoms, -⟩ := read_statement plain compiled
    refine ⟨_, names, lexes, named, ?_⟩
    rw [show Lexeme.identifier? = fun l => l.atom?.bind Token.identifier? from rfl,
      ← List.filterMap_filterMap, atoms, ← compileAll_identifiers (aliasesFrom_length named) nested]
    rfl

end Query

end RelationAtlas
