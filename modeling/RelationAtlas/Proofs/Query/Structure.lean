import RelationAtlas.Proofs.Model.RelationGraph
import RelationAtlas.Proofs.Query.Compiled
import RelationAtlas.Proofs.Query.Masked

/-! # Texts do not change the structure of a statement

Extents that are masked alike compile to tokens that are masked alike, so their statements split
into the same lexemes but for the values of literals. -/

namespace RelationAtlas.Query

namespace Lexeme

def masked : Lexeme → Lexeme
  | literal true _ => literal true ""
  | l => l

def SameButText (l l' : Lexeme) : Prop :=
  l = l' ∨ ∃ value value', l = literal true value ∧ l' = literal true value'

theorem masked_cases (l : Lexeme) : (∃ value, l = literal true value) ∨ l.masked = l := by
  rcases l with _ | _ | _ | ⟨_ | _, value⟩
  · exact .inr rfl
  · exact .inr rfl
  · exact .inr rfl
  · exact .inr rfl
  · exact .inl ⟨value, rfl⟩

theorem eq_literal_of_masked {l : Lexeme} {value : String} (h : l.masked = literal true value) :
    ∃ value', l = literal true value' := by
  rcases l.masked_cases with national | same
  · exact national
  · exact ⟨value, same ▸ h⟩

theorem sameButText_of_masked {l l' : Lexeme} (h : l.masked = l'.masked) : l.SameButText l' := by
  rcases l.masked_cases with ⟨value, rfl⟩ | same
  · obtain ⟨value', rfl⟩ := eq_literal_of_masked h.symm
    exact .inr ⟨value, value', rfl, rfl⟩
  · rcases l'.masked_cases with ⟨value', rfl⟩ | same'
    · obtain ⟨value, rfl⟩ := eq_literal_of_masked h
      exact .inr ⟨value, value', rfl, rfl⟩
    · exact .inl (by rw [← same, h, same'])

end Lexeme

def queriesOf (m : Model) (root : Extent) : Except BrowseError (List Subquery) := do
  let names ← aliases m Model.rootId "" root.children
  compileAll m Model.rootId none names root.children

theorem sql_eq (m : Model) (root : Extent) :
    sql m root = (queriesOf m root).map fun queries => render (statementTokens queries) := by
  rw [sql, queriesOf]
  cases aliases m Model.rootId "" root.children with
  | error e => rfl
  | ok names => cases compileAll m Model.rootId none names root.children <;> rfl

theorem queriesOf_masked (m : Model) (root : Extent) :
    (queriesOf m root.masked).map shapesOf = (queriesOf m root).map shapesOf := by
  rw [queriesOf, queriesOf, root.children_masked, aliases_masked]
  exact map_bind_same fun names => compileAll_masked root.children Model.rootId none names

theorem masked_statementTokens {qs rs : List Subquery} (h : shapesOf qs = shapesOf rs) :
    (statementTokens qs).map Token.masked = (statementTokens rs).map Token.masked := by
  simp only [statementTokens, List.map_append, masked_joined, List.map_cons]
  rw [← shapesOf, h, shapesOf]

theorem masked_lexemes (ts : List Token) : (ts.flatMap Token.lexemes).map Lexeme.masked =
    ((ts.map Token.masked).flatMap Token.lexemes).map Lexeme.masked := by
  have same : ∀ t : Token, t.lexemes.map Lexeme.masked = t.masked.lexemes.map Lexeme.masked := by
    intro t
    cases t <;> rfl
  rw [List.map_flatMap, List.map_flatMap, List.flatMap_map]
  exact congrArg (fun f => ts.flatMap f) (funext same)

theorem noSelectables_of_masked {a b : Extent} (alike : a.masked = b.masked)
    (plain : NoSelectables a.walk) : NoSelectables b.walk := by
  have walks : a.walk.map Hop.masked = b.walk.map Hop.masked := by
    rw [← a.walk_masked, ← b.walk_masked, alike]
  intro hop hhop
  have listed := List.mem_map_of_mem (f := Hop.masked) hhop
  rw [← walks] at listed
  obtain ⟨own, ho, same⟩ := List.mem_map.1 listed
  have := plain own ho
  rw [← show own.masked.selectables = own.selectables from rfl, same] at this
  exact this

def Lexeme.national? (l : Lexeme) : Option String := l.atom?.bind Token.value?

theorem read_statement {m : Model} {root : Extent} {queries : List Subquery}
    (plain : NoSelectables root.walk) (compiled : queriesOf m root = .ok queries) :
    let lexemes := (statementTokens queries).flatMap Token.lexemes
    lexemes? (render (statementTokens queries)) = some lexemes ∧
      lexemes.filterMap Lexeme.atom? = statementAtoms queries ∧
        lexemes.filterMap Lexeme.national? = Extent.textsAll root.children := by
  obtain ⟨names, named, nested⟩ := bind_eq_ok_iff.1 compiled
  have inner : NoSelectables (Extent.walkAll root.children) := by
    obtain ⟨hop, children⟩ := root
    intro d hd
    exact plain d (by rw [Extent.walk]; exact List.mem_cons_of_mem _ hd)
  have reads := reads_statement (compileAll_bare inner nested)
  have atoms := reads.atoms.trans (atoms_statementTokens queries)
  refine ⟨lexemes?_render reads, atoms, ?_⟩
  have values := compileAll_values (aliasesFrom_length named) nested
  have national : Lexeme.national? = fun l => l.atom?.bind Token.value? := rfl
  rw [national, ← List.filterMap_filterMap, atoms, ← values]
  rfl

/-- Two outermost extents without selectables that differ in nothing but the texts of their filter
values and scan terms: if one compiles so does the other, both statements split completely, and
their lexemes differ only in the values of national literals, which are those texts in order. The
identifiers are what the queries are made of. -/
theorem sql_sameButText {m : Model} {a b : Extent} {text : String} (alike : a.masked = b.masked)
    (plain : NoSelectables a.walk) (accepted : sql m a = .ok text) :
    ∃ other la lb queries others, sql m b = .ok other ∧ lexemes? text = some la ∧
      lexemes? other = some lb ∧ List.Forall₂ Lexeme.SameButText la lb ∧
        la.filterMap Lexeme.national? = Extent.textsAll a.children ∧
          lb.filterMap Lexeme.national? = Extent.textsAll b.children ∧
            queriesOf m a = .ok queries ∧ la.filterMap Lexeme.atom? = statementAtoms queries ∧
              queriesOf m b = .ok others ∧ lb.filterMap Lexeme.atom? = statementAtoms others := by
  rw [sql_eq] at accepted ⊢
  have shapes : (queriesOf m a).map shapesOf = (queriesOf m b).map shapesOf := by
    rw [← queriesOf_masked m a, alike, queriesOf_masked m b]
  cases compiled : queriesOf m a with
  | error e =>
    rw [compiled] at accepted
    cases accepted
  | ok queries =>
    rw [compiled] at accepted shapes
    cases accepted
    cases compiled' : queriesOf m b with
    | error e =>
      rw [compiled'] at shapes
      cases shapes
    | ok others =>
      rw [compiled'] at shapes
      obtain ⟨la, atoms, values⟩ := read_statement plain compiled
      obtain ⟨lb, atoms', values'⟩ := read_statement (noSelectables_of_masked alike plain) compiled'
      refine ⟨_, _, _, queries, others, rfl, la, lb, ?_, values, values', rfl, atoms, rfl, atoms'⟩
      have masked : ((statementTokens queries).flatMap Token.lexemes).map Lexeme.masked =
          ((statementTokens others).flatMap Token.lexemes).map Lexeme.masked := by
        rw [masked_lexemes, masked_statementTokens (Except.ok.inj shapes), ← masked_lexemes]
      rw [← List.forall₂_eq_eq_eq, List.forall₂_map_left_iff, List.forall₂_map_right_iff] at masked
      exact masked.imp fun _ _ => Lexeme.sameButText_of_masked

def staffSearch (key text : String) : Extent :=
  (Extent.root ⟨.page, 1⟩).withChild
    ⟨{ relation := some "dbo.person", flavor := ⟨.page, 1⟩, columns := ["id", "name"]
       order := [⟨"id", .ascending⟩], values := [some key]
       scan := some ⟨text, [⟨"name", .substring text⟩]⟩ }, []⟩

theorem sql_sameButText_staff : ∃ text other la lb,
    sql Model.staffModel (staffSearch "2" "bob") = .ok text ∧
      sql Model.staffModel (staffSearch "2' or 1 = 1 --" "]'_") = .ok other ∧
        lexemes? text = some la ∧ lexemes? other = some lb ∧
          List.Forall₂ Lexeme.SameButText la lb ∧ lb.filterMap Lexeme.national? =
            ["2' or 1 = 1 --", "2' or 1 = 1 --", "%]'[_]%"] := by
  have succeeds : (sql Model.staffModel (staffSearch "2" "bob")).isOk = true := by decide +kernel
  obtain ⟨text, accepted⟩ := exists_ok_of_isOk succeeds
  have plain : NoSelectables (staffSearch "2" "bob").walk := by
    intro hop hhop
    simp only [staffSearch, Extent.root, Extent.withChild, Extent.walk, Extent.walkAll,
      List.nil_append, List.append_nil, List.mem_cons, List.not_mem_nil, or_false] at hhop
    rcases hhop with rfl | rfl <;> rfl
  obtain ⟨other, la, lb, -, -, compiled, split, split', same, -, values, -⟩ :=
    sql_sameButText (a := staffSearch "2" "bob") (b := staffSearch "2' or 1 = 1 --" "]'_") rfl plain
      accepted
  refine ⟨text, other, la, lb, accepted, compiled, split, split', same, values.trans ?_⟩
  decide +kernel

end RelationAtlas.Query
