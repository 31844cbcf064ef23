import RelationAtlas.Entity.Materialize
import RelationAtlas.Proofs.Entity.Document
import RelationAtlas.Proofs.Query.Compiled

/-! # Rows line up with templates

Compiling an extent, making its template and reading its rows find the aliases and the ends of a
tree each on their own, from the table and the alias that they have reached. What compiles is found
at every place of the tree, so that the template is there and every document is read; and what is
found twice is the same, so that each row has the shape of the placeholder at its place. -/

namespace RelationAtlas

namespace Query

mutual

def Resolves (m : Model) (table : TableId) (tableAlias : String) : Extent → Prop
  | ⟨_, children⟩ => ∃ names, aliases m table tableAlias children = .ok names ∧
      ResolvesAll m table names children

def ResolvesAll (m : Model) (table : TableId) : List String → List Extent → Prop
  | name :: names, child :: rest =>
    (∃ e, relationOf m table child.toHop = .ok e ∧ Resolves m (m.target e.id).id name child) ∧
      ResolvesAll m table names rest
  | _, _ => True

end

variable {m : Model}

mutual

theorem resolves_of_compile : ∀ {extent : Extent} {parent : TableId} {parentAlias : Option String}
    {tableAlias : String} {q : Subquery}, compile m parent parentAlias tableAlias extent = .ok q →
      ∃ e, relationOf m parent extent.toHop = .ok e ∧
        Resolves m (m.target e.id).id tableAlias extent
  | ⟨hop, children⟩, _, _, _, _, h => by
    obtain ⟨e, _, names, _, found, -, named, compiled, -⟩ := compile_eq_ok h
    exact ⟨e, found, names, named, resolvesAll_of_compileAll compiled⟩

theorem resolvesAll_of_compileAll : ∀ {children : List Extent} {parent : TableId}
    {parentAlias : Option String} {names : List String} {qs : List Subquery},
      compileAll m parent parentAlias names children = .ok qs → ResolvesAll m parent names children
  | [], _, _, names, _, _ => by cases names <;> trivial
  | child :: children, _, _, [], _, _ => trivial
  | child :: children, _, _, name :: names, _, h => by
    obtain ⟨q, more, compiled, compiledRest, -⟩ := compileAll_eq_ok h
    exact ⟨resolves_of_compile compiled, resolvesAll_of_compileAll compiledRest⟩

end

theorem resolves_of_sql {root : Extent} {text : String} (h : sql m root = .ok text) :
    Resolves m Model.rootId "" root := by
  obtain ⟨names, named, h⟩ := bind_eq_ok_iff.1 h
  obtain ⟨queries, compiled, -⟩ := bind_eq_ok_iff.1 h
  obtain ⟨hop, children⟩ := root
  exact ⟨names, named, resolvesAll_of_compileAll compiled⟩

end Query

namespace Entity

open Xml (Element)

mutual

/-- A row has the values that a placeholder has, and list by list rows of the same relation, under
the same alias and along the same end, that are like the one placeholder of the list. -/
def Mirrors : Entity → Entity → Prop
  | ⟨blanks, _, templates⟩, row =>
    row.values.names = blanks.names ∧ MirrorsAll templates row.related

def MirrorsAll : List Related → List Related → Prop
  | ⟨name, tableAlias, endId, [placeholder]⟩ :: templates, r :: related =>
    (r.name = name ∧ r.tableAlias = tableAlias ∧ r.endId = endId ∧
      ∀ row ∈ r.entities, Mirrors placeholder row) ∧ MirrorsAll templates related
  | [], [] => True
  | _, _ => False

end

variable {m : Model}

section Success

open Query (Resolves ResolvesAll)

mutual

theorem exists_templateOf : ∀ {extent : Extent} {table : TableId} {tableAlias : String},
    Resolves m table tableAlias extent →
      ∃ placeholder, templateOf m table tableAlias extent = .ok placeholder
  | ⟨hop, children⟩, _, _, ⟨_, named, below⟩ => by
    obtain ⟨related, made⟩ := exists_templatesOf below
    rw [templateOf]
    exact exists_bind_ok named (exists_bind_ok made ⟨_, rfl⟩)

theorem exists_templatesOf : ∀ {children : List Extent} {table : TableId} {names : List String},
    ResolvesAll m table names children →
      ∃ related, templatesOf m table names children = .ok related
  | [], _, names, _ => ⟨[], by cases names <;> rfl⟩
  | _ :: _, _, [], _ => ⟨[], rfl⟩
  | child :: children, _, name :: names, ⟨⟨e, found, below⟩, later⟩ => by
    obtain ⟨placeholder, made⟩ := exists_templateOf below
    obtain ⟨related, madeRest⟩ := exists_templatesOf later
    rw [templatesOf]
    exact exists_bind_ok found (exists_bind_ok made (exists_bind_ok madeRest ⟨_, rfl⟩))

end

mutual

theorem exists_ofElement : ∀ {extent : Extent} {table : TableId} {tableAlias : String},
    Resolves m table tableAlias extent →
      ∀ e : Element, ∃ row, Entity.ofElement m table tableAlias extent e = .ok row
  | ⟨hop, children⟩, _, _, ⟨_, named, below⟩, e => by
    obtain ⟨related, read⟩ := exists_relatedOf below e
    rw [Entity.ofElement]
    exact exists_bind_ok named (exists_bind_ok read ⟨_, rfl⟩)

theorem exists_relatedOf : ∀ {children : List Extent} {table : TableId} {names : List String},
    ResolvesAll m table names children →
      ∀ e : Element, ∃ related, relatedOf m table names children e = .ok related
  | [], _, names, _, _ => ⟨[], by cases names <;> rfl⟩
  | _ :: _, _, [], _, _ => ⟨[], rfl⟩
  | child :: children, _, name :: names, ⟨⟨d, found, below⟩, later⟩, e => by
    obtain ⟨rows, readRows⟩ := exists_forall₂_iff.2 fun row (_ : row ∈
      e.childrenNamed (XmlName.encode name)) => exists_ofElement below row
    obtain ⟨related, readRest⟩ := exists_relatedOf later e
    rw [relatedOf]
    exact exists_bind_ok found
      (exists_bind_ok (mapM_eq_ok_iff.2 readRows) (exists_bind_ok readRest ⟨_, rfl⟩))

end

end Success

section Shape

theorem names_valuesOf (hop : Hop) (given given' : NameMap String) :
    (valuesOf hop given).names = (valuesOf hop given').names :=
  NameMap.names_eq_of_mem fun _ => mem_names_valuesOf.trans mem_names_valuesOf.symm

mutual

theorem mirrors_of_ofElement : ∀ {extent : Extent} {table : TableId} {tableAlias : String}
    {e : Element} {placeholder row : Entity},
      templateOf m table tableAlias extent = .ok placeholder →
      Entity.ofElement m table tableAlias extent e = .ok row → placeholder.Mirrors row
  | ⟨hop, children⟩, _, _, e, placeholder, row, made, read => by
    rw [templateOf] at made
    obtain ⟨names, named, made⟩ := bind_eq_ok_iff.1 made
    obtain ⟨templates, madeAll, made⟩ := bind_eq_ok_iff.1 made
    cases made
    rw [Entity.ofElement] at read
    obtain ⟨names', named', read⟩ := bind_eq_ok_iff.1 read
    obtain ⟨related, readAll, read⟩ := bind_eq_ok_iff.1 read
    cases read
    -- the aliases are found from the same table and alias
    cases named.symm.trans named'
    rw [Mirrors]
    exact ⟨names_valuesOf hop _ _, mirrorsAll_of_relatedOf madeAll readAll⟩

theorem mirrorsAll_of_relatedOf : ∀ {children : List Extent} {table : TableId}
    {names : List String} {e : Element} {templates related : List Related},
      templatesOf m table names children = .ok templates →
      relatedOf m table names children e = .ok related → MirrorsAll templates related
  | [], _, names, _, templates, related, made, read => by
    cases names <;> cases made <;> cases read <;> trivial
  | _ :: _, _, [], _, templates, related, made, read => by
    cases made
    cases read
    trivial
  | child :: children, _, name :: names, e, templates, related, made, read => by
    rw [templatesOf] at made
    obtain ⟨d, found, made⟩ := bind_eq_ok_iff.1 made
    obtain ⟨placeholder, madeFirst, made⟩ := bind_eq_ok_iff.1 made
    obtain ⟨templates, madeRest, made⟩ := bind_eq_ok_iff.1 made
    cases made
    rw [relatedOf] at read
    obtain ⟨d', found', read⟩ := bind_eq_ok_iff.1 read
    obtain ⟨rows, readRows, read⟩ := bind_eq_ok_iff.1 read
    obtain ⟨related, readRest, read⟩ := bind_eq_ok_iff.1 read
    cases read
    cases found.symm.trans found'
    rw [MirrorsAll]
    refine ⟨⟨rfl, rfl, rfl, fun row hrow => ?_⟩, mirrorsAll_of_relatedOf madeRest readRest⟩
    obtain ⟨element, -, readRow⟩ := exists_of_mem_right (mapM_eq_ok_iff.1 readRows) hrow
    exact mirrors_of_ofElement madeFirst readRow

end

end Shape

/-- An outermost extent whose statement compiles has a template, and every document with the
document element `root` is read for it; each row of the answer has the shape of the extent that it
was read for and of the placeholder in its place. -/
theorem rows_mirror_template {root : Extent} {statement : String}
    (accepted : Query.sql m root = .ok statement) :
    ∃ placeholder, template m root = .ok placeholder ∧
      ∀ text e, Xml.parse? text = some e → e.name = "root" →
        ∃ result, QueryResult.parse m root text = .ok result ∧
          Shaped m Model.rootId "" root result.root ∧ placeholder.Mirrors result.root := by
  have resolves := Query.resolves_of_sql accepted
  obtain ⟨placeholder, made⟩ := exists_templateOf resolves
  refine ⟨placeholder, made, fun text e parsed named => ?_⟩
  obtain ⟨row, read⟩ := exists_ofElement resolves e
  refine ⟨⟨e.attribute? Query.fingerprintAttribute, row⟩, ?_, shaped_of_ofElement read,
    mirrors_of_ofElement made read⟩
  rw [QueryResult.parse, parsed]
  change QueryResult.ofElement m root e = _
  rw [QueryResult.ofElement, if_pos named, read]
  rfl

theorem rows_mirror_template_staff :
    let root := (Extent.root ⟨.page, 1⟩).withChild QueryResult.staffExtent
    let text := "<root><p id='2' __matching='1'><pp2 id='3'/><pp id='1'/><pp2/></p></root>"
    ∃ statement placeholder result, Query.sql Model.staffModel root = .ok statement ∧
      template Model.staffModel root = .ok placeholder ∧
        QueryResult.parse Model.staffModel root text = .ok result ∧
          placeholder.Mirrors result.root ∧ (result.entities "dbo.person").length = 1 := by
  intro root text
  have compiles : (Query.sql Model.staffModel root).isOk = true := by decide +kernel
  obtain ⟨statement, accepted⟩ := exists_ok_of_isOk compiles
  have document : (Xml.parse? text).map Element.name = some "root" := by decide +kernel
  obtain ⟨e, parsed, named⟩ := Option.map_eq_some_iff.1 document
  obtain ⟨placeholder, made, rows⟩ := rows_mirror_template accepted
  obtain ⟨result, read, -, mirrors⟩ := rows text e parsed named
  have count : (QueryResult.parse Model.staffModel root text).toOption.map
      (fun r => (r.entities "dbo.person").length) = some 1 := by decide +kernel
  rw [read] at count
  exact ⟨statement, placeholder, result, accepted, made, read, mirrors, Option.some.inj count⟩

end Entity

end RelationAtlas
