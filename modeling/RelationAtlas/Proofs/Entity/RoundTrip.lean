import RelationAtlas.Proofs.Entity.Rendering
import RelationAtlas.Proofs.Model.RelationGraph
import RelationAtlas.Proofs.Query.Alias

/-! # Reading undoes rendering

A tree of rows of the shape of an extent is read back from every document that renders it. The
lists of related rows are told apart by their aliases, which are different and stay different when
they are encoded. -/

namespace RelationAtlas

namespace Extent

def IsFiltered (hop : Hop) : Prop := hop.values ≠ [] ∧ hop.relation.isSome

mutual

/-- No two siblings are given one alias, and nothing that is selected beside a matching flag has
its name. -/
def Readable : Extent → Prop
  | ⟨hop, children⟩ => (IsFiltered hop → Query.matchingColumn ∉ Entity.selectedNames hop) ∧
      (Query.givenAliases children).Nodup ∧ ReadableAll children

def ReadableAll : List Extent → Prop
  | [] => True
  | e :: es => e.Readable ∧ ReadableAll es

end

end Extent

namespace Entity

open Xml (Attribute Element)

mutual

/-- A tree of rows for an extent over a table, whose relations resolve. -/
def Shaped (m : Model) (table : TableId) (tableAlias : String) : Extent → Entity → Prop
  | ⟨hop, children⟩, ⟨values, matching, related⟩ =>
    (∀ name, name ∈ values.names ↔ name ∈ selectedNames hop) ∧
      (matching.isSome ↔ Extent.IsFiltered hop) ∧
        ∃ names, Query.aliases m table tableAlias children = .ok names ∧
          ShapedAll m table names children related

def ShapedAll (m : Model) (table : TableId) :
    List String → List Extent → List Related → Prop
  | name :: names, child :: children, r :: related =>
    (∃ e, Query.relationOf m table child.toHop = .ok e ∧
      r.name = child.relation.getD "" ∧ r.tableAlias = name ∧ r.endId = e.id ∧
        ∀ row ∈ r.entities, Shaped m (m.target e.id).id name child row) ∧
      ShapedAll m table names children related
  | [], [], [] => True
  | _, _, _ => False

end

section Attributes

variable {values : NameMap (Option String)} {matching : Option Bool} {more : List Attribute}
  {e : Element}

theorem get?_attributesOf (perm : e.attributes.Perm (more ++ rowAttributes values matching))
    (distinct : (((more ++ rowAttributes values matching).map decoded).map Prod.fst).Nodup)
    {name value : String} : (attributesOf e).get? name = some value ↔
      (name, value) ∈ more.map decoded ∨
        (name, value) ∈ (rowAttributes values matching).map decoded := by
  have same := perm.map decoded
  change (NameMap.ofList (e.attributes.map decoded)).get? name = some value ↔ _
  rw [NameMap.get?_ofList_eq_some_iff ((same.map Prod.fst).nodup_iff.2 distinct), same.mem_iff,
    List.map_append, List.mem_append]

theorem names_nodup_of_foreign (apart : matching.isSome → Query.matchingColumn ∉ values.names)
    (different : (more.map fun a => (decoded a).1).Nodup)
    (foreign : ∀ a ∈ more, (decoded a).1 ∉ values.names ∧ matching = none) :
    (((more ++ rowAttributes values matching).map decoded).map Prod.fst).Nodup := by
  rw [List.map_append, List.map_append, List.nodup_append, List.map_map]
  refine ⟨different, decoded_names_nodup apart, ?_⟩
  rintro name hn other ho rfl
  obtain ⟨a, ha, rfl⟩ := List.mem_map.1 hn
  obtain ⟨⟨n, v⟩, hd, same⟩ := List.mem_map.1 ho
  change n = (decoded a).1 at same
  subst same
  rcases mem_decoded.1 hd with entry | ⟨b, flag, -, -⟩
  · exact (foreign a ha).1 (List.mem_map_of_mem entry)
  · rw [(foreign a ha).2] at flag
    cases flag

theorem get?_attributesOf_value
    (perm : e.attributes.Perm (more ++ rowAttributes values matching))
    (distinct : (((more ++ rowAttributes values matching).map decoded).map Prod.fst).Nodup)
    (foreign : ∀ a ∈ more, (decoded a).1 ∉ values.names)
    (apart : matching.isSome → Query.matchingColumn ∉ values.names)
    {name : String} {value : Option String} (entry : (name, value) ∈ values.entries) :
    (attributesOf e).get? name = value := by
  have listed : name ∈ values.names := List.mem_map_of_mem entry
  ext v
  rw [get?_attributesOf perm distinct, mem_decoded]
  constructor
  · rintro (h | h | ⟨b, rfl, rfl, -⟩)
    · obtain ⟨a, ha, same⟩ := List.mem_map.1 h
      exact absurd (by rw [same]; exact listed) (foreign a ha)
    · exact NameMap.value_unique entry h
    · exact absurd listed (apart rfl)
  · rintro rfl
    exact .inr (.inl entry)

theorem get?_attributesOf_flag {b : Bool}
    (perm : e.attributes.Perm (more ++ rowAttributes values (some b)))
    (distinct : (((more ++ rowAttributes values (some b)).map decoded).map Prod.fst).Nodup) :
    (attributesOf e).get? Query.matchingColumn = some (flagText b) := by
  rw [get?_attributesOf perm distinct, mem_decoded]
  exact .inr (.inr ⟨b, rfl, rfl, rfl⟩)

theorem valuesOf_eq {hop : Hop} {given : NameMap String}
    (named : ∀ name, name ∈ values.names ↔ name ∈ selectedNames hop)
    (read : ∀ name value, (name, value) ∈ values.entries → given.get? name = value) :
    valuesOf hop given = values := by
  apply NameMap.eq_of_get?_eq
  intro name
  rw [valuesOf, NameMap.get?_ofList_map]
  split_ifs with selected
  · obtain ⟨⟨n, value⟩, entry, rfl⟩ := List.mem_map.1 ((named name).2 selected)
    rw [read n value entry, eq_comm, NameMap.get?_eq_some_iff]
    exact entry
  · rw [eq_comm, NameMap.get?_eq_none_iff, named name]
    exact selected

theorem matchingOf_eq {hop : Hop} {given : NameMap String}
    (flagged : matching.isSome ↔ Extent.IsFiltered hop)
    (read : ∀ b, matching = some b → given.get? Query.matchingColumn = some (flagText b)) :
    matchingOf hop given = matching := by
  rw [matchingOf]
  cases matching with
  | none =>
    refine if_pos ?_
    by_contra h
    simp only [Bool.or_eq_true, not_or, List.isEmpty_iff, Option.isNone_iff_eq_none] at h
    exact absurd (flagged.2 ⟨h.1, Option.isSome_iff_ne_none.2 h.2⟩) (by simp)
  | some b =>
    obtain ⟨some, relation⟩ := flagged.1 rfl
    rw [if_neg (by simp [some, Option.isSome_iff_ne_none.1 relation]), read b rfl]
    cases b <;> rfl

end Attributes

section Lists

variable {m : Model}

theorem shapedAll_aliases {table : TableId} {names : List String} {children : List Extent}
    {related : List Related} (h : ShapedAll m table names children related) :
    related.map Related.tableAlias = names := by
  induction names generalizing children related with
  | nil =>
    cases children <;> cases related <;> simp [ShapedAll] at h
    rfl
  | cons name names ih =>
    cases children <;> cases related <;> simp only [ShapedAll] at h
    obtain ⟨⟨_, _, _, same, _⟩, rest⟩ := h
    rw [List.map_cons, same, ih rest]

theorem rows_of_children {related : List Related} {lists : List (List Element)} {e : Element}
    (distinct : (related.map Related.tableAlias).Nodup) (rendered : RendersLists related lists)
    (merged : Merges lists e.children) : ∀ r ∈ related, RendersRows (XmlName.encode r.tableAlias)
      r.entities (e.childrenNamed (XmlName.encode r.tableAlias)) := by
  obtain ⟨length, each⟩ := List.forall₂_iff_get.1 (rendersLists_iff.1 rendered)
  have named : ∀ (k : Nat) (hk : k < related.length) zs, lists[k]? = some zs →
      ∀ z ∈ zs, z.name = XmlName.encode related[k].tableAlias := by
    intro k hk zs at_k z hz
    obtain ⟨bound, rfl⟩ := List.getElem?_eq_some_iff.1 at_k
    obtain ⟨row, -, same, -⟩ := exists_of_mem_right (rendersRows_iff.1 (each k hk bound)) hz
    exact same
  intro r hr
  obtain ⟨j, hj, rfl⟩ := List.mem_iff_getElem.1 hr
  have bound : j < lists.length := length ▸ hj
  have at_j := List.getElem?_eq_getElem bound
  have own : e.childrenNamed (XmlName.encode related[j].tableAlias) = lists[j] := by
    refine merged.filter_eq at_j ?_ ?_
    · intro y hy
      exact beq_iff_eq.2 (named j hj _ at_j y hy)
    · intro k zs ne at_k z hz
      have hk : k < related.length := length ▸ (List.getElem?_eq_some_iff.1 at_k).1
      rw [named k hk zs at_k z hz, beq_eq_false_iff_ne]
      intro same
      have alike : (related.map Related.tableAlias)[k]? = (related.map Related.tableAlias)[j]? := by
        rw [List.getElem?_map, List.getElem?_map, List.getElem?_eq_getElem hk,
          List.getElem?_eq_getElem hj, Option.map_some, Option.map_some,
          XmlName.encode_injective same]
      exact ne ((List.getElem?_inj (by rwa [List.length_map]) distinct).1 alike)
  rw [own]
  exact each j hj bound

theorem mapM_rows {read : Element → Except BrowseError Entity} {name : String}
    {rows : List Entity} {es : List Element} (rendered : RendersRows name rows es)
    (back : ∀ row ∈ rows, ∀ e, Renders [] row e → read e = .ok row) :
    es.mapM read = .ok rows := by
  rw [mapM_eq_ok_iff]
  have pairs := rendersRows_iff.1 rendered
  induction pairs with
  | nil => exact .nil
  | @cons row e rows es first pairs ih =>
    refine .cons (back row List.mem_cons_self e first.2) (ih (rendersRows_iff.2 pairs) ?_)
    exact fun row hrow => back row (List.mem_cons_of_mem _ hrow)

end Lists

section Reading

variable {m : Model}

mutual

theorem ofElement_eq : ∀ {extent : Extent} {table : TableId} {tableAlias : String}
    {entity : Entity} {more : List Attribute} {e : Element}, extent.Readable →
      Shaped m table tableAlias extent entity → Renders more entity e →
      (∀ a ∈ more, (decoded a).1 ∉ entity.values.names ∧ entity.matching = none) →
      (more.map fun a => (decoded a).1).Nodup →
      Entity.ofElement m table tableAlias extent e = .ok entity
  | ⟨hop, children⟩, table, tableAlias, ⟨values, matching, related⟩, more, e,
      readable, shaped, rendered, foreign, different => by
    rw [Extent.Readable] at readable
    rw [Shaped] at shaped
    rw [Renders] at rendered
    obtain ⟨unlike, given, below⟩ := readable
    obtain ⟨named, flagged, names, resolved, shapes⟩ := shaped
    obtain ⟨perm, lists, elements, merged⟩ := rendered
    have apart : matching.isSome → Query.matchingColumn ∉ values.names := by
      intro flag listed
      exact unlike (flagged.1 flag) ((named _).1 listed)
    have distinct := names_nodup_of_foreign apart different foreign
    have readValues : valuesOf hop (attributesOf e) = values :=
      valuesOf_eq named fun name value entry =>
        get?_attributesOf_value perm distinct (fun a ha => (foreign a ha).1) apart entry
    have readFlag : matchingOf hop (attributesOf e) = matching := by
      refine matchingOf_eq flagged fun b flag => ?_
      subst flag
      exact get?_attributesOf_flag perm distinct
    have aliases : (related.map Related.tableAlias).Nodup := by
      rw [shapedAll_aliases shapes]
      exact Query.aliases_nodup resolved given
    have readRelated := relatedOf_eq below shapes (rows_of_children aliases elements merged)
    rw [Entity.ofElement, resolved]
    change (do
      let related ← relatedOf m table names children e
      pure (⟨valuesOf hop (attributesOf e), matchingOf hop (attributesOf e), related⟩ : Entity) :
        Except BrowseError Entity) = _
    rw [readRelated, readValues, readFlag]
    rfl

theorem relatedOf_eq : ∀ {children : List Extent} {table : TableId} {names : List String}
    {related : List Related} {e : Element}, Extent.ReadableAll children →
      ShapedAll m table names children related →
      (∀ r ∈ related, RendersRows (XmlName.encode r.tableAlias) r.entities
        (e.childrenNamed (XmlName.encode r.tableAlias))) →
      relatedOf m table names children e = .ok related
  | [], table, names, related, e, _, shapes, _ => by
    cases names <;> cases related <;> simp only [ShapedAll] at shapes
    rfl
  | child :: children, table, names, related, e, readable, shapes, rendered => by
    cases names <;> cases related <;> simp only [ShapedAll] at shapes
    rename_i name names r related
    rw [Extent.ReadableAll] at readable
    obtain ⟨relation, tableAlias, endId, rows⟩ := r
    obtain ⟨⟨d, resolved, rfl, rfl, rfl, shaped⟩, shapes⟩ := shapes
    have readRows : (e.childrenNamed (XmlName.encode tableAlias)).mapM
        (Entity.ofElement m (m.target d.id).id tableAlias child) = .ok rows :=
      mapM_rows (rendered _ List.mem_cons_self) fun row hrow e renders =>
        ofElement_eq readable.1 (shaped row hrow) renders nofun List.nodup_nil
    have readRest := relatedOf_eq readable.2 shapes fun s hs =>
      rendered s (List.mem_cons_of_mem _ hs)
    rw [relatedOf, resolved]
    change (do
      let rows ← (e.childrenNamed (XmlName.encode tableAlias)).mapM
        (Entity.ofElement m (m.target d.id).id tableAlias child)
      let related ← relatedOf m table names children e
      pure (⟨child.relation.getD "", tableAlias, d.id, rows⟩ :: related) :
        Except BrowseError (List Related)) = _
    rw [readRows, readRest]
    rfl

end

end Reading

theorem decode_fingerprintAttribute :
    XmlName.decode Query.fingerprintAttribute = Query.fingerprintAttribute := by
  decide +kernel

theorem fingerprint_eq {values : NameMap (Option String)} {matching : Option Bool}
    {fingerprint : String} {e : Element}
    (perm : e.attributes.Perm
      ([Attribute.plain Query.fingerprintAttribute fingerprint] ++ rowAttributes values matching))
    (foreign : Query.fingerprintAttribute ∉ values.names) :
    e.attribute? Query.fingerprintAttribute = some fingerprint := by
  have only : ∀ a ∈ e.attributes, a.name = Query.fingerprintAttribute →
      a = Attribute.plain Query.fingerprintAttribute fingerprint := by
    intro a ha named
    rcases List.mem_append.1 (perm.mem_iff.1 ha) with ha | ha
    · exact List.mem_singleton.1 ha
    · have row := List.mem_map_of_mem (f := decoded) ha
      rw [decoded, named, decode_fingerprintAttribute, mem_decoded] at row
      rcases row with entry | ⟨b, -, same, -⟩
      · exact absurd (List.mem_map_of_mem (f := Prod.fst) entry) foreign
      · exact absurd same (by decide)
  have listed : Attribute.plain Query.fingerprintAttribute fingerprint ∈ e.attributes :=
    perm.mem_iff.2 (List.mem_append_left _ List.mem_cons_self)
  rw [Element.attribute?]
  cases found : e.attributes.find? fun a =>
      a.space.isNone && a.name == Query.fingerprintAttribute with
  | none => exact absurd (List.find?_eq_none.1 found _ listed) (by simp [Attribute.plain])
  | some a =>
    have named := List.find?_some found
    rw [Bool.and_eq_true, beq_iff_eq] at named
    rw [only a (List.mem_of_find?_eq_some found) named.2]
    rfl

end Entity

namespace QueryResult

/-- Of an outermost extent that selects nothing under the name of the fingerprint, every tree of
rows and every fingerprint are read back from each document that renders them. -/
theorem ofElement_of_renders {m : Model} {root : Extent} {entity : Entity} {fingerprint : String}
    {e : Xml.Element} (outermost : root.isRoot = true) (readable : root.Readable)
    (bare : Query.fingerprintAttribute ∉ Entity.selectedNames root.toHop)
    (shaped : Entity.Shaped m Model.rootId "" root entity)
    (rendered : Entity.RendersRoot fingerprint entity e) :
    QueryResult.ofElement m root e = .ok ⟨some fingerprint, entity⟩ ∧
      ∀ text, Xml.parse? text = some e →
        QueryResult.parse m root text = .ok ⟨some fingerprint, entity⟩ := by
  obtain ⟨named, renders⟩ := rendered
  have foreign : Query.fingerprintAttribute ∉ entity.values.names ∧ entity.matching = none := by
    obtain ⟨hop, children⟩ := root
    obtain ⟨values, matching, related⟩ := entity
    rw [Entity.Shaped] at shaped
    obtain ⟨same, flagged, -⟩ := shaped
    refine ⟨fun h => bare ((same _).1 h), ?_⟩
    rw [← Option.not_isSome_iff_eq_none, flagged]
    rintro ⟨-, inner⟩
    rw [Extent.isRoot, Option.isNone_iff_eq_none] at outermost
    rw [outermost] at inner
    cases inner
  have row : Entity.ofElement m Model.rootId "" root e = .ok entity := by
    refine Entity.ofElement_eq readable shaped renders ?_ (List.nodup_singleton _)
    intro a ha
    rw [List.mem_singleton] at ha
    subst ha
    rw [Entity.decoded, Xml.Attribute.plain, Entity.decode_fingerprintAttribute]
    exact foreign
  have mark : e.attribute? Query.fingerprintAttribute = some fingerprint := by
    obtain ⟨values, matching, related⟩ := entity
    rw [Entity.Renders] at renders
    exact Entity.fingerprint_eq renders.1 foreign.1
  have read : QueryResult.ofElement m root e = .ok ⟨some fingerprint, entity⟩ := by
    rw [QueryResult.ofElement, if_pos named, row, mark]
    rfl
  refine ⟨read, fun text parsed => ?_⟩
  rw [QueryResult.parse, parsed]
  exact read

def staffRow : Entity :=
  ⟨.ofList [("id", some "2"), ("name", none)], some true,
    [⟨"P_boss", "pp", 6, [⟨.ofList [("id", some "1")], none, []⟩]⟩,
      ⟨"D_boss", "pp2", 7, [⟨.ofList [("id", some "3")], none, []⟩,
        ⟨.ofList [("id", some "4")], none, []⟩]⟩]⟩

def staffElement : Xml.Element :=
  ⟨"p", [.plain "__matching" "1", .plain "id" "2"],
    [⟨"pp2", [.plain "id" "3"], []⟩, ⟨"pp", [.plain "id" "1"], []⟩,
      ⟨"pp2", [.plain "id" "4"], []⟩]⟩

def staffExtent : Extent :=
  ⟨{ relation := some "dbo.person", flavor := ⟨.page, 1⟩, columns := ["id", "name"]
     order := [⟨"id", .ascending⟩], values := [some "2"] },
    [⟨{ relation := some "P_boss", flavor := ⟨.inline, 0⟩, columns := ["id"] }, []⟩,
      ⟨{ relation := some "D_boss", flavor := ⟨.inline, 0⟩, columns := ["id"] }, []⟩]⟩

theorem idRow_shaped (m : Model) (t : TableId) (tableAlias relation id : String)
    (flavor : Flavor) : Entity.Shaped m t tableAlias
      ⟨{ relation := some relation, flavor, columns := ["id"] }, []⟩
      ⟨.ofList [("id", some id)], none, []⟩ :=
  ⟨fun _ => Iff.rfl, by simp [Extent.IsFiltered], [], rfl, trivial⟩

theorem staffRow_shaped : Entity.Shaped Model.staffModel 1 "p" staffExtent staffRow := by
  refine ⟨fun name => ?_, by simp [Extent.IsFiltered], ["pp", "pp2"], by decide +kernel,
    ⟨Model.staffModel.relationEnd 6, by decide +kernel, rfl, rfl, by decide +kernel, ?_⟩,
    ⟨Model.staffModel.relationEnd 7, by decide +kernel, rfl, rfl, by decide +kernel, ?_⟩, trivial⟩
  · rw [show (NameMap.ofList [("id", some "2"), ("name", none)]).names = ["id", "name"] by
      decide +kernel]
    rfl
  · intro row hrow
    cases List.mem_singleton.1 hrow
    exact idRow_shaped _ _ _ _ _ _
  · intro row hrow
    simp only [List.mem_cons, List.not_mem_nil, or_false] at hrow
    rcases hrow with rfl | rfl
    · exact idRow_shaped _ _ _ _ _ _
    · exact idRow_shaped _ _ _ _ _ _

theorem idRow_renders (name id : String) : Entity.Renders []
    ⟨.ofList [("id", some id)], none, []⟩ ⟨name, [.plain "id" id], []⟩ := by
  have encoded : XmlName.encode "id" = "id" := by decide +kernel
  refine ⟨?_, [], trivial, .done nofun⟩
  rw [show Entity.rowAttributes (NameMap.ofList [("id", some id)]) none =
    [.plain (XmlName.encode "id") id] from rfl, encoded]
  rfl

theorem staffRow_renders : Entity.Renders [] staffRow staffElement := by
  have p : XmlName.encode "pp" = "pp" := by decide +kernel
  have p2 : XmlName.encode "pp2" = "pp2" := by decide +kernel
  refine ⟨?_, [[⟨"pp", [.plain "id" "1"], []⟩],
    [⟨"pp2", [.plain "id" "3"], []⟩, ⟨"pp2", [.plain "id" "4"], []⟩]], ?_, ?_⟩
  · rw [show [] ++ Entity.rowAttributes (NameMap.ofList [("id", some "2"), ("name", none)])
      (some true) = [.plain "id" "2", .plain "__matching" "1"] by decide +kernel]
    exact .swap _ _ _
  · refine ⟨⟨⟨p.symm, idRow_renders _ _⟩, trivial⟩,
      ⟨⟨p2.symm, idRow_renders _ _⟩, ⟨p2.symm, idRow_renders _ _⟩, trivial⟩, trivial⟩
  · exact .take (i := 1) rfl (.take (i := 0) rfl (.take (i := 1) rfl (.done (by simp))))

theorem ofElement_of_renders_staff :
    QueryResult.ofElement Model.staffModel ((Extent.root ⟨.page, 1⟩).withChild staffExtent)
      ⟨"root", [.plain "modify_date" "today"], [staffElement]⟩ =
        .ok ⟨some "today", ⟨.empty, none, [⟨"dbo.person", "p", 0, [staffRow]⟩]⟩⟩ := by
  have p : XmlName.encode "p" = "p" := by decide +kernel
  refine (ofElement_of_renders rfl ?_ ?_ ?_ ?_).1
  · simp [Extent.root, Extent.withChild, Extent.Readable, Extent.ReadableAll, staffExtent,
      Extent.IsFiltered, Query.givenAliases, Entity.selectedNames, Query.matchingColumn]
  · exact List.not_mem_nil
  · refine ⟨fun _ => Iff.rfl, by simp [Extent.IsFiltered, Extent.root], ["p"], by decide +kernel,
      ⟨Model.staffModel.relationEnd 0, by decide +kernel, rfl, rfl, by decide +kernel, ?_⟩, trivial⟩
    intro row hrow
    cases List.mem_singleton.1 hrow
    rw [show (Model.staffModel.target (Model.staffModel.relationEnd 0).id).id = 1 by
      decide +kernel]
    exact staffRow_shaped
  · refine ⟨rfl, .refl _, [[staffElement]], ⟨⟨⟨p.symm, staffRow_renders⟩, trivial⟩, trivial⟩, ?_⟩
    exact .take (i := 0) rfl (.done (by simp))

end QueryResult

end RelationAtlas
