import RelationAtlas.Catalog.Snapshot
import RelationAtlas.Proofs.ObjectName
import RelationAtlas.Proofs.Xml.RoundTrip

/-! # Writing and reading snapshots

Each part of a catalog has an element that it is read back from. The elements can be written as
long as names stand for tables and texts hold only characters that a document keeps, and then a
written snapshot is read as the catalog that it was made of. -/

namespace RelationAtlas

namespace Catalog

def Table.texts (t : Table) : List String :=
  t.name.parts ++ t.columns.flatMap (fun c => [c.name, c.typeName]) ++
    t.indexes.flatMap (fun i => i.name :: i.columns.map KeyColumn.name ++
      (i.unsupported.map UnsupportedReason.message).toList) ++
    t.foreignKeys.flatMap (fun k => k.name :: k.columns ++ k.referencedTable.parts ++
      [k.referencedKey])

def texts (c : Catalog) : List String := c.fingerprint.toList ++ c.tables.flatMap Table.texts

structure Table.IsNamed (t : Table) : Prop where
  own : t.name.isRoot = false
  referenced : ∀ k ∈ t.foreignKeys, k.referencedTable.isRoot = false

end Catalog

namespace Snapshot

open Xml (Element Attribute IsPlain IsKept IsKeptText Writable isPlain_plain)

section Elements

def columnNode (column : String) : Element := ⟨"column", [.plain "name" column], []⟩

def foreignKeyNode (k : Catalog.ForeignKey) : Element :=
  ⟨"foreign-key", [.plain "name" k.name, .plain "referenced-table" k.referencedTable.identity,
    .plain "referenced-key" k.referencedKey],
    k.columns.map columnNode⟩

def tableNode (t : Catalog.Table) : Element :=
  ⟨"table", nameAttributes t.name ++ [.plain "view" (flagText t.isView)],
    t.columns.map columnElement ++ t.indexes.map indexElement ++ t.foreignKeys.map foreignKeyNode⟩

def catalogNode (c : Catalog) : Element :=
  ⟨"catalog", (c.fingerprint.map (Attribute.plain "fingerprint")).toList, c.tables.map tableNode⟩

theorem foreignKeyElement_eq {k : Catalog.ForeignKey} (h : k.referencedTable.isRoot = false) :
    foreignKeyElement k = .ok (foreignKeyNode k) := by
  rw [foreignKeyElement, ObjectName.escaped_of_not_root h]
  rfl

theorem tableElement_eq {t : Catalog.Table} (h : t.IsNamed) :
    tableElement t = .ok (tableNode t) := by
  rw [tableElement, mapM_eq_ok_map fun k hk => foreignKeyElement_eq (h.referenced k hk)]
  rfl

theorem toElement_eq {c : Catalog} (h : ∀ t ∈ c.tables, t.IsNamed) :
    toElement c = .ok (catalogNode c) := by
  rw [toElement, mapM_eq_ok_map fun t ht => tableElement_eq (h t ht)]
  rfl

end Elements

section Reading

variable {α : Type} {name other : String}

theorem filter_map_named (write : α → Element) (h : ∀ x, (write x).name = name) (xs : List α) :
    (xs.map write).filter (fun c => c.name == name) = xs.map write := by
  simp [List.filter_eq_self, h]

theorem filter_map_other (write : α → Element) (h : ∀ x, (write x).name = other)
    (differ : other ≠ name) (xs : List α) :
    (xs.map write).filter (fun c => c.name == name) = [] := by
  simp [List.filter_eq_nil_iff, h, differ]

theorem parse_name (d : Direction) : Direction.parse d.name = d := by
  cases d <;> decide +kernel

theorem readColumn_columnElement (c : Catalog.Column) : readColumn (columnElement c) = .ok c := by
  obtain ⟨name, typeName, nullable⟩ := c
  cases nullable <;> rfl

theorem readKeyColumn_keyColumnElement (c : Catalog.KeyColumn) :
    readKeyColumn (keyColumnElement c) = .ok c := by
  have direction : ((keyColumnElement c).attribute? "direction").map Direction.parse =
      some c.direction := congrArg some (parse_name c.direction)
  rw [readKeyColumn, direction]
  rfl

theorem readReason_indexElement (i : Catalog.Index) :
    readReason (indexElement i) = .ok i.unsupported := by
  obtain ⟨name, unique, primary, columns, _ | ⟨tag, message⟩⟩ := i
  · rfl
  · cases tag <;> rfl

theorem readIndex_indexElement (i : Catalog.Index) : readIndex (indexElement i) = .ok i := by
  have columns : ((indexElement i).childrenNamed "column").mapM readKeyColumn = .ok i.columns := by
    have listed : (indexElement i).childrenNamed "column" = i.columns.map keyColumnElement :=
      filter_map_named keyColumnElement (fun _ => rfl) i.columns
    rw [listed]
    exact mapM_map_eq_ok fun c _ => readKeyColumn_keyColumnElement c
  rw [readIndex, readReason_indexElement, columns]
  obtain ⟨name, unique, primary, columns, unsupported⟩ := i
  cases unique <;> cases primary <;> rfl

theorem readForeignKey_foreignKeyNode {k : Catalog.ForeignKey}
    (h : k.referencedTable.isRoot = false) : readForeignKey (foreignKeyNode k) = .ok k := by
  have columns : ((foreignKeyNode k).childrenNamed "column").mapM (fun c => required c "name") =
      .ok k.columns := by
    have listed : (foreignKeyNode k).childrenNamed "column" = k.columns.map columnNode :=
      filter_map_named columnNode (fun _ => rfl) k.columns
    rw [listed]
    exact mapM_map_eq_ok fun c _ => rfl
  have table : ObjectName.parse k.referencedTable.identity = .ok k.referencedTable :=
    ObjectName.parse_identity h
  rw [readForeignKey, columns]
  change (ObjectName.parse k.referencedTable.identity >>= fun table =>
    Except.ok (⟨k.name, k.columns, table, k.referencedKey⟩ : Catalog.ForeignKey)) = _
  rw [table]
  rfl

theorem childrenNamed_tableNode (t : Catalog.Table) :
    (tableNode t).childrenNamed "column" = t.columns.map columnElement ∧
      (tableNode t).childrenNamed "index" = t.indexes.map indexElement ∧
        (tableNode t).childrenNamed "foreign-key" = t.foreignKeys.map foreignKeyNode := by
  have column : ∀ c, (columnElement c).name = "column" := fun _ => rfl
  have index : ∀ i, (indexElement i).name = "index" := fun _ => rfl
  have foreignKey : ∀ k, (foreignKeyNode k).name = "foreign-key" := fun _ => rfl
  simp only [Element.childrenNamed, tableNode, List.filter_append]
  refine ⟨?_, ?_, ?_⟩
  · rw [filter_map_named _ column, filter_map_other _ index (by decide),
      filter_map_other _ foreignKey (by decide), List.append_nil, List.append_nil]
  · rw [filter_map_other _ column (by decide), filter_map_named _ index,
      filter_map_other _ foreignKey (by decide), List.nil_append, List.append_nil]
  · rw [filter_map_other _ column (by decide), filter_map_other _ index (by decide),
      filter_map_named _ foreignKey, List.nil_append, List.nil_append]

theorem attribute?_tableNode {t : Catalog.Table} (h : t.name.isRoot = false) : ∃ name,
    (tableNode t).attribute? "name" = some name ∧
      ((tableNode t).attribute? "catalog").toList ++ ((tableNode t).attribute? "schema").toList ++
        [name] = t.name.parts ∧
      flag (tableNode t) "view" = t.isView := by
  obtain ⟨⟨parts, sound⟩, isView, columns, indexes, foreignKeys⟩ := t
  have faultless := ObjectName.partsFault?_eq_none h
  match parts with
  | [] => cases h
  | [name] => exact ⟨name, rfl, rfl, by cases isView <;> rfl⟩
  | [schema, name] => exact ⟨name, rfl, rfl, by cases isView <;> rfl⟩
  | [catalog, schema, name] => exact ⟨name, rfl, rfl, by cases isView <;> rfl⟩
  | _ :: _ :: _ :: _ :: _ => simp [partsFault?] at faultless

theorem readTable_tableNode {t : Catalog.Table} (h : t.IsNamed) :
    readTable (tableNode t) = .ok t := by
  obtain ⟨name, named, parts, view⟩ := attribute?_tableNode h.own
  obtain ⟨columns, indexes, foreignKeys⟩ := childrenNamed_tableNode t
  have own : required (tableNode t) "name" = .ok name := by rw [required, named]
  simp only [readTable, own, columns, indexes, foreignKeys, view,
    mapM_map_eq_ok fun c _ => readColumn_columnElement c,
    mapM_map_eq_ok fun i _ => readIndex_indexElement i,
    mapM_map_eq_ok fun k hk => readForeignKey_foreignKeyNode (h.referenced k hk)]
  change (ObjectName.ofParts (_ ++ _ ++ [name]) >>= _) = _
  rw [parts, ObjectName.ofParts_parts h.own]
  rfl

theorem ofElement_catalogNode {c : Catalog} (h : ∀ t ∈ c.tables, t.IsNamed) :
    ofElement (catalogNode c) = .ok c := by
  have tables : ((catalogNode c).childrenNamed "table").mapM readTable = .ok c.tables := by
    have listed : (catalogNode c).childrenNamed "table" = c.tables.map tableNode :=
      filter_map_named tableNode (fun _ => rfl) c.tables
    rw [listed]
    exact mapM_map_eq_ok fun t ht => readTable_tableNode (h t ht)
  have document : (catalogNode c).name = "catalog" := rfl
  rw [ofElement, if_pos document, tables]
  obtain ⟨tables, _ | fingerprint⟩ := c <;> rfl

end Reading

section Writing

theorem isKeptText_flagText (b : Bool) : IsKeptText (flagText b) := by
  cases b <;> decide

theorem isKeptText_directionName (d : Direction) : IsKeptText d.name := by
  cases d <;> decide

theorem isKeptText_tagName (t : UnsupportedTag) : IsKeptText t.name := by
  cases t <;> decide

theorem writable_columnElement {c : Catalog.Column} (name : IsKeptText c.name)
    (typeName : IsKeptText c.typeName) : Writable isSingle (columnElement c) := by
  have names : ["name", "type", "nullable"].Nodup := by decide
  refine .intro (by decide) ?_ names (fun _ => rfl) (List.forall_mem_nil _)
  simp only [List.forall_mem_cons]
  exact ⟨isPlain_plain (by decide) name, isPlain_plain (by decide) typeName,
    isPlain_plain (by decide) (isKeptText_flagText _), List.forall_mem_nil _⟩

theorem writable_keyColumnElement {c : Catalog.KeyColumn} (name : IsKeptText c.name) :
    Writable isSingle (keyColumnElement c) := by
  have names : ["name", "direction"].Nodup := by decide
  refine .intro (by decide) ?_ names (fun _ => rfl) (List.forall_mem_nil _)
  simp only [List.forall_mem_cons]
  exact ⟨isPlain_plain (by decide) name,
    isPlain_plain (by decide) (isKeptText_directionName _), List.forall_mem_nil _⟩

theorem writable_columnNode {column : String} (kept : IsKeptText column) :
    Writable isSingle (columnNode column) := by
  have name : ["name"].Nodup := by decide
  refine .intro (by decide) ?_ name (fun _ => rfl) (List.forall_mem_nil _)
  simp only [List.forall_mem_cons]
  exact ⟨isPlain_plain (by decide) kept, List.forall_mem_nil _⟩

theorem isPlain_reasonAttributes {reason : Option UnsupportedReason}
    (message : ∀ r ∈ reason, IsKeptText r.message) : ∀ a ∈ reasonAttributes reason, IsPlain a := by
  cases reason with
  | none => exact List.forall_mem_nil _
  | some r =>
    simp only [reasonAttributes, List.forall_mem_cons]
    exact ⟨isPlain_plain (by decide) (isKeptText_tagName _),
      isPlain_plain (by decide) (message r rfl), List.forall_mem_nil _⟩

theorem nodup_reasonAttributes (reason : Option UnsupportedReason) :
    (["name", "unique", "primary"] ++ (reasonAttributes reason).map Attribute.name).Nodup := by
  have names : ["name", "unique", "primary", "unsupported", "message"].Nodup := by decide
  cases reason with
  | none => exact names.sublist (List.prefix_append _ ["unsupported", "message"]).sublist
  | some r => exact names

theorem writable_indexElement {i : Catalog.Index} (name : IsKeptText i.name)
    (columns : ∀ c ∈ i.columns, IsKeptText c.name)
    (message : ∀ r ∈ i.unsupported, IsKeptText r.message) :
    Writable isSingle (indexElement i) := by
  refine .intro (by decide) (List.forall_mem_append.2 ⟨?_, isPlain_reasonAttributes message⟩) ?_
    (fun one => absurd one (by decide))
    (List.forall_mem_map.2 fun c hc => writable_keyColumnElement (columns c hc))
  · simp only [List.forall_mem_cons]
    exact ⟨isPlain_plain (by decide) name, isPlain_plain (by decide) (isKeptText_flagText _),
      isPlain_plain (by decide) (isKeptText_flagText _), List.forall_mem_nil _⟩
  · rw [List.map_append]
    exact nodup_reasonAttributes i.unsupported

theorem isKeptText_identity {n : ObjectName} (h : n.isRoot = false)
    (parts : ∀ p ∈ n.parts, IsKeptText p) : IsKeptText n.identity := by
  have marks : ∀ c ∈ ['[', ']', '.'], IsKept c := by
    simp only [List.forall_mem_cons]
    exact ⟨by decide, by decide, by decide, List.forall_mem_nil _⟩
  intro c hc
  rcases ObjectName.mem_identity h hc with around | ⟨p, hp, inside⟩
  · exact marks c around
  · exact parts p hp c inside

theorem writable_foreignKeyNode {k : Catalog.ForeignKey} (named : k.referencedTable.isRoot = false)
    (name : IsKeptText k.name) (columns : ∀ c ∈ k.columns, IsKeptText c)
    (parts : ∀ p ∈ k.referencedTable.parts, IsKeptText p) (key : IsKeptText k.referencedKey) :
    Writable isSingle (foreignKeyNode k) := by
  have names : ["name", "referenced-table", "referenced-key"].Nodup := by decide
  refine .intro (by decide) ?_ names (fun one => absurd one (by decide)) ?_
  · simp only [List.forall_mem_cons]
    exact ⟨isPlain_plain (by decide) name,
      isPlain_plain (by decide) (isKeptText_identity named parts), isPlain_plain (by decide) key,
      List.forall_mem_nil _⟩
  · exact List.forall_mem_map.2 fun c hc => writable_columnNode (columns c hc)

theorem isPlain_nameAttributes {n : ObjectName} (parts : ∀ p ∈ n.parts, IsKeptText p) :
    ∀ a ∈ nameAttributes n, IsPlain a := by
  have labels : ∀ label ∈ ["catalog", "schema", "name"], Xml.IsPlainName label.toList := by decide
  have known : ∀ count, ∀ label ∈ partLabels count, label ∈ ["catalog", "schema", "name"] := by
    intro count
    unfold partLabels
    split_ifs <;> decide
  intro a ha
  obtain ⟨⟨label, part⟩, paired, rfl⟩ := List.mem_map.1 ha
  obtain ⟨listed, member⟩ := List.of_mem_zip paired
  exact isPlain_plain (labels _ (known _ _ listed)) (parts part member)

theorem length_partLabels_le {n : ObjectName} (h : n.isRoot = false) :
    (partLabels n.parts.length).length ≤ n.parts.length := by
  have some_part : 0 < n.parts.length := by
    simpa [ObjectName.isRoot, List.length_pos_iff] using h
  unfold partLabels
  split_ifs with three two
  · exact Nat.le_of_eq three.symm
  · exact Nat.le_of_eq two.symm
  · exact some_part

theorem nodup_nameAttributes {n : ObjectName} (h : n.isRoot = false) :
    ((nameAttributes n).map Attribute.name ++ ["view"]).Nodup := by
  have labels : (nameAttributes n).map Attribute.name = partLabels n.parts.length := by
    rw [nameAttributes, List.map_map]
    exact List.map_fst_zip (length_partLabels_le h)
  rw [labels]
  unfold partLabels
  split_ifs <;> decide

theorem writable_tableNode {t : Catalog.Table} (named : t.IsNamed)
    (kept : ∀ s ∈ t.texts, IsKeptText s) : Writable isSingle (tableNode t) := by
  simp only [Catalog.Table.texts, List.forall_mem_append, List.forall_mem_flatMap,
    List.forall_mem_cons] at kept
  obtain ⟨⟨⟨name, columns⟩, indexes⟩, foreignKeys⟩ := kept
  refine .intro (by decide) (List.forall_mem_append.2 ⟨isPlain_nameAttributes name, ?_⟩) ?_
    (fun one => absurd one (by decide)) ?_
  · simp only [List.forall_mem_cons]
    exact ⟨isPlain_plain (by decide) (isKeptText_flagText _), List.forall_mem_nil _⟩
  · rw [List.map_append]
    exact nodup_nameAttributes named.own
  · simp only [List.forall_mem_append, List.forall_mem_map]
    refine ⟨⟨fun c hc => ?_, fun i hi => ?_⟩, fun k hk => ?_⟩
    · obtain ⟨text, type, -⟩ := columns c hc
      exact writable_columnElement text type
    · obtain ⟨⟨text, keys⟩, message⟩ := indexes i hi
      exact writable_indexElement text (List.forall_mem_map.1 keys) fun r hr =>
        message _ (Option.mem_toList.2 (Option.mem_map_of_mem _ hr))
    · obtain ⟨⟨⟨text, own⟩, parts⟩, key, -⟩ := foreignKeys k hk
      exact writable_foreignKeyNode (named.referenced k hk) text own parts key

theorem writable_catalogNode {c : Catalog} (named : ∀ t ∈ c.tables, t.IsNamed)
    (kept : ∀ s ∈ c.texts, IsKeptText s) : Writable isSingle (catalogNode c) := by
  obtain ⟨fingerprint, tables⟩ := List.forall_mem_append.1 kept
  rw [List.forall_mem_flatMap] at tables
  refine .intro (by decide) ?_ ?_ (fun one => absurd one (by decide))
    (List.forall_mem_map.2 fun t ht => writable_tableNode (named t ht) (tables t ht))
  · intro a ha
    obtain ⟨text, given, rfl⟩ := Option.map_eq_some_iff.1 (Option.mem_toList.1 ha)
    exact isPlain_plain (by decide) (fingerprint text (Option.mem_toList.2 given))
  · cases c.fingerprint <;> simp

end Writing

/-- A catalog whose names are not the root's and whose texts hold only characters that a document
keeps can be written, and is read back with everything in it as it was. -/
theorem parse_render (c : Catalog) (named : ∀ t ∈ c.tables, t.IsNamed)
    (kept : ∀ s ∈ c.texts, IsKeptText s) :
    ∃ text, render c = .ok text ∧ parse text = .ok c := by
  refine ⟨Xml.write isSingle (catalogNode c), ?_, ?_⟩
  · rw [render, toElement_eq named]
    rfl
  · rw [parse, Xml.parse?_write (writable_catalogNode named kept)]
    exact ofElement_catalogNode named

def orders : Catalog where
  tables := [{
    name := ⟨["a&b", "dbo", "order"], .inr (by decide)⟩
    columns := [⟨"id", "int", false⟩, ⟨"it's", "nvarchar", true⟩]
    indexes := [⟨"<pk>", true, true, [⟨"id", .descending⟩], none⟩,
      ⟨"ix", false, false, [⟨"it's", .unknown⟩], some ⟨.filtered, ""⟩⟩]
    foreignKeys := [⟨"fk", ["id"], ⟨["order"], .inr (by decide)⟩, "<pk>"⟩] }]
  fingerprint := some ""

theorem parse_render_orders : (∀ t ∈ orders.tables, t.IsNamed) ∧
    (∀ s ∈ orders.texts, IsKeptText s) ∧
      ∃ text, render orders = .ok text ∧ parse text = .ok orders := by
  have named : ∀ t ∈ orders.tables, t.IsNamed := by
    rintro t (_ | ⟨_, ⟨⟩⟩)
    exact ⟨by decide, by decide⟩
  have kept : ∀ s ∈ orders.texts, IsKeptText s := by decide
  exact ⟨named, kept, parse_render orders named kept⟩

end Snapshot

end RelationAtlas
