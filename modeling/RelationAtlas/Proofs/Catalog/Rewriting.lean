import RelationAtlas.Proofs.Catalog.Legal
import RelationAtlas.Proofs.Xml.Breaks

/-! # Rewriting a snapshot

Reading a written value turns each tab and each line end in it into a blank, and writing does not
mark them. So a snapshot that is read, written and read again has blanks for the white space that
references brought into its texts, and from then on it stays as it is. -/

namespace RelationAtlas

open Xml (Element Attribute IsKeptText IsLegalText spacedChar spacedList isBreak isKeptText_spaced)

section Names

theorem partFault?_eq_none_iff {part : String} : partFault? part = none ↔
    part.toList ≠ [] ∧ ∀ c ∈ part.toList, isReserved c = false := by
  rw [partFault?]
  split_ifs with empty reserved
  · simp_all
  · simp_all
  · simp_all

theorem isReserved_spacedChar {c : Char} (free : isReserved c = false) :
    isReserved (spacedChar c) = false := by
  unfold spacedChar
  split
  · rfl
  · exact free

theorem partFault?_spaced {part : String} (h : partFault? part = none) :
    partFault? (Xml.spaced part) = none := by
  rw [partFault?_eq_none_iff] at h ⊢
  rw [Xml.spaced, String.toList_ofList]
  refine ⟨Xml.spacedList_ne_nil h.1, fun c hc => ?_⟩
  rcases Xml.mem_spacedList hc with rfl | ⟨d, inside, rfl⟩
  · rfl
  · exact isReserved_spacedChar (h.2 d inside)

theorem partsFault?_spaced {parts : List String} (h : partsFault? parts = none) :
    partsFault? (parts.map Xml.spaced) = none := by
  rw [partsFault?] at h ⊢
  rw [List.length_map, List.isEmpty_map]
  split at h
  · cases h
  case isFalse counted =>
    rw [if_neg counted]
    simp only [List.findSome?_eq_none_iff, Option.map_eq_none_iff, List.forall_mem_map] at h ⊢
    exact fun p hp => partFault?_spaced (h p hp)

namespace ObjectName

def spaced (n : ObjectName) : ObjectName :=
  ⟨n.parts.map Xml.spaced, n.sound.imp (fun root => by rw [root]; rfl) partsFault?_spaced⟩

theorem isRoot_spaced (n : ObjectName) : n.spaced.isRoot = n.isRoot := by
  simp [isRoot, spaced]

theorem spacedList_intercalate (pieces : List (List Char)) :
    spacedList (List.intercalate [']', '.', '['] pieces) =
      List.intercalate [']', '.', '['] (pieces.map spacedList) := by
  induction pieces with
  | nil => rfl
  | cons piece pieces ih =>
    cases pieces with
    | nil => simp
    | cons next pieces =>
      have marks : ∀ rest,
          spacedList ([']', '.', '['] ++ rest) = [']', '.', '['] ++ spacedList rest :=
        fun _ => rfl
      rw [List.map_cons, List.map_cons, List.intercalate_cons_cons, List.intercalate_cons_cons,
        ← List.map_cons, ← ih, List.append_assoc, List.append_assoc, ← marks]
      exact Xml.spacedList_append (by decide) piece _

theorem identity_spaced {n : ObjectName} (h : n.isRoot = false) :
    Xml.spaced n.identity = n.spaced.identity := by
  have inner : spacedList n.inner = n.spaced.inner := by
    have each : spacedList ∘ String.toList = String.toList ∘ Xml.spaced :=
      funext fun p => by simp [Xml.spaced]
    rw [ObjectName.inner, spacedList_intercalate, ObjectName.inner, spaced, List.map_map,
      List.map_map, each]
  have closing : spacedList (n.inner ++ [']']) = spacedList n.inner ++ [']'] :=
    Xml.spacedList_append (by decide) n.inner []
  rw [← String.toList_inj, Xml.spaced, String.toList_ofList, toList_identity h,
    toList_identity ((isRoot_spaced n).trans h), ← inner, List.cons_append, List.cons_append,
    ← closing]
  rfl

end ObjectName

end Names

namespace Catalog

def Column.spaced (c : Column) : Column :=
  { c with name := Xml.spaced c.name, typeName := Xml.spaced c.typeName }

def KeyColumn.spaced (c : KeyColumn) : KeyColumn := { c with name := Xml.spaced c.name }

def Index.spaced (i : Index) : Index :=
  { i with
    name := Xml.spaced i.name
    columns := i.columns.map KeyColumn.spaced
    unsupported := i.unsupported.map fun r => { r with message := Xml.spaced r.message } }

def ForeignKey.spaced (k : ForeignKey) : ForeignKey where
  name := Xml.spaced k.name
  columns := k.columns.map Xml.spaced
  referencedTable := k.referencedTable.spaced
  referencedKey := Xml.spaced k.referencedKey

def Table.spaced (t : Table) : Table :=
  { t with
    name := t.name.spaced
    columns := t.columns.map Column.spaced
    indexes := t.indexes.map Index.spaced
    foreignKeys := t.foreignKeys.map ForeignKey.spaced }

def spaced (c : Catalog) : Catalog :=
  ⟨c.tables.map Table.spaced, c.fingerprint.map Xml.spaced⟩

theorem Index.texts_spaced (i : Index) :
    i.spaced.name :: i.spaced.columns.map KeyColumn.name ++
        (i.spaced.unsupported.map UnsupportedReason.message).toList =
      (i.name :: i.columns.map KeyColumn.name ++
        (i.unsupported.map UnsupportedReason.message).toList).map Xml.spaced := by
  obtain ⟨name, unique, primary, columns, _ | reason⟩ := i
  · simp [spaced, KeyColumn.spaced, Function.comp_def]
  · simp [spaced, KeyColumn.spaced, Function.comp_def]

theorem Table.texts_spaced (t : Table) : t.spaced.texts = t.texts.map Xml.spaced := by
  simp only [texts, spaced, List.map_append, List.map_flatMap, List.flatMap_map,
    Index.texts_spaced]
  simp [ObjectName.spaced, Column.spaced, ForeignKey.spaced]

theorem texts_spaced (c : Catalog) : c.spaced.texts = c.texts.map Xml.spaced := by
  obtain ⟨tables, _ | fingerprint⟩ := c
  · simp [texts, spaced, List.map_flatMap, List.flatMap_map, Table.texts_spaced]
  · simp [texts, spaced, List.map_flatMap, List.flatMap_map, Table.texts_spaced]

theorem Table.IsNamed.spaced {t : Table} (named : t.IsNamed) : t.spaced.IsNamed :=
  ⟨(ObjectName.isRoot_spaced t.name).trans named.own, List.forall_mem_map.2 fun k hk =>
    (ObjectName.isRoot_spaced k.referencedTable).trans (named.referenced k hk)⟩

end Catalog

namespace Snapshot

section Elements

theorem spaced_flagText (b : Bool) : Xml.spaced (flagText b) = flagText b :=
  Xml.spaced_eq_self (isKeptText_flagText b)

theorem spaced_columnElement (c : Catalog.Column) :
    (columnElement c).spaced = columnElement c.spaced := by
  simp [columnElement, Element.spaced_mk, Attribute.spaced, Attribute.plain, spaced_flagText,
    Catalog.Column.spaced]

theorem spaced_keyColumnElement (c : Catalog.KeyColumn) :
    (keyColumnElement c).spaced = keyColumnElement c.spaced := by
  have direction := Xml.spaced_eq_self (isKeptText_directionName c.direction)
  simp [keyColumnElement, Element.spaced_mk, Attribute.spaced, Attribute.plain, direction,
    Catalog.KeyColumn.spaced]

theorem spaced_columnNode (column : String) :
    (columnNode column).spaced = columnNode (Xml.spaced column) := by
  simp [columnNode, Element.spaced_mk, Attribute.spaced, Attribute.plain]

theorem spaced_indexElement (i : Catalog.Index) :
    (indexElement i).spaced = indexElement i.spaced := by
  obtain ⟨name, unique, primary, columns, _ | reason⟩ := i
  · simp [indexElement, Element.spaced_mk, Attribute.spaced, Attribute.plain, spaced_flagText,
      Catalog.Index.spaced, reasonAttributes, spaced_keyColumnElement]
  · have tag := Xml.spaced_eq_self (isKeptText_tagName reason.tag)
    simp [indexElement, Element.spaced_mk, Attribute.spaced, Attribute.plain, spaced_flagText,
      Catalog.Index.spaced, reasonAttributes, spaced_keyColumnElement, tag]

theorem spaced_foreignKeyNode {k : Catalog.ForeignKey} (named : k.referencedTable.isRoot = false) :
    (foreignKeyNode k).spaced = foreignKeyNode k.spaced := by
  simp [foreignKeyNode, Element.spaced_mk, Attribute.spaced, Attribute.plain,
    ObjectName.identity_spaced named, Catalog.ForeignKey.spaced, spaced_columnNode]

theorem spaced_nameAttributes (n : ObjectName) :
    (nameAttributes n).map Attribute.spaced = nameAttributes n.spaced := by
  rw [nameAttributes, nameAttributes, ObjectName.spaced, List.length_map, List.map_map,
    List.zip_map_right, List.map_map]
  rfl

theorem spaced_tableNode {t : Catalog.Table} (named : t.IsNamed) :
    (tableNode t).spaced = tableNode t.spaced := by
  have columns : (t.columns.map columnElement).map Element.spaced =
      t.spaced.columns.map columnElement := by
    simp [Catalog.Table.spaced, spaced_columnElement]
  have indexes : (t.indexes.map indexElement).map Element.spaced =
      t.spaced.indexes.map indexElement := by
    simp [Catalog.Table.spaced, spaced_indexElement]
  have foreignKeys : (t.foreignKeys.map foreignKeyNode).map Element.spaced =
      t.spaced.foreignKeys.map foreignKeyNode := by
    simpa [Catalog.Table.spaced] using fun k hk => spaced_foreignKeyNode (named.referenced k hk)
  rw [tableNode, Element.spaced_mk, List.map_append, List.map_append, List.map_append, columns,
    indexes, foreignKeys, spaced_nameAttributes, List.map_singleton, Attribute.spaced]
  simp only [Attribute.plain, spaced_flagText]
  rfl

theorem spaced_catalogNode {c : Catalog} (named : ∀ t ∈ c.tables, t.IsNamed) :
    (catalogNode c).spaced = catalogNode c.spaced := by
  have tables : ∀ t ∈ c.tables, (tableNode t).spaced = tableNode t.spaced :=
    fun t ht => spaced_tableNode (named t ht)
  obtain ⟨_, _ | fingerprint⟩ := c
  · simpa [catalogNode, Element.spaced_mk, Catalog.spaced] using tables
  · simpa [catalogNode, Element.spaced_mk, Catalog.spaced, Attribute.spaced, Attribute.plain]
      using tables

end Elements

section Writing

variable {c : Catalog}

theorem render_eq (named : ∀ t ∈ c.tables, t.IsNamed) :
    render c = .ok (Xml.write isSingle (catalogNode c)) := by
  rw [render, toElement_eq named]
  rfl

theorem named_spaced (named : ∀ t ∈ c.tables, t.IsNamed) : ∀ t ∈ c.spaced.tables, t.IsNamed :=
  List.forall_mem_map.2 fun t ht => (named t ht).spaced

theorem kept_spaced (legal : ∀ s ∈ c.texts, IsLegalText s) :
    ∀ s ∈ c.spaced.texts, IsKeptText s := by
  rw [Catalog.texts_spaced]
  exact List.forall_mem_map.2 fun s hs => isKeptText_spaced (legal s hs)

theorem catalogNode_spaced_eq_iff (named : ∀ t ∈ c.tables, t.IsNamed)
    (legal : ∀ s ∈ c.texts, IsLegalText s) :
    catalogNode c.spaced = catalogNode c ↔ ∀ s ∈ c.texts, ∀ d ∈ s.toList, isBreak d = false := by
  constructor
  · intro same s hs
    have read := ofElement_catalogNode (named_spaced named)
    rw [same, ofElement_catalogNode named] at read
    have texts : c.texts.map Xml.spaced = c.texts.map id := by
      rw [← Catalog.texts_spaced, ← Except.ok.inj read, List.map_id]
    exact Xml.spaced_eq_self_iff.1 (List.map_inj_left.1 texts s hs)
  · intro plain
    have kept : ∀ s ∈ c.texts, IsKeptText s := fun s hs =>
      Xml.spaced_eq_self_iff.2 (plain s hs) ▸ isKeptText_spaced (legal s hs)
    rw [← spaced_catalogNode named]
    exact (writable_catalogNode named kept).spaced_eq_self

end Writing

/-- What is read of a snapshot can be written. The snapshot that is written is read with blanks
for the tabs and line ends in the texts; written again, it is the snapshot of a catalog that is
read as it was. The two are one text only if no text held a tab or a line end. -/
theorem rewriting_settles {text : String} {c : Catalog} (accepted : parse text = .ok c) :
    ∃ first second, render c = .ok first ∧ parse first = .ok c.spaced ∧
      render c.spaced = .ok second ∧ parse second = .ok c.spaced ∧
        (second = first ↔ ∀ s ∈ c.texts, ∀ d ∈ s.toList, isBreak d = false) := by
  obtain ⟨e, read, made⟩ : ∃ e, Xml.parse? text = some e ∧ ofElement e = .ok c := by
    rw [parse] at accepted
    split at accepted
    · exact ⟨_, ‹_›, accepted⟩
    · cases accepted
  obtain ⟨named, legal⟩ := isLegal_of_ofElement (Xml.isLegal_of_parse? read) made
  have again := named_spaced named
  have node : (catalogNode c).spaced = catalogNode c.spaced := spaced_catalogNode named
  have writable := writable_catalogNode again (kept_spaced legal)
  rw [← node] at writable
  refine ⟨_, _, render_eq named, ?_, render_eq again, ?_, ?_⟩
  · rw [parse, Xml.parse?_write_spaced writable, node]
    exact ofElement_catalogNode again
  · rw [parse, ← node, Xml.parse?_write writable, node]
    exact ofElement_catalogNode again
  · rw [← catalogNode_spaced_eq_iff named legal, ← node]
    exact Xml.write_spaced_eq_iff writable

def brokenName : Catalog where
  tables := [{ name := ⟨["a\nb"], .inr (by decide)⟩ }]

theorem rewriting_settles_broken_name :
    parse "<catalog><table name=\"a&#10;b\"/></catalog>" = .ok brokenName ∧
      ∃ first second, render brokenName = .ok first ∧ parse first = .ok brokenName.spaced ∧
        render brokenName.spaced = .ok second ∧ parse second = .ok brokenName.spaced ∧
          (second = first ↔ ∀ s ∈ brokenName.texts, ∀ d ∈ s.toList, isBreak d = false) := by
  have accepted : parse "<catalog><table name=\"a&#10;b\"/></catalog>" = .ok brokenName := by
    decide +kernel
  exact ⟨accepted, rewriting_settles accepted⟩

/-- The line end in the name is written as it is, and the table has another name when it is read
again. -/
theorem broken_name_drifts : ∃ first read second,
    parse "<catalog><table name=\"a&#10;b\"/></catalog>" = .ok brokenName ∧
      render brokenName = .ok first ∧ parse first = .ok read ∧ render read = .ok second ∧
        second ≠ first := by
  refine ⟨"<?xml version=\"1.0\" encoding=\"utf-8\"?>\n<catalog>\n" ++
      "  <table name=\"a\nb\" view=\"0\">\n  </table>\n</catalog>", brokenName.spaced,
    "<?xml version=\"1.0\" encoding=\"utf-8\"?>\n<catalog>\n" ++
      "  <table name=\"a b\" view=\"0\">\n  </table>\n</catalog>", ?_, ?_, ?_, ?_, ?_⟩
  · decide +kernel
  · decide +kernel
  · decide +kernel
  · decide +kernel
  · decide +kernel

end Snapshot

end RelationAtlas
