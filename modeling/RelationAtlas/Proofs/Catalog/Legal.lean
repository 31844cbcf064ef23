import RelationAtlas.Proofs.Catalog.Snapshot
import RelationAtlas.Proofs.ObjectName.Parse
import RelationAtlas.Proofs.Text.Basic
import RelationAtlas.Proofs.Xml.Legal

/-! # Texts of a catalog that is read

A catalog takes its texts from the values of a document. The parts of a referenced table's name are
cut out of one, and the message of a reason may be left out; all of them hold only characters that
a document may hold. -/

namespace RelationAtlas

open Xml (Element IsLegal IsLegalText)

namespace ObjectName

theorem mem_of_mem_parts {text : String} {n : ObjectName} (read : parse text = .ok n)
    {part : String} (listed : part ∈ n.parts) {c : Char} (inside : c ∈ part.toList) :
    c ∈ text.toList := by
  obtain ⟨found, real⟩ := parse_eq_ok read
  apply Text.mem_trimList
  have member := List.mem_map_of_mem (f := String.toList) listed
  by_cases opens : (Text.trimList text.toList).head? = some '['
  · rw [← identity_of_brackets real found opens, toList_identity real]
    have within : c ∈ n.inner := Text.mem_intercalate_of_mem member inside
    simp [within]
  · rw [← simple_of_dots found opens, toList_simple]
    apply Text.mem_intercalate_of_mem (List.mem_map_of_mem member)
    rw [Text.doubled, List.mem_flatMap]
    refine ⟨c, inside, ?_⟩
    split <;> simp_all

end ObjectName

namespace Snapshot

section Legal

variable {e : Element} {name value : String}

theorem isLegalText_of_attribute? (legal : IsLegal e) (found : e.attribute? name = some value) :
    IsLegalText value := by
  obtain ⟨values, -⟩ := legal
  obtain ⟨a, first, rfl⟩ := Option.map_eq_some_iff.1 found
  exact values a (List.mem_of_find?_eq_some first)

theorem isLegalText_of_required (legal : IsLegal e) (read : required e name = .ok value) :
    IsLegalText value := by
  rw [required] at read
  split at read
  · rename_i found
    cases read
    exact isLegalText_of_attribute? legal found
  · cases read

theorem isLegal_of_childrenNamed (legal : IsLegal e) : ∀ c ∈ e.childrenNamed name, IsLegal c := by
  obtain ⟨-, inside⟩ := legal
  exact fun c hc => inside c (List.mem_filter.1 hc).1

theorem forall_of_mapM {α : Type} {read : Element → Except BrowseError α} {P : α → Prop}
    {xs : List α} (each : ∀ c, IsLegal c → ∀ {x}, read c = .ok x → P x) (legal : IsLegal e)
    (done : (e.childrenNamed name).mapM read = .ok xs) : ∀ x ∈ xs, P x := by
  intro x hx
  obtain ⟨c, listed, same⟩ := exists_of_mem_right (mapM_eq_ok_iff.1 done) hx
  exact each c (isLegal_of_childrenNamed legal c listed) same

theorem isLegal_of_readColumn (legal : IsLegal e) {c : Catalog.Column}
    (read : readColumn e = .ok c) : IsLegalText c.name ∧ IsLegalText c.typeName := by
  simp only [readColumn, bind_eq_ok_iff, pure, Except.pure, Except.ok.injEq] at read
  obtain ⟨name, nameRead, type, typeRead, rfl⟩ := read
  exact ⟨isLegalText_of_required legal nameRead, isLegalText_of_required legal typeRead⟩

theorem isLegal_of_readKeyColumn (legal : IsLegal e) {c : Catalog.KeyColumn}
    (read : readKeyColumn e = .ok c) : IsLegalText c.name := by
  simp only [readKeyColumn, bind_eq_ok_iff, pure, Except.pure, Except.ok.injEq] at read
  obtain ⟨name, nameRead, rfl⟩ := read
  exact isLegalText_of_required legal nameRead

theorem isLegal_of_readReason (legal : IsLegal e) {reason : Option UnsupportedReason}
    (read : readReason e = .ok reason) : ∀ r ∈ reason, IsLegalText r.message := by
  rw [readReason] at read
  split at read
  · cases read
    simp
  · split at read
    · cases read
      rintro r ⟨⟩
      cases found : e.attribute? "message" with
      | none => simp [IsLegalText]
      | some message => exact isLegalText_of_attribute? legal found
    · cases read

theorem isLegal_of_readIndex (legal : IsLegal e) {i : Catalog.Index} (read : readIndex e = .ok i) :
    IsLegalText i.name ∧ (∀ c ∈ i.columns, IsLegalText c.name) ∧
      ∀ r ∈ i.unsupported, IsLegalText r.message := by
  simp only [readIndex, bind_eq_ok_iff, pure, Except.pure, Except.ok.injEq] at read
  obtain ⟨reason, reasonRead, columns, columnsRead, name, nameRead, rfl⟩ := read
  exact ⟨isLegalText_of_required legal nameRead,
    forall_of_mapM (fun _ => isLegal_of_readKeyColumn) legal columnsRead,
    isLegal_of_readReason legal reasonRead⟩

theorem isLegal_of_readForeignKey (legal : IsLegal e) {k : Catalog.ForeignKey}
    (read : readForeignKey e = .ok k) : k.referencedTable.isRoot = false ∧ IsLegalText k.name ∧
      (∀ c ∈ k.columns, IsLegalText c) ∧ (∀ p ∈ k.referencedTable.parts, IsLegalText p) ∧
        IsLegalText k.referencedKey := by
  simp only [readForeignKey, bind_eq_ok_iff, pure, Except.pure, Except.ok.injEq] at read
  obtain ⟨columns, columnsRead, name, nameRead, text, textRead, table, tableRead, key, keyRead,
    rfl⟩ := read
  have written := isLegalText_of_required legal textRead
  exact ⟨(ObjectName.parse_eq_ok tableRead).2, isLegalText_of_required legal nameRead,
    forall_of_mapM (fun _ inside _ => isLegalText_of_required inside) legal columnsRead,
    fun p hp c hc => written c (ObjectName.mem_of_mem_parts tableRead hp hc),
    isLegalText_of_required legal keyRead⟩

theorem isLegal_of_readTable (legal : IsLegal e) {t : Catalog.Table} (read : readTable e = .ok t) :
    t.IsNamed ∧ ∀ s ∈ t.texts, IsLegalText s := by
  simp only [readTable, bind_eq_ok_iff, pure, Except.pure, Except.ok.injEq] at read
  obtain ⟨name, nameRead, own, ownRead, columns, columnsRead, indexes, indexesRead, foreignKeys,
    foreignKeysRead, rfl⟩ := read
  obtain ⟨parts, real⟩ := ObjectName.ofParts_eq_ok ownRead
  have column : ∀ c ∈ columns, IsLegalText c.name ∧ IsLegalText c.typeName :=
    forall_of_mapM (fun _ => isLegal_of_readColumn) legal columnsRead
  have index : ∀ i ∈ indexes, IsLegalText i.name ∧ (∀ c ∈ i.columns, IsLegalText c.name) ∧
      ∀ r ∈ i.unsupported, IsLegalText r.message :=
    forall_of_mapM (fun _ => isLegal_of_readIndex) legal indexesRead
  have foreignKey : ∀ k ∈ foreignKeys, k.referencedTable.isRoot = false ∧ IsLegalText k.name ∧
      (∀ c ∈ k.columns, IsLegalText c) ∧ (∀ p ∈ k.referencedTable.parts, IsLegalText p) ∧
        IsLegalText k.referencedKey :=
    forall_of_mapM (fun _ => isLegal_of_readForeignKey) legal foreignKeysRead
  refine ⟨⟨real, fun k hk => (foreignKey k hk).1⟩, ?_⟩
  simp only [Catalog.Table.texts, List.forall_mem_append, List.forall_mem_flatMap,
    List.forall_mem_cons, List.forall_mem_map]
  refine ⟨⟨⟨?_, fun c hc => ?_⟩, fun i hi => ?_⟩, fun k hk => ?_⟩
  · have given : ∀ label, ∀ s ∈ (e.attribute? label).toList, IsLegalText s :=
      fun label s hs => isLegalText_of_attribute? legal (Option.mem_toList.1 hs)
    rw [parts, List.forall_mem_append, List.forall_mem_append]
    exact ⟨⟨given "catalog", given "schema"⟩,
      List.forall_mem_singleton.2 (isLegalText_of_required legal nameRead)⟩
  · exact ⟨(column c hc).1, (column c hc).2, List.forall_mem_nil _⟩
  · obtain ⟨own, keys, message⟩ := index i hi
    refine ⟨⟨own, keys⟩, fun s hs => ?_⟩
    obtain ⟨r, given, rfl⟩ := Option.map_eq_some_iff.1 (Option.mem_toList.1 hs)
    exact message r given
  · obtain ⟨-, own, keys, parts, key⟩ := foreignKey k hk
    exact ⟨⟨⟨own, keys⟩, parts⟩, key, List.forall_mem_nil _⟩

theorem isLegal_of_ofElement (legal : IsLegal e) {c : Catalog} (read : ofElement e = .ok c) :
    (∀ t ∈ c.tables, t.IsNamed) ∧ ∀ s ∈ c.texts, IsLegalText s := by
  rw [ofElement] at read
  split at read
  · simp only [bind_eq_ok_iff, pure, Except.pure, Except.ok.injEq] at read
    obtain ⟨tables, tablesRead, rfl⟩ := read
    have table : ∀ t ∈ tables, t.IsNamed ∧ ∀ s ∈ t.texts, IsLegalText s :=
      forall_of_mapM (fun _ => isLegal_of_readTable) legal tablesRead
    refine ⟨fun t ht => (table t ht).1, List.forall_mem_append.2 ⟨fun s hs => ?_, ?_⟩⟩
    · exact isLegalText_of_attribute? legal (Option.mem_toList.1 hs)
    · exact List.forall_mem_flatMap.2 fun t ht => (table t ht).2
  · cases read

end Legal

end Snapshot

end RelationAtlas
