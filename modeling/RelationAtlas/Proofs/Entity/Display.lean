import Mathlib.Data.List.Basic
import Mathlib.Data.List.Forall2
import RelationAtlas.Entity.Basic
import RelationAtlas.Proofs.NameMap

/-! # What is shown of an entity

The lists of an entity are shown under keys in one object. A list whose name is taken gets the key
of its name and alias; whether this key is taken as well is not asked, and then the list before is
lost. An entity is shown in full exactly if this happens at no level. -/

namespace RelationAtlas

namespace Related

def aliased (r : Related) : String := r.name ++ " (" ++ r.tableAlias ++ ")"

def key (taken : List String) (r : Related) : String :=
  if r.name ∈ taken then r.aliased else r.name

theorem key_eq_or (taken : List String) (r : Related) :
    r.key taken = r.name ∨ r.key taken = r.aliased := by
  rw [key]
  split_ifs
  · exact .inr rfl
  · exact .inl rfl

theorem key_notMem_iff {taken : List String} {r : Related} :
    r.key taken ∉ taken ↔ (r.name ∈ taken → r.aliased ∉ taken) := by
  rw [key]
  by_cases h : r.name ∈ taken
  · rw [if_pos h]
    exact ⟨fun free _ => free, fun free => free h⟩
  · rw [if_neg h]
    exact ⟨fun _ held => absurd held h, fun _ => h⟩

theorem toList_aliased (r : Related) :
    r.aliased.toList = (r.name.toList ++ [' ']) ++ '(' :: (r.tableAlias.toList ++ [')']) := by
  simp [aliased]

/-- In front of its alias a name is followed by the first parenthesis. -/
theorem dropWhile_aliased {r : Related} (plain : '(' ∉ r.name.toList) :
    r.aliased.toList.dropWhile (· != '(') = '(' :: (r.tableAlias.toList ++ [')']) := by
  rw [toList_aliased, List.dropWhile_append_of_pos]
  · rfl
  · intro c hc
    rcases List.mem_append.1 hc with h | h
    · exact bne_iff_ne.2 fun same => plain (same ▸ h)
    · rw [List.mem_singleton.1 h]
      rfl

theorem tableAlias_eq_of_aliased {q r : Related} (plain : '(' ∉ q.name.toList)
    (plain' : '(' ∉ r.name.toList) (same : q.aliased = r.aliased) :
    q.tableAlias = r.tableAlias := by
  have cut := congrArg (fun s => s.toList.dropWhile (· != '(')) same
  simp only [dropWhile_aliased plain, dropWhile_aliased plain'] at cut
  exact String.toList_inj.1 (List.append_cancel_right (List.cons.inj cut).2)

end Related

namespace Entity

def displayKeys (lists : List Related) : List String :=
  lists.foldl (fun taken r => taken ++ [r.key taken]) []

theorem displayKeys_concat (lists : List Related) (r : Related) :
    displayKeys (lists ++ [r]) = displayKeys lists ++ [r.key (displayKeys lists)] := by
  rw [displayKeys, List.foldl_append]
  rfl

theorem length_displayKeys (lists : List Related) :
    (displayKeys lists).length = lists.length := by
  induction lists using List.reverseRecOn with
  | nil => rfl
  | append_singleton before r ih =>
    rw [displayKeys_concat, List.length_append, List.length_append, ih]
    rfl

theorem mem_displayKeys {lists : List Related} {k : String} (h : k ∈ displayKeys lists) :
    ∃ r ∈ lists, k = r.name ∨ k = r.aliased := by
  induction lists using List.reverseRecOn with
  | nil => cases h
  | append_singleton before r ih =>
    rw [displayKeys_concat] at h
    rcases List.mem_append.1 h with h | h
    · obtain ⟨q, hq, spelled⟩ := ih h
      exact ⟨q, List.mem_append_left _ hq, spelled⟩
    · rw [List.mem_singleton.1 h]
      exact ⟨r, List.mem_append_right _ (List.mem_singleton_self r), r.key_eq_or _⟩

/-- No list whose name is taken finds its name with its alias taken too. -/
def KeysApart (lists : List Related) : Prop :=
  ∀ before r, before ++ [r] <+: lists →
    r.name ∈ displayKeys before → r.aliased ∉ displayKeys before

theorem keysApart_concat {lists : List Related} {r : Related} :
    KeysApart (lists ++ [r]) ↔
      KeysApart lists ∧ (r.name ∈ displayKeys lists → r.aliased ∉ displayKeys lists) := by
  constructor
  · intro h
    refine ⟨fun before q first => ?_, h lists r List.prefix_rfl⟩
    exact h before q (first.trans (List.prefix_append lists [r]))
  · rintro ⟨earlier, last⟩ before q first
    rcases List.prefix_concat_iff.1 first with same | first
    · obtain ⟨rfl, rfl⟩ := List.append_singleton_inj.1 same
      exact last
    · exact earlier before q first

theorem nodup_displayKeys_iff {lists : List Related} :
    (displayKeys lists).Nodup ↔ KeysApart lists := by
  induction lists using List.reverseRecOn with
  | nil => simp [displayKeys, KeysApart]
  | append_singleton before r ih =>
    rw [displayKeys_concat, keysApart_concat, ← ih, ← Related.key_notMem_iff,
      ← List.concat_eq_append, List.nodup_concat, and_comm]

def AliasesApart (lists : List Related) : Prop := (lists.map Related.tableAlias).Nodup

def PlainNames (lists : List Related) : Prop := ∀ r ∈ lists, '(' ∉ r.name.toList

theorem AliasesApart.keysApart {lists : List Related} (apart : AliasesApart lists)
    (plain : PlainNames lists) : KeysApart lists := by
  intro before r first _ taken
  have members : ∀ q ∈ before ++ [r], q ∈ lists := first.subset
  have last : r ∈ before ++ [r] := List.mem_append_right _ (List.mem_singleton_self r)
  obtain ⟨q, hq, same | same⟩ := mem_displayKeys taken
  · apply plain q (members q (List.mem_append_left _ hq))
    rw [← same, Related.toList_aliased]
    exact List.mem_append_right _ List.mem_cons_self
  · have twice := Related.tableAlias_eq_of_aliased (plain r (members r last))
      (plain q (members q (List.mem_append_left _ hq))) same
    have distinct := List.Nodup.sublist (first.sublist.map Related.tableAlias) apart
    rw [List.map_append, List.nodup_append] at distinct
    exact distinct.2.2 q.tableAlias (List.mem_map_of_mem hq) r.tableAlias
      (List.mem_singleton_self _) twice.symm

mutual

def Everywhere (P : List Related → Prop) : Entity → Prop
  | ⟨_, _, related⟩ => P related ∧ EverywhereBelow P related

def EverywhereBelow (P : List Related → Prop) : List Related → Prop
  | [] => True
  | ⟨_, _, _, entities⟩ :: rest => EverywhereRows P entities ∧ EverywhereBelow P rest

def EverywhereRows (P : List Related → Prop) : List Entity → Prop
  | [] => True
  | e :: rest => e.Everywhere P ∧ EverywhereRows P rest

end

mutual

theorem Everywhere.combine {P Q R : List Related → Prop}
    (h : ∀ lists, P lists → Q lists → R lists) :
    ∀ {e : Entity}, e.Everywhere P → e.Everywhere Q → e.Everywhere R
  | ⟨_, _, related⟩, ⟨here, below⟩, ⟨here', below'⟩ =>
    ⟨h related here here', EverywhereBelow.combine h below below'⟩

theorem EverywhereBelow.combine {P Q R : List Related → Prop}
    (h : ∀ lists, P lists → Q lists → R lists) :
    ∀ {lists : List Related},
      EverywhereBelow P lists → EverywhereBelow Q lists → EverywhereBelow R lists
  | [], _, _ => trivial
  | ⟨_, _, _, _⟩ :: _, ⟨rows, rest⟩, ⟨rows', rest'⟩ =>
    ⟨EverywhereRows.combine h rows rows', EverywhereBelow.combine h rest rest'⟩

theorem EverywhereRows.combine {P Q R : List Related → Prop}
    (h : ∀ lists, P lists → Q lists → R lists) :
    ∀ {rows : List Entity},
      EverywhereRows P rows → EverywhereRows Q rows → EverywhereRows R rows
  | [], _, _ => trivial
  | _ :: _, ⟨row, rest⟩, ⟨row', rest'⟩ =>
    ⟨Everywhere.combine h row row', EverywhereRows.combine h rest rest'⟩

end

mutual

/-- An object that has the values of an entity, and as many lists as the entity, each under a key of
its own and with its rows in their order. -/
def ShownIn : Entity → Json → Prop
  | ⟨values, _, related⟩, json => ∃ columns relations,
    json = .object [("columns", .object columns), ("relations", .object relations)] ∧
      columns.map Prod.fst = values.names ∧
        (∀ name value, values.get? name = some value → (name, .ofOption .text value) ∈ columns) ∧
          (relations.map Prod.fst).Nodup ∧ relations.length = related.length ∧
            (displayKeys related).Nodup ∧ ListsShown relations (displayKeys related) related

def ListsShown (relations : List (String × Json)) : List String → List Related → Prop
  | key :: keys, ⟨_, _, _, entities⟩ :: rest =>
    (∃ items, (key, .array items) ∈ relations ∧ RowsShown entities items) ∧
      ListsShown relations keys rest
  | [], [] => True
  | _, _ => False

def RowsShown : List Entity → List Json → Prop
  | e :: rest, item :: items => e.ShownIn item ∧ RowsShown rest items
  | [], [] => True
  | _, _ => False

end

theorem relatedJson_concat (shown : NameMap Json) (r : Related) : ∀ lists : List Related,
    relatedJson shown (lists ++ [r]) = (relatedJson shown lists).insert
      (displayKey (relatedJson shown lists) r.name r.tableAlias) (.array (rowsJson r.entities))
  | [] => by
    obtain ⟨_, _, _, _⟩ := r
    rfl
  | ⟨_, _, _, _⟩ :: rest => relatedJson_concat _ r rest

theorem displayKey_eq {shown : NameMap Json} {taken : List String}
    (same : ∀ name, name ∈ shown.names ↔ name ∈ taken) (r : Related) :
    displayKey shown r.name r.tableAlias = r.key taken := by
  simp only [displayKey, NameMap.contains_iff, same, Related.key, Related.aliased]

theorem mem_names_relatedJson (lists : List Related) (name : String) :
    name ∈ (relatedJson .empty lists).names ↔ name ∈ displayKeys lists := by
  induction lists using List.reverseRecOn generalizing name with
  | nil => rfl
  | append_singleton before r ih =>
    rw [relatedJson_concat, displayKeys_concat, displayKey_eq ih, NameMap.mem_names_insert, ih,
      List.mem_append, List.mem_singleton, or_comm]

theorem length_relatedJson {lists : List Related} (distinct : (displayKeys lists).Nodup) :
    (relatedJson .empty lists).entries.length = lists.length := by
  have perm := (List.perm_ext_iff_of_nodup (relatedJson .empty lists).names_nodup distinct).2
    fun name => mem_names_relatedJson lists name
  rw [← length_displayKeys, ← perm.length_eq, NameMap.names, List.length_map]

theorem relatedJson_holds {lists : List Related} (distinct : (displayKeys lists).Nodup) :
    List.Forall₂ (fun key r => (relatedJson .empty lists).get? key =
      some (.array (rowsJson r.entities))) (displayKeys lists) lists := by
  induction lists using List.reverseRecOn with
  | nil => exact .nil
  | append_singleton before r ih =>
    rw [displayKeys_concat, ← List.concat_eq_append, List.nodup_concat] at distinct
    rw [displayKeys_concat, relatedJson_concat, displayKey_eq (mem_names_relatedJson before)]
    simp only [NameMap.get?_insert]
    refine List.rel_append ?_ (.cons (if_pos rfl) .nil)
    have earlier := (List.forall₂_and_left _ _).2
      ⟨fun key (h : key ∈ displayKeys before) => h, ih distinct.2⟩
    refine earlier.imp ?_
    rintro key q ⟨held, stands⟩
    have other : key ≠ r.key (displayKeys before) := fun same => distinct.1 (same ▸ held)
    rw [if_neg other, stands]

mutual

theorem shownIn_toJson_iff : ∀ e : Entity, e.ShownIn e.toJson ↔ e.Everywhere KeysApart
  | ⟨values, matching, related⟩ => by
    rw [toJson, ShownIn, Everywhere]
    constructor
    · rintro ⟨columns, relations, json, -, -, -, -, distinct, shown⟩
      cases json
      refine ⟨nodup_displayKeys_iff.1 distinct, ?_⟩
      exact (listsShown_iff related (relatedJson_holds distinct)).1 shown
    · rintro ⟨apart, below⟩
      have distinct := nodup_displayKeys_iff.2 apart
      refine ⟨_, _, rfl, ?_, fun name value h => ?_, (relatedJson .empty related).names_nodup,
        length_relatedJson distinct, distinct,
        (listsShown_iff related (relatedJson_holds distinct)).2 below⟩
      · rw [List.map_map]
        rfl
      · exact List.mem_map.2 ⟨(name, value), NameMap.get?_eq_some_iff.1 h, rfl⟩

theorem listsShown_iff {shown : NameMap Json} : ∀ {keys : List String} (lists : List Related),
    List.Forall₂ (fun key r => shown.get? key = some (.array (rowsJson r.entities))) keys lists →
      (ListsShown shown.entries keys lists ↔ EverywhereBelow KeysApart lists)
  | [], [], .nil => Iff.rfl
  | key :: keys, ⟨_, _, _, entities⟩ :: rest, .cons first later => by
    have stands := NameMap.get?_eq_some_iff.1 first
    rw [ListsShown, EverywhereBelow, listsShown_iff rest later, ← rowsShown_iff entities]
    refine and_congr_left fun _ => ⟨?_, fun rows => ⟨_, stands, rows⟩⟩
    rintro ⟨items, here, rows⟩
    cases NameMap.value_unique here stands
    exact rows

theorem rowsShown_iff : ∀ rows : List Entity,
    RowsShown rows (rowsJson rows) ↔ EverywhereRows KeysApart rows
  | [] => Iff.rfl
  | e :: rest => by
    rw [rowsJson, RowsShown, EverywhereRows, shownIn_toJson_iff e, rowsShown_iff rest]

end

/-- An entity is shown in full exactly if nowhere a list gets a key that is taken. Where aliases
differ it takes a name that looks as if it had an alias. -/
theorem toJson_shows_all_iff (e : Entity) :
    (e.ShownIn e.toJson ↔ e.Everywhere KeysApart) ∧
      (e.Everywhere AliasesApart → e.Everywhere PlainNames → e.ShownIn e.toJson) := by
  refine ⟨shownIn_toJson_iff e, fun apart plain => ?_⟩
  rw [shownIn_toJson_iff]
  exact Everywhere.combine (fun _ => AliasesApart.keysApart) apart plain

def customers : Entity :=
  ⟨.empty, none, [⟨"customer", "c", 0, [⟨.ofList [("id", some "7"), ("note", none)], none, [
    ⟨"invoice", "new", 2, [⟨.ofList [("id", some "1")], none, []⟩]⟩,
    ⟨"invoice", "old", 2, [⟨.ofList [("id", some "2")], none, []⟩,
      ⟨.ofList [("id", some "3")], none, []⟩]⟩]⟩]⟩]⟩

theorem toJson_shows_all_customers :
    customers.Everywhere AliasesApart ∧ customers.Everywhere PlainNames ∧
      customers.ShownIn customers.toJson := by
  have apart : customers.Everywhere AliasesApart := by
    simp [customers, Everywhere, EverywhereBelow, EverywhereRows, AliasesApart]
  have plain : customers.Everywhere PlainNames := by
    simp [customers, Everywhere, EverywhereBelow, EverywhereRows, PlainNames]
  exact ⟨apart, plain, (toJson_shows_all_iff customers).2 apart plain⟩

def invoiceRow (id : String) : Entity := ⟨.ofList [("id", some id)], none, []⟩

def archivedInvoices : Entity :=
  ⟨.empty, none, [⟨"invoice", "new", 0, [invoiceRow "1"]⟩,
    ⟨"invoice (old)", "archive", 2, [invoiceRow "2"]⟩,
    ⟨"invoice", "old", 0, [invoiceRow "3"]⟩]⟩

theorem taken_key_loses_list :
    archivedInvoices.Everywhere AliasesApart ∧
      archivedInvoices.toJson = .object [("columns", .object []), ("relations", .object
        [("invoice", .array [(invoiceRow "1").toJson]),
          ("invoice (old)", .array [(invoiceRow "3").toJson])])] ∧
        ¬ archivedInvoices.ShownIn archivedInvoices.toJson := by
  refine ⟨?_, rfl, ?_⟩
  · simp [archivedInvoices, invoiceRow, Everywhere, EverywhereBelow, EverywhereRows, AliasesApart]
  · rw [shownIn_toJson_iff]
    rintro ⟨apart, -⟩
    exact absurd (nodup_displayKeys_iff.2 apart) (by decide)

end Entity

end RelationAtlas
