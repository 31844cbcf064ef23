import Mathlib.Data.List.Induction
import RelationAtlas.Model.Build
import RelationAtlas.Proofs.Model.Keys

/-! # What the ends add to a table

The relations of a table are grouped by the table they lead to: each group is what a filter of the
relations by its target leaves, and the groups stand in ascending order. One column may be flagged;
the names and the types of the columns, and their number, stay as they are. -/

namespace RelationAtlas.Model

section Groups

variable {groups : List (TableId × List EndId)}

abbrev Ascending (groups : List (TableId × List EndId)) : Prop :=
  groups.Pairwise fun g h => g.1 < h.1

theorem lookup_cons_ite (t u : TableId) (ids : List EndId) : List.lookup t ((u, ids) :: groups) =
    if t = u then some ids else groups.lookup t := by
  rw [List.lookup_cons]
  split_ifs with same
  · rw [beq_iff_eq.2 same]
  · rw [beq_false_of_ne same]

theorem lookup_eq_none_of_lt {t : TableId} (h : ∀ g ∈ groups, t < g.1) :
    groups.lookup t = none := by
  refine List.lookup_eq_none_iff.2 fun g hg => ?_
  exact bne_iff_ne.2 (Nat.ne_of_lt (h g hg))

theorem mem_iff_lookup (ascending : Ascending groups) {t : TableId} {ids : List EndId} :
    (t, ids) ∈ groups ↔ groups.lookup t = some ids := by
  induction groups with
  | nil => simp
  | cons g rest ih =>
    obtain ⟨first, later⟩ := List.pairwise_cons.1 ascending
    rw [List.mem_cons, ih later, lookup_cons_ite, Prod.ext_iff]
    split_ifs with same
    · subst same
      simp [lookup_eq_none_of_lt first, eq_comm]
    · simp [same]

theorem fst_of_mem_addToGroup {target : TableId} {e : EndId} {g : TableId × List EndId}
    (h : g ∈ addToGroup target e groups) : g.1 = target ∨ ∃ g' ∈ groups, g'.1 = g.1 := by
  induction groups with
  | nil =>
    rw [addToGroup, List.mem_singleton] at h
    exact .inl (by rw [h])
  | cons first rest ih =>
    rw [addToGroup] at h
    split_ifs at h with less same
    · rcases List.mem_cons.1 h with rfl | old
      · exact .inl rfl
      · exact .inr ⟨g, old, rfl⟩
    · rcases List.mem_cons.1 h with rfl | old
      · exact .inl same.symm
      · exact .inr ⟨g, List.mem_cons_of_mem _ old, rfl⟩
    · rcases List.mem_cons.1 h with rfl | old
      · exact .inr ⟨_, List.mem_cons_self, rfl⟩
      · obtain new | ⟨g', hg', same⟩ := ih old
        · exact .inl new
        · exact .inr ⟨g', List.mem_cons_of_mem _ hg', same⟩

theorem addToGroup_ascending (target : TableId) (e : EndId) (ascending : Ascending groups) :
    Ascending (addToGroup target e groups) := by
  induction groups with
  | nil => exact List.pairwise_singleton _ _
  | cons first rest ih =>
    obtain ⟨above, later⟩ := List.pairwise_cons.1 ascending
    rw [addToGroup]
    split_ifs with less same
    · refine List.pairwise_cons.2 ⟨fun g hg => ?_, ascending⟩
      rcases List.mem_cons.1 hg with rfl | hg
      · exact less
      · exact Nat.lt_trans less (above g hg)
    · exact List.pairwise_cons.2 ⟨above, later⟩
    · refine List.pairwise_cons.2 ⟨fun g hg => ?_, ih later⟩
      rcases fst_of_mem_addToGroup hg with new | ⟨g', hg', eq⟩
      · rw [new]
        exact Nat.lt_of_le_of_ne (Nat.le_of_not_lt less) fun eq => same eq.symm
      · exact eq ▸ above g' hg'

theorem lookup_addToGroup (target : TableId) (e : EndId) (ascending : Ascending groups)
    (t : TableId) : (addToGroup target e groups).lookup t =
      if t = target then some ((groups.lookup target).getD [] ++ [e]) else groups.lookup t := by
  induction groups with
  | nil => exact lookup_cons_ite t target [e]
  | cons first rest ih =>
    obtain ⟨u, group⟩ := first
    obtain ⟨above, later⟩ := List.pairwise_cons.1 ascending
    rw [addToGroup]
    by_cases less : target < u
    · have absent : ((u, group) :: rest).lookup target = none := by
        refine lookup_eq_none_of_lt fun g hg => ?_
        rcases List.mem_cons.1 hg with rfl | hg
        · exact less
        · exact Nat.lt_trans less (above g hg)
      rw [if_pos less, lookup_cons_ite, absent]
      rfl
    · rw [if_neg less]
      by_cases same : target = u
      · subst same
        simp only [lookup_cons_ite, if_true]
        split_ifs <;> rfl
      · rw [if_neg same, lookup_cons_ite, ih later, lookup_cons_ite, lookup_cons_ite, if_neg same]
        split_ifs with here there
        · exact absurd (there.symm.trans here) same
        all_goals rfl

/-- The groups of ends are what filtering them by their target leaves, in ascending order. -/
theorem groupByTarget_spec (ends : List RelationEnd) (listed : List EndId) :
    Ascending (groupByTarget ends listed) ∧ ∀ t, (groupByTarget ends listed).lookup t =
      if listed.filter (fun e => targetOf ends e == t) = [] then none
      else some (listed.filter fun e => targetOf ends e == t) := by
  -- from the end, since an end joins the groups of those before it
  induction listed using List.reverseRecOn with
  | nil => exact ⟨List.Pairwise.nil, fun t => rfl⟩
  | append_singleton listed e ih =>
    obtain ⟨ascending, found⟩ := ih
    have step : groupByTarget ends (listed ++ [e]) =
        addToGroup (targetOf ends e) e (groupByTarget ends listed) := by
      rw [groupByTarget, List.foldl_append]
      rfl
    rw [step]
    refine ⟨addToGroup_ascending _ e ascending, fun t => ?_⟩
    rw [lookup_addToGroup _ e ascending, List.filter_append, List.filter_singleton]
    by_cases here : t = targetOf ends e
    · subst here
      rw [if_pos rfl, found, beq_self_eq_true, cond_true,
        if_neg (List.append_ne_nil_of_right_ne_nil _ (List.cons_ne_nil e []))]
      split_ifs with none
      · simp [none]
      · simp
    · rw [if_neg here, found, beq_false_of_ne fun same => here same.symm]
      simp

theorem lookup_groupByTarget (ends : List RelationEnd) (listed : List EndId) (t : TableId) :
    ((groupByTarget ends listed).lookup t).getD [] =
      listed.filter fun e => targetOf ends e == t := by
  rw [(groupByTarget_spec ends listed).2 t]
  split_ifs with none
  · rw [none, Option.getD_none]
  · rw [Option.getD_some]

theorem mem_groupByTarget {ends : List RelationEnd} {listed : List EndId} {t : TableId}
    {ids : List EndId} : (t, ids) ∈ groupByTarget ends listed ↔
      ids ≠ [] ∧ ids = listed.filter fun e => targetOf ends e == t := by
  obtain ⟨ascending, found⟩ := groupByTarget_spec ends listed
  rw [mem_iff_lookup ascending, found]
  split_ifs with none
  · simp +contextual [none]
  · rw [Option.some.injEq, eq_comm]
    exact ⟨fun same => ⟨same ▸ none, same⟩, And.right⟩

end Groups

section Flag

variable {α : Type} {f : Column → α}

theorem map_flagColumn (blind : ∀ c : Column, f { c with namesRows := true } = f c)
    (columns : List Column) (chosen : Option Nat) :
    (flagColumn columns chosen).map f = columns.map f := by
  cases chosen with
  | none => rfl
  | some p =>
    refine List.ext_getElem? fun q => ?_
    rw [List.getElem?_map, List.getElem?_map, flagColumn, List.getElem?_modify]
    cases columns[q]? with
    | none => rfl
    | some c =>
      change some (f (if p = q then _ else c)) = some (f c)
      split_ifs
      · rw [blind]
      · rfl

theorem length_flagColumn (columns : List Column) (chosen : Option Nat) :
    (flagColumn columns chosen).length = columns.length := by
  simpa using congrArg List.length (map_flagColumn (f := fun _ => ()) (fun _ => rfl) columns chosen)

theorem namesRows_flagColumn {columns : List Column} (plain : ∀ c ∈ columns, c.namesRows = false)
    (chosen : Option Nat) {p : Nat} (inside : p < columns.length) :
    (flagColumn columns chosen)[p]?.any Column.namesRows = (chosen == some p) := by
  have found := List.getElem?_eq_getElem inside
  have none := plain _ (List.getElem_mem inside)
  cases chosen with
  | none => simp [flagColumn, found, none]
  | some q =>
    rw [flagColumn, List.getElem?_modify, found]
    by_cases here : q = p <;> simp [here, none]

theorem positionIn?_eq (columns : List Column) (name : String) : Table.positionIn? columns name =
    ((columns.map Column.name).zipIdx.findRev? fun (n, _) => n == name).map Prod.snd := by
  rw [Table.positionIn?, List.findRev?_eq_find?_reverse, List.findRev?_eq_find?_reverse,
    List.zipIdx_map, ← List.map_reverse, List.find?_map, Option.map_map]
  rfl

theorem primaryName?_eq_named (columns : List Column) (shared : List Nat) :
    primaryName? columns shared =
      (let named := (columns.map fun c => (c.name, c.type)).zipIdx.filter fun (c, i) =>
        c.2.isCharacter && !shared.contains i
      ((named.find? fun (c, _) => Text.equalIgnoringAsciiCase c.1 "name") <|>
        (named.find? fun (c, _) => Text.containsIgnoringAsciiCase c.1 "name") <|>
        named.head?).map Prod.snd) := by
  simp only [primaryName?, List.zipIdx_map, List.filter_map, List.find?_map, List.head?_map,
    Option.orElse_eq_orElse, Option.orElse_eq_or, ← Option.map_or, Option.map_map]
  rfl

end Flag

variable {ends : List RelationEnd} {t : Table}

@[simp] theorem closeUp_relations : (closeUp ends t).relations = relationsOf ends t.id := rfl

@[simp] theorem closeUp_byTarget : (closeUp ends t).byTarget =
    groupByTarget ends (closeUp ends t).relations.values := rfl

@[simp] theorem closeUp_columns_length : (closeUp ends t).columns.length = t.columns.length :=
  length_flagColumn _ _

theorem closeUp_names : (closeUp ends t).columns.map Column.name = t.columns.map Column.name :=
  map_flagColumn (fun _ => rfl) _ _

@[simp] theorem closeUp_position? (name : String) :
    (closeUp ends t).position? name = t.position? name := by
  rw [Table.position?, Table.position?, positionIn?_eq, positionIn?_eq, closeUp_names]

theorem closeUp_within (within : Table.IndexesWithin t.columns t.indexes) :
    Table.IndexesWithin (closeUp ends t).columns (closeUp ends t).indexes := by
  intro i hi p hp
  rw [closeUp_columns_length]
  exact within i hi p hp

/-- The column that names the rows may as well be sought after it is flagged. -/
theorem closeUp_primaryName : (closeUp ends t).primaryName =
    primaryName? (closeUp ends t).columns (sharedColumns ends t.id) := by
  have same : (closeUp ends t).columns.map (fun c => (c.name, c.type)) =
      t.columns.map fun c => (c.name, c.type) := map_flagColumn (fun _ => rfl) _ _
  rw [primaryName?_eq_named, same, ← primaryName?_eq_named]
  rfl

theorem closeUp_isPrimaryName (plain : ∀ c ∈ t.columns, c.namesRows = false) {p : Nat}
    (inside : p < t.columns.length) :
    (closeUp ends t).isPrimaryName p = ((closeUp ends t).primaryName == some p) :=
  namesRows_flagColumn plain _ inside

end RelationAtlas.Model
