import RelationAtlas.Proofs.Extent.Walk
import RelationAtlas.Proofs.Model.RelationGraph

/-! # Expansion shows exactly the walks

An expansion leaves its path as it found it, so its extents are a function of the path. With the
path equal to the ends of a walk, the extents that it makes are the walks that go on from there,
each once. -/

namespace RelationAtlas.Model

theorem mapM_run_of_keeps {σ α β : Type} {f : α → StateM σ β} {g : α → β} {s : σ} {xs : List α}
    (keeps : ∀ x ∈ xs, (f x).run s = (g x, s)) : (xs.mapM f).run s = (xs.map g, s) := by
  induction xs with
  | nil => rfl
  | cons x xs ih =>
    have first := keeps x List.mem_cons_self
    have rest := ih fun y hy => keeps y (List.mem_cons_of_mem _ hy)
    rw [List.mapM_cons, StateT.run_bind, first]
    change (do
      let p ← StateT.run (xs.mapM f) s
      pure (g x :: p.1, p.2) : Id _) = _
    rw [rest]
    rfl

def childrenOf (m : Model) (limit : Option Nat) (f : Flavor) (t : TableId) (path : Path) :
    List Extent :=
  ((m.expandChildren limit f t).run path).1

def childAlong? (m : Model) (limit : Option Nat) (f : Flavor) (path : Path) (e : EndId) :
    Option Extent :=
  if path.contains e then none
  else (f.reduce (m.navigatesToMany e) (m.isUniquelyTyped e)).map fun g =>
    ⟨m.expandedHop limit e g, m.childrenOf limit g (m.otherEnd e).table (e :: path)⟩

theorem expandChildren_run (m : Model) (limit : Option Nat) (f : Flavor) (t : TableId)
    (path : Path) : (m.expandChildren limit f t).run path =
      ((m.table t).relations.values.filterMap (m.childAlong? limit f path), path) := by
  induction bound : f.depth.toNat using Nat.strongRecOn generalizing f t path with
  | ind n ih =>
    -- it is enough that the step for one relation keeps the path
    rw [expandChildren, StateT.run_bind,
      mapM_run_of_keeps (g := m.childAlong? limit f path) (s := path)]
    · change (_, path) = _
      rw [List.filterMap_map]
      rfl
    · intro e _
      rw [StateT.run_bind, StateT.run_get]
      change StateT.run (if path.contains e then _ else _) path = _
      rw [childAlong?]
      split_ifs with seen
      · rfl
      · split
        · rename_i hidden
          rw [hidden]
          rfl
        · rename_i g shown
          have kept := ih _ (by rw [← bound]; exact Flavor.depth_of_reduce shown) g
            (m.otherEnd e).table (e :: path) rfl
          rw [shown]
          change (do
            let p ← StateT.run (m.expandChildren limit g (m.otherEnd e).table) (e :: path)
            pure (some (⟨m.expandedHop limit e g, p.1⟩ : Extent), p.2.tail) : Id _) = _
          rw [kept, Option.map_some, childrenOf, kept]
          rfl

theorem childrenOf_eq (m : Model) (limit : Option Nat) (f : Flavor) (t : TableId) (path : Path) :
    m.childrenOf limit f t path =
      (m.table t).relations.values.filterMap (m.childAlong? limit f path) := by
  rw [childrenOf, expandChildren_run]

theorem expandHop_run (m : Model) (limit : Option Nat) (e : EndId) (hop : Hop) (path : Path) :
    (m.expandHop limit e hop).run path =
      (⟨hop, m.childrenOf limit hop.flavor (m.otherEnd e).table (e :: path)⟩, path) := by
  change (do
    let p ← StateT.run (m.expandChildren limit hop.flavor (m.otherEnd e).table) (e :: path)
    pure ((⟨hop, p.1⟩ : Extent), p.2.tail) : Id _) = _
  rw [childrenOf, expandChildren_run]
  rfl

theorem childAlong?_eq_some_iff {m : Model} {limit : Option Nat} {f : Flavor} {path : Path}
    {e : EndId} {child : Extent} : m.childAlong? limit f path e = some child ↔ e ∉ path ∧
      ∃ g, f.reduce (m.navigatesToMany e) (m.isUniquelyTyped e) = some g ∧
        child = ⟨m.expandedHop limit e g,
          m.childrenOf limit g (m.otherEnd e).table (e :: path)⟩ := by
  rw [childAlong?]
  split_ifs with seen
  · simp [List.contains_iff_mem.1 seen]
  · have fresh : e ∉ path := fun h => seen (List.contains_iff_mem.2 h)
    rw [Option.map_eq_some_iff]
    simp only [fresh, not_false_eq_true, true_and, eq_comm (a := child)]

structure Shows (m : Model) (hop : Hop) (step : EndId × Flavor) : Prop where
  relation : hop.relation = (m.relationEnd step.1).name
  named : hop.relation.isSome
  flavor : hop.flavor = step.2
  columns : hop.columns = (m.target step.1).columns.map Column.name

/-- The extents of a tree below some hops are the walks that go on from `w`, each once. -/
def ShowsFrom (m : Model) (first : EndId) (f : Flavor) (above : List Hop)
    (w : List (EndId × Flavor)) (extent : Extent) : Prop :=
  ∃ walks : List (List (EndId × Flavor)), walks.Nodup ∧
    (∀ v, v ∈ walks ↔ m.Walk first f v ∧ w <:+ v) ∧
      List.Forall₂ (List.Forall₂ m.Shows) (extent.trails above) walks

def ShowsSteps (m : Model) (first : EndId) (f : Flavor) (above : List Hop)
    (w : List (EndId × Flavor)) (es : List EndId) (extents : List Extent) : Prop :=
  ∃ walks : List (List (EndId × Flavor)), walks.Nodup ∧
    (∀ v, v ∈ walks ↔ m.Walk first f v ∧ ∃ e ∈ es, ∃ g, ((e, g) :: w) <:+ v) ∧
      List.Forall₂ (List.Forall₂ m.Shows) (Extent.trailsAll above extents) walks

theorem suffix_cases {α : Type} {w v : List α} (h : w <:+ v) : v = w ∨ ∃ x, (x :: w) <:+ v := by
  obtain ⟨s, rfl⟩ := h
  rcases List.eq_nil_or_concat s with rfl | ⟨s, x, rfl⟩
  · exact .inl rfl
  · exact .inr ⟨x, s, by simp⟩

theorem suffix_unique {α : Type} {x y : α} {w v : List α} (hx : (x :: w) <:+ v)
    (hy : (y :: w) <:+ v) : x = y :=
  (List.cons.inj ((List.suffix_of_suffix_length_le hx hy (Nat.le_refl _)).eq_of_length rfl)).1

section

variable {tables : List Table} {m : Model} {limit : Option Nat} {first : EndId} {f : Flavor}

theorem shows_hop (a : Assembled tables m) {t : TableId} {e : EndId}
    (listed : e ∈ (m.table t).relations.values) {hop : Hop} {g : Flavor}
    (relation : hop.relation = (m.hop e g).relation) (flavor : hop.flavor = g)
    (columns : hop.columns = (m.hop e g).columns) : m.Shows hop (e, g) := by
  obtain ⟨⟨name, i⟩, entry, rfl⟩ := List.mem_map.1 listed
  have named := a.name_of_mem entry
  refine ⟨?_, ?_, flavor, columns⟩
  · rw [relation, Model.hop, named]
    rfl
  · rw [relation]
    rfl

namespace ShowsSteps

variable {above : List Hop} {w : List (EndId × Flavor)} {e : EndId} {es : List EndId}
  {extents : List Extent}

theorem nil : m.ShowsSteps first f above w [] [] :=
  ⟨[], List.nodup_nil, by simp, .nil⟩

theorem skip (rest : m.ShowsSteps first f above w es extents)
    (hidden : ∀ v, m.Walk first f v → ∀ g, ¬ ((e, g) :: w) <:+ v) :
    m.ShowsSteps first f above w (e :: es) extents := by
  obtain ⟨walks, nodup, exact, shown⟩ := rest
  refine ⟨walks, nodup, fun v => ?_, shown⟩
  rw [exact v]
  refine and_congr_right fun walk => ⟨?_, ?_⟩
  · intro ⟨d, hd, g, cut⟩
    exact ⟨d, List.mem_cons_of_mem _ hd, g, cut⟩
  · intro ⟨d, hd, g, cut⟩
    rcases List.mem_cons.1 hd with rfl | hd
    · exact absurd cut (hidden v walk g)
    · exact ⟨d, hd, g, cut⟩

theorem cons {g : Flavor} {extent : Extent} (absent : e ∉ es)
    (only : ∀ v, m.Walk first f v → ∀ g', ((e, g') :: w) <:+ v → g' = g)
    (here : m.ShowsFrom first f above ((e, g) :: w) extent)
    (rest : m.ShowsSteps first f above w es extents) :
    m.ShowsSteps first f above w (e :: es) (extent :: extents) := by
  obtain ⟨below, nodupBelow, exactBelow, shownBelow⟩ := here
  obtain ⟨walks, nodup, exact, shown⟩ := rest
  refine ⟨below ++ walks, ?_, ?_, ?_⟩
  · refine List.nodup_append.2 ⟨nodupBelow, nodup, ?_⟩
    -- a walk has one step after `w`, and `e` is not among the other relations
    rintro v hv u hu rfl
    obtain ⟨-, d, hd, g', cut⟩ := (exact v).1 hu
    cases suffix_unique ((exactBelow v).1 hv).2 cut
    exact absent hd
  · intro v
    rw [List.mem_append, exactBelow v, exact v, ← and_or_left]
    refine and_congr_right fun walk => ⟨?_, ?_⟩
    · rintro (cut | ⟨d, hd, g', cut⟩)
      · exact ⟨e, List.mem_cons_self, g, cut⟩
      · exact ⟨d, List.mem_cons_of_mem _ hd, g', cut⟩
    · intro ⟨d, hd, g', cut⟩
      rcases List.mem_cons.1 hd with rfl | hd
      · cases only v walk g' cut
        exact .inl cut
      · exact .inr ⟨d, hd, g', cut⟩
  · rw [Extent.trailsAll]
    exact List.rel_append shownBelow shown

theorem showsFrom {g : Flavor} {hop : Hop} (walk : m.Walk first f ((e, g) :: w))
    (shown : List.Forall₂ m.Shows (hop :: above) ((e, g) :: w))
    (below : m.ShowsSteps first f (hop :: above) ((e, g) :: w) (m.target e).relations.values
      extents) : m.ShowsFrom first f above ((e, g) :: w) ⟨hop, extents⟩ := by
  obtain ⟨walks, nodup, exact, trails⟩ := below
  refine ⟨((e, g) :: w) :: walks, List.nodup_cons.2 ⟨?_, nodup⟩, ?_, ?_⟩
  · intro own
    obtain ⟨-, d, -, g', cut⟩ := (exact _).1 own
    have longer := cut.length_le
    simp only [List.length_cons] at longer
    omega
  · intro v
    rw [List.mem_cons, exact v]
    constructor
    · rintro (rfl | ⟨longer, d, hd, g', cut⟩)
      · exact ⟨walk, List.suffix_rfl⟩
      · exact ⟨longer, (List.suffix_cons _ _).trans cut⟩
    · intro ⟨longer, cut⟩
      rcases suffix_cases cut with rfl | ⟨⟨d, g'⟩, cut⟩
      · exact .inl rfl
      · have listed := (longer.of_suffix cut (List.cons_ne_nil _ _)).last_step.1
        exact .inr ⟨longer, d, listed, g', cut⟩
  · rw [Extent.trails]
    exact .cons shown trails

end ShowsSteps

theorem showsSteps {e : EndId} {g : Flavor} {rest : List (EndId × Flavor)} {above : List Hop}
    (child : ∀ e' g', m.Walk first f ((e', g') :: (e, g) :: rest) →
      m.ShowsFrom first f above ((e', g') :: (e, g) :: rest) ⟨m.expandedHop limit e' g',
        m.childrenOf limit g' (m.otherEnd e').table (e' :: e :: rest.map Prod.fst)⟩)
    (walk : m.Walk first f ((e, g) :: rest)) {es : List EndId} (distinct : es.Nodup)
    (listed : ∀ e' ∈ es, e' ∈ (m.target e).relations.values) :
    m.ShowsSteps first f above ((e, g) :: rest) es
      (es.filterMap (m.childAlong? limit g (e :: rest.map Prod.fst))) := by
  induction es with
  | nil => exact .nil
  | cons e' es ih =>
    obtain ⟨absent, distinct⟩ := List.nodup_cons.1 distinct
    have others := ih distinct fun d hd => listed d (List.mem_cons_of_mem _ hd)
    have step : ∀ v, m.Walk first f v → ∀ g', ((e', g') :: (e, g) :: rest) <:+ v →
        e' ∉ e :: rest.map Prod.fst ∧
          g.reduce (m.navigatesToMany e') (m.isUniquelyTyped e') = some g' :=
      fun v walk g' cut => (walk.of_suffix cut (List.cons_ne_nil _ _)).last_step.2
    cases made : m.childAlong? limit g (e :: rest.map Prod.fst) e' with
    | none =>
      rw [List.filterMap_cons_none made]
      refine others.skip fun v walk g' cut => ?_
      obtain ⟨fresh, reduced⟩ := step v walk g' cut
      rw [childAlong?_eq_some_iff.2 ⟨fresh, g', reduced, rfl⟩] at made
      cases made
    | some extent =>
      rw [List.filterMap_cons_some made]
      obtain ⟨fresh, g', reduced, rfl⟩ := childAlong?_eq_some_iff.1 made
      have here := child e' g' (.step walk (listed e' List.mem_cons_self) fresh reduced)
      refine .cons absent (fun v walk g'' cut => ?_) here others
      have same := (step v walk g'' cut).2
      rw [reduced] at same
      exact (Option.some.inj same).symm

/-- An extent whose hops so far show a walk shows all walks that go on from it. -/
theorem showsFrom (a : Assembled tables m) {e : EndId} {g : Flavor}
    {rest : List (EndId × Flavor)} (walk : m.Walk first f ((e, g) :: rest)) {hop : Hop}
    {above : List Hop} (shown : List.Forall₂ m.Shows (hop :: above) ((e, g) :: rest)) :
    m.ShowsFrom first f above ((e, g) :: rest)
      ⟨hop, m.childrenOf limit g (m.otherEnd e).table (e :: rest.map Prod.fst)⟩ := by
  -- a reduced flavor has less depth, and the path of the children is the longer walk's
  induction bound : g.depth.toNat using Nat.strongRecOn generalizing e g rest hop above with
  | ind n ih =>
    have child : ∀ e' g', m.Walk first f ((e', g') :: (e, g) :: rest) →
        m.ShowsFrom first f (hop :: above) ((e', g') :: (e, g) :: rest) ⟨m.expandedHop limit e' g',
          m.childrenOf limit g' (m.otherEnd e').table (e' :: e :: rest.map Prod.fst)⟩ := by
      intro e' g' longer
      obtain ⟨listed, -, reduced⟩ := longer.last_step
      refine ih _ (by rw [← bound]; exact Flavor.depth_of_reduce reduced) longer ?_ rfl
      exact .cons (shows_hop a listed rfl rfl rfl) shown
    rw [childrenOf_eq]
    apply ShowsSteps.showsFrom walk shown
    exact showsSteps child walk (a.nodup_of_any (m.otherEnd e).table) fun _ h => h

theorem orderedAll_iff {children : List Extent} :
    Extent.OrderedAll children ↔ ∀ c ∈ children, c.Ordered := by
  induction children with
  | nil => simp [Extent.OrderedAll]
  | cons c cs ih => simp [Extent.OrderedAll, ih]

theorem names_ascending (a : Assembled tables m) (t : TableId) (shown : EndId → Option Extent)
    (named : ∀ e c, shown e = some c → c.relation = some ((m.relationEnd e).name.getD "")) :
    ∃ names : List String,
      ((m.table t).relations.values.filterMap shown).map (fun c => c.relation) =
        names.map some ∧ names.Pairwise (· < ·) := by
  refine ⟨(m.table t).relations.entries.filterMap fun d => (shown d.2).map fun _ => d.1, ?_, ?_⟩
  · rw [NameMap.values, List.filterMap_map, List.map_filterMap, List.map_filterMap]
    refine List.filterMap_congr ?_
    rintro ⟨name, e⟩ entry
    have own := a.name_of_mem entry
    cases found : shown e with
    | none => simp [found]
    | some c => simp [found, named e c found, own]
  · refine List.Pairwise.filterMap _ ?_ (m.table t).relations.ascending
    intro d d' less name hn name' hn'
    obtain ⟨-, -, rfl⟩ := Option.map_eq_some_iff.1 hn
    obtain ⟨-, -, rfl⟩ := Option.map_eq_some_iff.1 hn'
    exact less

theorem ordered_expansion (a : Assembled tables m) (hop : Hop) (g : Flavor) (t : TableId)
    (path : Path) : Extent.Ordered ⟨hop, m.childrenOf limit g t path⟩ := by
  induction bound : g.depth.toNat using Nat.strongRecOn generalizing hop g t path with
  | ind n ih =>
    rw [Extent.Ordered, childrenOf_eq, orderedAll_iff]
    refine ⟨names_ascending a t _ ?_, ?_⟩
    · intro e c made
      obtain ⟨-, g', -, rfl⟩ := childAlong?_eq_some_iff.1 made
      rfl
    · intro c hc
      obtain ⟨e, -, made⟩ := List.mem_filterMap.1 hc
      obtain ⟨-, g', reduced, rfl⟩ := childAlong?_eq_some_iff.1 made
      exact ih _ (by rw [← bound]; exact Flavor.depth_of_reduce reduced) _ _ _ _ rfl

end

def ShowsWalks (m : Model) (first : EndId) (f : Flavor) (extent : Extent) : Prop :=
  ∃ walks : List (List (EndId × Flavor)), walks.Nodup ∧ (∀ w, w ∈ walks ↔ m.Walk first f w) ∧
    List.Forall₂ (List.Forall₂ m.Shows) (extent.trails []) walks

theorem ShowsWalks.height_le {m : Model} {first : EndId} {f : Flavor} {extent : Extent}
    (shown : m.ShowsWalks first f extent) : (extent.height : Int) ≤ reach f := by
  obtain ⟨walks, -, exact, trails⟩ := shown
  have bound : ∀ t ∈ extent.trails [], t.length ≤ (reach f).toNat + 1 := by
    intro t ht
    obtain ⟨w, hw, same⟩ := exists_of_mem_right trails.flip ht
    have := ((exact w).1 hw).length_le
    rw [← same.length_eq] at this
    omega
  have := Extent.height_of_trails bound
  have : 0 ≤ reach f := by rw [reach]; omega
  simp only [List.length_nil] at *
  omega

/-- The outermost extent over some relations of the root: below each of them it has exactly the
walks from there. -/
structure Expanded (m : Model) (f : Flavor) (tops : List EndId) (extent : Extent) : Prop where
  outermost : extent.toHop = (Extent.root f).toHop
  walks : List.Forall₂ (fun e child => m.ShowsWalks e f child) tops extent.children
  ordered : extent.Ordered
  height : (extent.height : Int) ≤ min (max f.depth 0) 2 + 1

theorem heightAll_le {m : Model} {f : Flavor} {tops : List EndId} {children : List Extent}
    (walks : List.Forall₂ (fun e child => m.ShowsWalks e f child) tops children) :
    (Extent.heightAll children : Int) ≤ reach f + 1 := by
  induction walks with
  | nil =>
    rw [Extent.heightAll, reach]
    omega
  | cons first _ ih =>
    have := first.height_le
    rw [Extent.heightAll]
    omega

section Roots

variable {tables : List Table} {m : Model} {limit : Option Nat} {f : Flavor}

theorem showsWalks (a : Assembled tables m) {e : EndId}
    (listed : e ∈ m.rootTable.relations.values) {hop : Hop}
    (relation : hop.relation = (m.hop e f).relation) (flavor : hop.flavor = f)
    (columns : hop.columns = (m.hop e f).columns) :
    m.ShowsWalks e f ⟨hop, m.childrenOf limit f (m.otherEnd e).table [e]⟩ := by
  obtain ⟨walks, nodup, exact, shown⟩ : m.ShowsFrom e f [] [(e, f)] ⟨hop, _⟩ :=
    showsFrom a .start (.cons (shows_hop a listed relation flavor columns) .nil)
  refine ⟨walks, nodup, fun w => ?_, shown⟩
  rw [exact w]
  exact ⟨And.left, fun walk => ⟨walk, walk.suffix⟩⟩

theorem overview_eq (m : Model) (settings : BrowseOptions) (f : Flavor) :
    (Expander.new m settings).overview f = (⟨(Extent.root f).toHop,
      m.rootTable.relations.values.map fun e => ⟨m.expandedHop settings.defaultLimit e f,
        m.childrenOf settings.defaultLimit f (m.otherEnd e).table [e]⟩⟩,
      Expander.new m settings) := by
  rw [Expander.overview, Expander.new]
  dsimp only
  rw [mapM_run_of_keeps fun e _ => expandHop_run m settings.defaultLimit e _ []]
  rfl

theorem overview_expanded (a : Assembled tables m) (settings : BrowseOptions) (f : Flavor) :
    m.Expanded f m.rootTable.relations.values ((Expander.new m settings).overview f).1 := by
  rw [overview_eq]
  have walks : List.Forall₂ (fun e child => m.ShowsWalks e f child) m.rootTable.relations.values
      (m.rootTable.relations.values.map fun e => ⟨m.expandedHop settings.defaultLimit e f,
        m.childrenOf settings.defaultLimit f (m.otherEnd e).table [e]⟩) := by
    rw [List.forall₂_map_right_iff, List.forall₂_same]
    exact fun e listed => showsWalks a listed rfl rfl rfl
  refine ⟨rfl, walks, ⟨?_, ?_⟩, heightAll_le walks⟩
  · obtain ⟨names, same, ascending⟩ := names_ascending a rootId (fun e =>
      some ⟨m.expandedHop settings.defaultLimit e f,
        m.childrenOf settings.defaultLimit f (m.otherEnd e).table [e]⟩) (by
      rintro e c ⟨⟩
      rfl)
    rw [List.filterMap_eq_map'] at same
    exact ⟨names, same, ascending⟩
  · refine orderedAll_iff.2 fun c hc => ?_
    obtain ⟨e, -, rfl⟩ := List.mem_map.1 hc
    exact ordered_expansion a _ _ _ _

def topHop (m : Model) (limit : Option Nat) (r : ExtentRequest) :
    Except BrowseError (EndId × Hop) := do
  let t ← m.requireTable r.table
  let e ← m.rootRelationTo t.id
  return (e.id, ← m.requestedHop limit e.id r)

theorem request_eq (m : Model) (settings : BrowseOptions) (r : ExtentRequest) :
    (Expander.new m settings).request r = ((m.topHop settings.defaultLimit r).map fun top =>
      (Extent.root r.flavor).withChild ⟨top.2, m.childrenOf settings.defaultLimit
        top.2.flavor (m.otherEnd top.1).table [top.1]⟩, Expander.new m settings) := by
  rw [Expander.request]
  split
  · rename_i error failed
    rw [show m.topHop settings.defaultLimit r = .error error from failed]
    rfl
  · rename_i e hop resolved
    rw [show m.topHop settings.defaultLimit r = .ok (e, hop) from resolved, Expander.new,
      expandHop_run]
    rfl

theorem requestedHop_eq_ok {e : EndId} {r : ExtentRequest} {hop : Hop}
    (h : m.requestedHop limit e r = .ok hop) : hop.relation = (m.hop e r.flavor).relation ∧
      hop.flavor = r.flavor ∧ hop.columns = (m.hop e r.flavor).columns := by
  unfold requestedHop at h
  dsimp only at h
  split at h
  · cases h
  · split at h
    · cases h
      exact ⟨rfl, rfl, rfl⟩
    · split at h
      · cases h
        exact ⟨rfl, rfl, rfl⟩
      · cases h

theorem rootRelationTo_eq_ok (a : Assembled tables m) {t : TableId} {e : RelationEnd}
    (h : m.rootRelationTo t = .ok e) : e.id ∈ m.rootTable.relations.values := by
  unfold rootRelationTo relation at h
  split at h
  · rename_i i found
    cases h
    have entry := NameMap.get?_eq_some_iff.1 found
    rw [a.id_of_mem entry]
    exact List.mem_map_of_mem entry
  · cases h

theorem request_expanded (a : Assembled tables m) (settings : BrowseOptions) {r : ExtentRequest}
    {extent : Extent} (h : ((Expander.new m settings).request r).1 = .ok extent) :
    ∃ t e, m.requireTable r.table = .ok t ∧ m.rootRelationTo t.id = .ok e ∧
      m.Expanded r.flavor [e.id] extent := by
  rw [request_eq] at h
  cases resolved : m.topHop settings.defaultLimit r with
  | error error =>
    rw [resolved] at h
    cases h
  | ok top =>
    rw [resolved] at h
    cases h
    obtain ⟨t, ht, resolved⟩ := bind_eq_ok_iff.1 resolved
    obtain ⟨e, he, resolved⟩ := bind_eq_ok_iff.1 resolved
    obtain ⟨hop, hh, resolved⟩ := bind_eq_ok_iff.1 resolved
    cases resolved
    obtain ⟨relation, flavor, columns⟩ := requestedHop_eq_ok hh
    have walks : List.Forall₂ (fun e child => m.ShowsWalks e r.flavor child) [e.id]
        [⟨hop, m.childrenOf settings.defaultLimit hop.flavor (m.otherEnd e.id).table [e.id]⟩] := by
      rw [flavor]
      exact .cons (showsWalks a (rootRelationTo_eq_ok a he) relation flavor columns) .nil
    refine ⟨t, e, ht, he, rfl, walks, ⟨?_, ?_⟩, heightAll_le walks⟩
    · exact ⟨[(m.relationEnd e.id).name.getD ""], congrArg (fun n => [n]) relation,
        List.pairwise_singleton _ _⟩
    · exact ⟨ordered_expansion a _ _ _ _, trivial⟩

end Roots

/-- Over every built model, an expansion of any flavor shows exactly the walks below each relation
of the root that it starts with, and leaves the expander as it was. -/
theorem expansion_exact {options : BrowseOptions} {catalog : Catalog} {m : Model}
    (built : build options catalog = .ok m) (settings : BrowseOptions) :
    (∀ f, m.Expanded f m.rootTable.relations.values ((Expander.new m settings).overview f).1 ∧
      ((Expander.new m settings).overview f).2 = Expander.new m settings) ∧
    ∀ r, ((Expander.new m settings).request r).2 = Expander.new m settings ∧
      ∀ extent, ((Expander.new m settings).request r).1 = .ok extent →
        ∃ t e, m.requireTable r.table = .ok t ∧ m.rootRelationTo t.id = .ok e ∧
          m.Expanded r.flavor [e.id] extent := by
  obtain ⟨tables, a⟩ := assembled_of_build built
  refine ⟨fun f => ⟨overview_expanded a settings f, ?_⟩, fun r => ⟨?_, fun extent h => ?_⟩⟩
  · rw [overview_eq]
  · rw [request_eq]
  · exact request_expanded a settings h

def bossWalk : List (EndId × Flavor) := [(6, ⟨.inline, 0⟩), (7, ⟨.block, 1⟩), (0, ⟨.blockList, 2⟩)]

theorem walk_bossWalk : staffModel.Walk 0 ⟨.blockList, 2⟩ bossWalk :=
  .step (.step .start (by decide +kernel) (by decide) (by decide +kernel)) (by decide +kernel)
    (by decide) (by decide +kernel)

theorem expansion_exact_staff : ∃ extent person, ((Expander.new staffModel {}).request
    { table := "dbo.person", flavor := ⟨.blockList, 2⟩ }).1 = .ok extent ∧
      staffModel.Expanded ⟨.blockList, 2⟩ [0] extent ∧ extent.children = [person] ∧
        ∃ trail ∈ person.trails [], trail.map (fun hop => (hop.relation, hop.flavor)) =
          [(some "P_boss", ⟨.inline, 0⟩), (some "D_boss", ⟨.block, 1⟩),
            (some "dbo.person", ⟨.blockList, 2⟩)] := by
  have resolved : (staffModel.topHop none
      { table := "dbo.person", flavor := ⟨.blockList, 2⟩ }).isOk = true := by decide +kernel
  obtain ⟨top, resolved⟩ := exists_ok_of_isOk resolved
  have accepted : ((Expander.new staffModel {}).request
      { table := "dbo.person", flavor := ⟨.blockList, 2⟩ }).1.isOk = true := by
    rw [request_eq]
    dsimp only
    rw [resolved]
    rfl
  obtain ⟨extent, found⟩ := exists_ok_of_isOk accepted
  obtain ⟨t, e, required, reached, expanded⟩ :=
    ((expansion_exact build_staff {}).2 _).2 extent found
  have first : e.id = 0 := by
    have evaluates : ((staffModel.requireTable "dbo.person").bind fun t =>
        staffModel.rootRelationTo t.id).toOption.map RelationEnd.id = some 0 := by decide +kernel
    rw [required] at evaluates
    change (staffModel.rootRelationTo t.id).toOption.map RelationEnd.id = some 0 at evaluates
    rw [reached] at evaluates
    exact Option.some.inj evaluates
  rw [first] at expanded
  obtain ⟨person, rest, ⟨walks, -, shown, trails⟩, none, only⟩ :=
    List.forall₂_cons_left_iff.1 expanded.walks
  obtain rfl := List.forall₂_nil_left_iff.1 none
  obtain ⟨trail, listed, shows⟩ := exists_of_mem_right trails ((shown _).2 walk_bossWalk)
  refine ⟨extent, person, found, expanded, only, trail, listed, ?_⟩
  have steps : trail.map (fun hop => (hop.relation, hop.flavor)) =
      bossWalk.map fun step => ((staffModel.relationEnd step.1).name, step.2) := by
    rw [← List.forall₂_eq_eq_eq, List.forall₂_map_left_iff, List.forall₂_map_right_iff]
    exact shows.imp fun hop step shown => Prod.ext shown.relation shown.flavor
  rw [steps]
  decide +kernel

end RelationAtlas.Model
