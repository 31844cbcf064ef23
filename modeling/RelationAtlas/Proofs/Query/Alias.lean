import Mathlib.Data.List.Nodup
import RelationAtlas.Proofs.Outcome
import RelationAtlas.Proofs.Text.Basic
import RelationAtlas.Query.Compile

/-! # Aliases of siblings

A derived alias is free when it is made and taken afterwards, and given aliases are taken from the
start. So siblings share an alias only if it was given to both. Without an alias of its own a
sibling is called by the stem and at least one more character. -/

namespace RelationAtlas.Query

def ProperPrefix (s t : String) : Prop := s.toList <+: t.toList ∧ s.length < t.length

namespace ProperPrefix

variable {s t u : String}

theorem append (some : t ≠ "") : ProperPrefix s (s ++ t) := by
  refine ⟨?_, ?_⟩
  · rw [String.toList_append]
    exact List.prefix_append _ _
  · have longer : 0 < t.length := by
      rw [Nat.pos_iff_ne_zero]
      simpa using some
    rw [String.length_append]
    omega

theorem trans (hst : ProperPrefix s t) (htu : ProperPrefix t u) : ProperPrefix s u :=
  ⟨hst.1.trans htu.1, hst.2.trans htu.2⟩

theorem ne (h : ProperPrefix s t) : s ≠ t := by
  rintro rfl
  exact Nat.lt_irrefl _ h.2

end ProperPrefix

def givenAliases (children : List Extent) : List String := children.filterMap fun c => c.tableAlias

theorem mem_givenAliases {children : List Extent} {name : String} :
    name ∈ givenAliases children ↔ ∃ c ∈ children, c.tableAlias = some name :=
  List.mem_filterMap

theorem givenAliases_cons (child : Extent) (rest : List Extent) :
    givenAliases (child :: rest) = child.tableAlias.toList ++ givenAliases rest := by
  rw [givenAliases, givenAliases, List.filterMap_cons]
  cases child.tableAlias <;> rfl

def derivedAlias (m : Model) (stem : String) (taken : List String) (e : RelationEnd) : String :=
  Text.firstFree (Text.numbered (stem ++ aliasLetter (m.target e.id))) taken

theorem derivedAlias_not_mem (m : Model) (stem : String) (taken : List String)
    (e : RelationEnd) : derivedAlias m stem taken e ∉ taken :=
  Text.firstFree_numbered_not_mem _ taken

theorem aliasLetter_ne_empty (t : Table) : aliasLetter t ≠ "" := by
  rw [aliasLetter]
  cases t.name.name.toList.head? with
  | none => decide
  | some c =>
    by_cases letter : Text.isLetter c = true
    · simp [letter, Text.lower_ne_nil c]
    · simp [letter]

section Siblings

variable {m : Model} {parent : TableId} {stem : String} {children : List Extent}
  {taken names : List String}

theorem aliasesFrom_cons_eq_ok {child : Extent} {rest : List Extent}
    (h : aliasesFrom m parent stem taken (child :: rest) = .ok names) :
    (∃ given later, child.tableAlias = some given ∧
        aliasesFrom m parent stem taken rest = .ok later ∧ names = given :: later) ∨
      ∃ e later, child.tableAlias = none ∧ relationOf m parent child.toHop = .ok e ∧
        aliasesFrom m parent stem (derivedAlias m stem taken e :: taken) rest = .ok later ∧
          names = derivedAlias m stem taken e :: later := by
  rw [aliasesFrom] at h
  cases own : child.tableAlias with
  | some given =>
    rw [own] at h
    obtain ⟨later, made, h⟩ := bind_eq_ok_iff.1 h
    cases h
    exact .inl ⟨given, later, rfl, made, rfl⟩
  | none =>
    rw [own] at h
    obtain ⟨e, resolved, h⟩ := bind_eq_ok_iff.1 h
    obtain ⟨later, made, h⟩ := bind_eq_ok_iff.1 h
    cases h
    exact .inr ⟨e, later, rfl, resolved, made, rfl⟩

theorem exists_aliasesFrom (resolves : ∀ c ∈ children, ∃ e, relationOf m parent c.toHop = .ok e)
    (taken : List String) : ∃ names, aliasesFrom m parent stem taken children = .ok names := by
  induction children generalizing taken with
  | nil => exact ⟨[], rfl⟩
  | cons child rest ih =>
    obtain ⟨⟨e, found⟩, later⟩ := List.forall_mem_cons.1 resolves
    rw [aliasesFrom]
    cases child.tableAlias with
    | some given =>
      obtain ⟨names, made⟩ := ih later taken
      exact exists_bind_ok made ⟨_, rfl⟩
    | none =>
      obtain ⟨names, made⟩ := ih later (derivedAlias m stem taken e :: taken)
      exact exists_bind_ok found (exists_bind_ok made ⟨_, rfl⟩)

theorem exists_aliases (resolves : ∀ c ∈ children, ∃ e, relationOf m parent c.toHop = .ok e)
    (stem : String) : ∃ names, aliases m parent stem children = .ok names :=
  exists_aliasesFrom resolves _

/-- What a sibling is called when these names are in use: as it was given, or by the first counted
name that is not in use. -/
inductive Called (m : Model) (parent : TableId) (stem : String) (used : List String) :
    Extent → String → Prop
  | given {child : Extent} {name : String} (own : child.tableAlias = some name) :
      Called m parent stem used child name
  | derived {child : Extent} {e : RelationEnd} {n : Nat} (own : child.tableAlias = none)
      (found : relationOf m parent child.toHop = .ok e)
      (skipped : ∀ k < n, Text.numbered (stem ++ aliasLetter (m.target e.id)) k ∈ used) :
      Called m parent stem used child (Text.numbered (stem ++ aliasLetter (m.target e.id)) n)

namespace Called

variable {used more : List String} {child : Extent} {name : String}

theorem mono (sub : used ⊆ more) (h : Called m parent stem used child name) :
    Called m parent stem more child name := by
  cases h with
  | given own => exact .given own
  | derived own found skipped => exact .derived own found fun k hk => sub (skipped k hk)

theorem eq_given (h : Called m parent stem used child name) {own : String}
    (given : child.tableAlias = some own) : name = own := by
  cases h with
  | given own' => exact Option.some.inj (own'.symm.trans given)
  | derived own' => cases own'.symm.trans given

theorem properPrefix (h : Called m parent stem used child name)
    (underived : child.tableAlias = none) : ProperPrefix stem name := by
  cases h with
  | given own => cases own.symm.trans underived
  | derived own found skipped =>
    rw [Text.numbered_append]
    exact .append (Text.numbered_ne_empty (aliasLetter_ne_empty _) _)

end Called

theorem called_derivedAlias {child : Extent} {e : RelationEnd} (own : child.tableAlias = none)
    (found : relationOf m parent child.toHop = .ok e) (taken : List String) :
    Called m parent stem taken child (derivedAlias m stem taken e) := by
  obtain ⟨n, same, -, skipped⟩ :=
    Text.firstFree_numbered_spec (stem ++ aliasLetter (m.target e.id)) taken
  rw [derivedAlias, same]
  exact .derived own found skipped

def Apart (x y : Extent × String) : Prop :=
  x.1.tableAlias = none ∨ y.1.tableAlias = none → x.2 ≠ y.2

structure Fresh (m : Model) (parent : TableId) (stem : String) (taken : List String)
    (children : List Extent) (names : List String) : Prop where
  called : List.Forall₂ (Called m parent stem (taken ++ names)) children names
  new : ∀ x ∈ children.zip names, x.1.tableAlias = none → x.2 ∉ taken
  apart : (children.zip names).Pairwise Apart

namespace Fresh

variable {child : Extent} {rest : List Extent} {name : String}

theorem given (own : child.tableAlias = some name) (known : name ∈ taken)
    (later : Fresh m parent stem taken rest names) :
    Fresh m parent stem taken (child :: rest) (name :: names) := by
  have wider : taken ++ names ⊆ taken ++ name :: names := by simp
  refine ⟨.cons (.given own) (later.called.imp fun _ _ => .mono wider), ?_, .cons ?_ later.apart⟩
  · intro x hx underived
    rcases List.mem_cons.1 hx with rfl | hx
    · cases own.symm.trans underived
    · exact later.new x hx underived
  · intro y hy derived
    rcases derived with derived | derived
    · cases own.symm.trans derived
    · rintro rfl
      exact later.new y hy derived known

theorem derived (called : Called m parent stem taken child name) (free : name ∉ taken)
    (known : givenAliases rest ⊆ taken)
    (later : Fresh m parent stem (name :: taken) rest names) :
    Fresh m parent stem taken (child :: rest) (name :: names) := by
  have wider : name :: taken ++ names ⊆ taken ++ name :: names := by simp
  refine ⟨.cons (called.mono (by simp)) (later.called.imp fun _ _ => .mono wider), ?_,
    .cons ?_ later.apart⟩
  · intro x hx underived
    rcases List.mem_cons.1 hx with rfl | hx
    · exact free
    · exact fun old => later.new x hx underived (List.mem_cons_of_mem _ old)
  · intro y hy _ same
    have call := List.forall₂_zip later.called hy
    cases own : y.1.tableAlias with
    | none => exact later.new y hy own (same ▸ List.mem_cons_self)
    | some given =>
      -- an alias that is given further on was taken from the start
      have listed := mem_givenAliases.2 ⟨y.1, (List.of_mem_zip hy).1, own⟩
      rw [← call.eq_given own, ← same] at listed
      exact free (known listed)

end Fresh

theorem aliasesFrom_fresh (h : aliasesFrom m parent stem taken children = .ok names)
    (known : givenAliases children ⊆ taken) : Fresh m parent stem taken children names := by
  induction children generalizing taken names with
  | nil =>
    cases h
    exact ⟨.nil, nofun, .nil⟩
  | cons child rest ih =>
    rw [givenAliases_cons] at known
    rcases aliasesFrom_cons_eq_ok h with
      ⟨name, later, own, made, rfl⟩ | ⟨e, later, own, found, made, rfl⟩
    · rw [own] at known
      obtain ⟨takenOwn, takenRest⟩ := List.cons_subset.1 known
      exact .given own takenOwn (ih made takenRest)
    · rw [own] at known
      -- what is derived is taken for the siblings after it
      have wider : givenAliases rest ⊆ derivedAlias m stem taken e :: taken :=
        fun n hn => List.mem_cons_of_mem _ (known hn)
      exact .derived (called_derivedAlias own found taken) (derivedAlias_not_mem m stem taken e)
        known (ih made wider)

theorem aliasesFrom_length (h : aliasesFrom m parent stem taken children = .ok names) :
    names.length = children.length := by
  induction children generalizing taken names with
  | nil =>
    cases h
    rfl
  | cons child rest ih =>
    rcases aliasesFrom_cons_eq_ok h with ⟨_, later, _, made, rfl⟩ | ⟨_, later, _, _, made, rfl⟩
    · rw [List.length_cons, List.length_cons, ih made]
    · rw [List.length_cons, List.length_cons, ih made]

/-- The aliases of siblings below a stem. The counter of a derived one passes over no name but
those of siblings. -/
structure Disciplined (m : Model) (parent : TableId) (stem : String) (children : List Extent)
    (names : List String) : Prop where
  length : names.length = children.length
  kept : ∀ x ∈ children.zip names, ∀ own, x.1.tableAlias = some own → x.2 = own
  apart : (children.zip names).Pairwise Apart
  longer : ∀ x ∈ children.zip names, x.1.tableAlias = none → ProperPrefix stem x.2
  called : ∀ x ∈ children.zip names, Called m parent stem names x.1 x.2

theorem aliases_disciplined (h : aliases m parent stem children = .ok names) :
    Disciplined m parent stem children names := by
  have fresh := aliasesFrom_fresh h (List.Subset.refl _)
  have length := aliasesFrom_length h
  have shown : givenAliases children ⊆ names := by
    intro name listed
    obtain ⟨c, hc, own⟩ := mem_givenAliases.1 listed
    obtain ⟨used, hused, called⟩ := exists_of_mem_right fresh.called.flip hc
    rwa [Called.eq_given called own] at hused
  have called : ∀ x ∈ children.zip names, Called m parent stem names x.1 x.2 := fun x hx =>
    (List.forall₂_zip fresh.called hx).mono (List.append_subset.2 ⟨shown, List.Subset.refl _⟩)
  exact ⟨length, fun x hx _ own => (called x hx).eq_given own, fresh.apart,
    fun x hx own => (called x hx).properPrefix own, called⟩

theorem aliases_nodup (h : aliases m parent stem children = .ok names)
    (distinct : (givenAliases children).Nodup) : names.Nodup := by
  have siblings := aliases_disciplined h
  have given : (children.zip names).Pairwise fun x y =>
      ∀ a, x.1.tableAlias = some a → ∀ b, y.1.tableAlias = some b → a ≠ b := by
    have differ := List.pairwise_filterMap.1 distinct
    rwa [← List.map_fst_zip siblings.length.ge, List.pairwise_map] at differ
  rw [← List.map_snd_zip siblings.length.le, List.Nodup, List.pairwise_map]
  refine (siblings.apart.and given).imp_of_mem ?_
  rintro x y hx hy ⟨apart, given⟩
  cases ownX : x.1.tableAlias with
  | none => exact apart (.inl ownX)
  | some a =>
    cases ownY : y.1.tableAlias with
    | none => exact apart (.inr ownY)
    | some b =>
      rw [siblings.kept x hx a ownX, siblings.kept y hy b ownY]
      exact given a ownX b ownY

end Siblings

end RelationAtlas.Query
