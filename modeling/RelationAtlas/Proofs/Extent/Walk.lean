import Mathlib.Data.List.Forall2
import RelationAtlas.Extent.Expander

/-! # Walks

What an expansion may show is said by walks along the ends of a model: no end turns up twice, each
is a relation of the table that the end before it leads to, and the flavor is reduced at every
step and does not run out. -/

namespace RelationAtlas.Model

/-- The walks from an end at a flavor, the last step first. -/
inductive Walk (m : Model) (first : EndId) (f : Flavor) : List (EndId × Flavor) → Prop
  | start : Walk m first f [(first, f)]
  | step {e e' : EndId} {g g' : Flavor} {w : List (EndId × Flavor)} :
      Walk m first f ((e, g) :: w) →
      e' ∈ (m.target e).relations.values →
      e' ∉ ((e, g) :: w).map Prod.fst →
      g.reduce (m.navigatesToMany e') (m.isUniquelyTyped e') = some g' →
      Walk m first f ((e', g') :: (e, g) :: w)

theorem reduce_depth {f g : Flavor} {toMany unique : Bool}
    (h : f.reduce toMany unique = some g) : 1 ≤ f.depth ∧ g.depth = min 1 (f.depth - 1) := by
  simp only [Flavor.reduce] at h
  split_ifs at h with hidden
  cases h
  rw [not_or] at hidden
  dsimp only
  omega

def reach (f : Flavor) : Int := min (max f.depth 0) 2

theorem reach_reduce {f g : Flavor} {toMany unique : Bool}
    (h : f.reduce toMany unique = some g) : reach g + 1 = reach f := by
  obtain ⟨more, less⟩ := reduce_depth h
  rw [reach, reach, less]
  omega

namespace Walk

variable {m : Model} {first : EndId} {f : Flavor}

theorem length_add_reach {e : EndId} {g : Flavor} {w : List (EndId × Flavor)}
    (h : m.Walk first f ((e, g) :: w)) : w.length + reach g ≤ reach f := by
  generalize whole : (e, g) :: w = v at h
  induction h generalizing e g w with
  | start =>
    cases whole
    simp
  | step h _ _ reduced ih =>
    cases whole
    have := ih rfl
    have := reach_reduce reduced
    simp only [List.length_cons]
    omega

theorem length_le {w : List (EndId × Flavor)} (h : m.Walk first f w) :
    (w.length : Int) ≤ reach f + 1 := by
  cases w with
  | nil => cases h
  | cons step w =>
    have := h.length_add_reach
    have : 0 ≤ reach step.2 := by rw [reach]; omega
    simp only [List.length_cons]
    omega

theorem suffix {w : List (EndId × Flavor)} (h : m.Walk first f w) : [(first, f)] <:+ w := by
  induction h with
  | start => exact List.suffix_rfl
  | step _ _ _ _ ih => exact ih.trans (List.suffix_cons _ _)

theorem of_suffix {v w : List (EndId × Flavor)} (h : m.Walk first f v) (cut : w <:+ v)
    (some : w ≠ []) : m.Walk first f w := by
  induction h with
  | start =>
    rcases List.suffix_cons_iff.1 cut with rfl | cut
    · exact .start
    · exact absurd (List.suffix_nil.1 cut) some
  | step h listed fresh reduced ih =>
    rcases List.suffix_cons_iff.1 cut with rfl | cut
    · exact .step h listed fresh reduced
    · exact ih cut

theorem last_step {e e' : EndId} {g g' : Flavor} {w : List (EndId × Flavor)}
    (h : m.Walk first f ((e', g') :: (e, g) :: w)) :
    e' ∈ (m.target e).relations.values ∧ e' ∉ ((e, g) :: w).map Prod.fst ∧
      g.reduce (m.navigatesToMany e') (m.isUniquelyTyped e') = some g' := by
  cases h with
  | step _ listed fresh reduced => exact ⟨listed, fresh, reduced⟩

end Walk

end RelationAtlas.Model

namespace RelationAtlas.Extent

mutual

/-- For every extent of a tree the hops that lead to it, the last first. -/
def trails (above : List Hop) : Extent → List (List Hop)
  | ⟨hop, children⟩ => (hop :: above) :: trailsAll (hop :: above) children

def trailsAll (above : List Hop) : List Extent → List (List Hop)
  | [] => []
  | e :: es => e.trails above ++ trailsAll above es

end

mutual

def Ordered : Extent → Prop
  | ⟨_, children⟩ => (∃ names : List String, children.map (fun c => c.relation) = names.map some ∧
      names.Pairwise (· < ·)) ∧ OrderedAll children

def OrderedAll : List Extent → Prop
  | [] => True
  | e :: es => e.Ordered ∧ OrderedAll es

end

mutual

theorem height_of_trails {above : List Hop} {n : Nat} : ∀ {e : Extent},
    (∀ t ∈ e.trails above, t.length ≤ n) → above.length + e.height + 1 ≤ n
  | ⟨hop, children⟩, h => by
    have here := h (hop :: above) (by simp [trails])
    have below : heightAll children = 0 ∨ (hop :: above).length + heightAll children ≤ n :=
      heightAll_of_trails fun t ht => h t (by rw [trails]; exact List.mem_cons_of_mem _ ht)
    simp only [List.length_cons, height] at here below ⊢
    omega

theorem heightAll_of_trails {above : List Hop} {n : Nat} : ∀ {children : List Extent},
    (∀ t ∈ trailsAll above children, t.length ≤ n) → heightAll children = 0 ∨
      above.length + heightAll children ≤ n
  | [], _ => .inl rfl
  | e :: es, h => by
    have first : above.length + e.height + 1 ≤ n :=
      height_of_trails fun t ht => h t (by rw [trailsAll]; exact List.mem_append_left _ ht)
    have rest : heightAll es = 0 ∨ above.length + heightAll es ≤ n :=
      heightAll_of_trails fun t ht => h t (by rw [trailsAll]; exact List.mem_append_right _ ht)
    simp only [heightAll]
    omega

end

end RelationAtlas.Extent
