import RelationAtlas.Proofs.Extent.Expansion

/-! # Expanders can be used again

An expander takes one call after the other and keeps its path between them. A call leaves the
expander as it found it, also when it is refused. So each call of a sequence is answered as by a
new expander. -/

namespace RelationAtlas.Expander

inductive Call
  | overview (f : Flavor)
  | request (r : ExtentRequest)

def take (x : Expander) : Call → Except BrowseError Extent × Expander
  | .overview f => (.ok (x.overview f).1, (x.overview f).2)
  | .request r => x.request r

def run (x : Expander) : List Call → List (Except BrowseError Extent × Expander)
  | [] => []
  | call :: calls => x.take call :: (x.take call).2.run calls

theorem overview_keeps (x : Expander) (f : Flavor) : (x.overview f).2 = x := by
  have each : ∀ e ∈ x.model.rootTable.relations.values,
      (x.model.expandHop x.defaultLimit e (x.model.expandedHop x.defaultLimit e f)).run x.path =
        (⟨x.model.expandedHop x.defaultLimit e f,
          x.model.childrenOf x.defaultLimit f (x.model.otherEnd e).table (e :: x.path)⟩, x.path) :=
    fun e _ => x.model.expandHop_run x.defaultLimit e _ x.path
  rw [overview, Model.mapM_run_of_keeps each]

theorem request_keeps (x : Expander) (r : ExtentRequest) : (x.request r).2 = x := by
  rw [request]
  split
  · rfl
  · rw [Model.expandHop_run]

theorem take_keeps (x : Expander) (call : Call) : (x.take call).2 = x := by
  cases call with
  | overview f => exact x.overview_keeps f
  | request r => exact x.request_keeps r

theorem run_eq_map (x : Expander) (calls : List Call) : x.run calls = calls.map x.take := by
  induction calls with
  | nil => rfl
  | cons call calls ih => rw [run, take_keeps, ih, List.map_cons]

/-- Of calls that one expander takes in turn, each has the answer of a new expander, be it an extent
or an error, and leaves an empty path. -/
theorem run_fresh (m : Model) (settings : BrowseOptions) (calls : List Call) :
    ((new m settings).run calls).map Prod.fst =
      calls.map (fun call => ((new m settings).take call).1) ∧
    ((new m settings).run calls).map (fun step => step.2.path) =
      List.replicate calls.length [] := by
  rw [run_eq_map, List.map_map, List.map_map]
  refine ⟨rfl, ?_⟩
  rw [← List.map_const']
  refine List.map_congr_left fun call _ => ?_
  change ((new m settings).take call).2.path = []
  rw [take_keeps]
  rfl

end RelationAtlas.Expander
