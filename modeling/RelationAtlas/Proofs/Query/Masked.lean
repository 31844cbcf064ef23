import RelationAtlas.Proofs.Outcome
import RelationAtlas.Proofs.Query.Reads
import RelationAtlas.Query.Compile

/-! # Masked extents compile alike

Masking erases the texts of filter values and scan terms. No step of the compiler looks at them,
so an extent and its masked form compile to tokens that differ in the values of literals only. -/

namespace RelationAtlas

def ScanOption.masked : ScanOption → ScanOption
  | equal _ => equal ""
  | substring _ => substring ""

def ScanTerm.masked (t : ScanTerm) : ScanTerm := { t with option := t.option.masked }

def Scan.masked (s : Scan) : Scan := ⟨"", s.terms.map ScanTerm.masked⟩

/-- The hop without the texts it compares with. Which values are NULL remains. -/
def Hop.masked (hop : Hop) : Hop :=
  { hop with
    values := hop.values.map (Option.map fun _ => "")
    scan := hop.scan.map Scan.masked }

namespace Extent

mutual

def masked : Extent → Extent
  | ⟨hop, children⟩ => ⟨hop.masked, maskedAll children⟩

def maskedAll : List Extent → List Extent
  | [] => []
  | e :: es => e.masked :: maskedAll es

end

mutual

theorem walk_masked : ∀ e : Extent, e.masked.walk = e.walk.map Hop.masked
  | ⟨hop, children⟩ => by
    rw [masked, walk, walk, List.map_cons, walkAll_masked children]

theorem walkAll_masked : ∀ es : List Extent, walkAll (maskedAll es) = (walkAll es).map Hop.masked
  | [] => rfl
  | e :: es => by
    rw [maskedAll, walkAll, walkAll, List.map_append, walk_masked e, walkAll_masked es]

end

theorem tableAlias_masked (e : Extent) : e.masked.tableAlias = e.tableAlias := by
  cases e
  rfl

theorem toHop_masked (e : Extent) : e.masked.toHop = e.toHop.masked := by
  cases e
  rfl

theorem children_masked (e : Extent) : e.masked.children = maskedAll e.children := by
  cases e
  rfl

end Extent

namespace Query

def Token.masked : Token → Token
  | literal _ => literal ""
  | t => t

theorem masked_joined (separator : String) (items : List (List Token)) :
    (joined separator items).map Token.masked =
      joined separator (items.map fun ts => ts.map Token.masked) := by
  induction items with
  | nil => rfl
  | cons item items ih =>
    cases items with
    | nil => simp [joined]
    | cons next items =>
      rw [joined_cons_cons, List.map_append, List.map_append, ih]
      simp only [List.map_cons, joined_cons_cons]
      rfl

def Condition.shape (c : Condition) : List Token := c.tokens.map Token.masked

def Predicate.shape (p : Predicate) : List Token := p.tokens.map Token.masked

theorem masked_conditions (separator : String) (cs : List Condition) :
    (joined separator (cs.map Condition.tokens)).map Token.masked =
      joined separator (cs.map Condition.shape) := by
  rw [masked_joined, List.map_map]
  rfl

theorem masked_predicates (separator : String) (ps : List Predicate) :
    (joined separator (ps.map Predicate.tokens)).map Token.masked =
      joined separator (ps.map Predicate.shape) := by
  rw [masked_joined, List.map_map]
  rfl

theorem masked_itemsOrOne {xs ys : List (List Token)}
    (h : xs.map (fun ts => ts.map Token.masked) = ys.map fun ts => ts.map Token.masked) :
    (itemsOrOne xs).map Token.masked = (itemsOrOne ys).map Token.masked := by
  have some : xs.isEmpty = ys.isEmpty := by simpa using congrArg List.isEmpty h
  rw [itemsOrOne, itemsOrOne, some]
  split_ifs
  · rfl
  · rw [masked_joined, masked_joined, h]

theorem shape_equality (c : ColumnRef) (value : Option String) :
    (equality c (value.map fun _ => "")).shape = (equality c value).shape := by
  cases value <;> rfl

theorem shape_atOrAfter (c : ColumnRef) (direction : Direction) (value : Option String) :
    (atOrAfter c direction (value.map fun _ => "")).map Condition.shape =
      (atOrAfter c direction value).map Condition.shape := by
  cases value with
  | none => rfl
  | some value =>
    rw [Option.map_some, atOrAfter, atOrAfter]
    split_ifs <;> rfl

def maskedPosition (position : List (Option String × OrderColumn)) :
    List (Option String × OrderColumn) :=
  position.map fun p => (p.1.map fun _ => "", p.2)

theorem zip_masked (hop : Hop) :
    hop.masked.values.zip hop.masked.order = maskedPosition (hop.values.zip hop.order) := by
  rw [Hop.masked, maskedPosition, List.zip_map_left]
  rfl

theorem shape_matchConditions (tableAlias : String)
    (position : List (Option String × OrderColumn)) :
    (matchConditions tableAlias (maskedPosition position)).map Condition.shape =
      (matchConditions tableAlias position).map Condition.shape := by
  rw [matchConditions, matchConditions, maskedPosition, List.map_map, List.map_map, List.map_map]
  exact List.map_congr_left fun p _ => shape_equality _ p.1

theorem shape_seekConditions (tableAlias : String) (keys : Nat)
    (position : List (Option String × OrderColumn)) :
    (seekConditions tableAlias keys (maskedPosition position)).map Condition.shape =
      (seekConditions tableAlias keys position).map Condition.shape := by
  induction position generalizing keys with
  | nil => rfl
  | cons p position ih =>
    obtain ⟨value, o⟩ := p
    have last : (maskedPosition position).isEmpty = position.isEmpty := by
      cases position <;> rfl
    change List.map Condition.shape (seekConditions tableAlias keys
      ((value.map fun _ => "", o) :: maskedPosition position)) = _
    rw [seekConditions, seekConditions, last]
    split_ifs
    · exact shape_atOrAfter _ _ value
    · rw [List.map_cons, List.map_cons, shape_equality, ih]

theorem shape_scanCondition (tableAlias : String) (t : ScanTerm) :
    (scanCondition tableAlias t.masked).shape = (scanCondition tableAlias t).shape := by
  obtain ⟨column, option⟩ := t
  cases option <;> rfl

theorem shape_anyOf {cs ds : List Condition}
    (h : cs.map Condition.shape = ds.map Condition.shape) :
    (Predicate.anyOf cs).shape = (Predicate.anyOf ds).shape := by
  cases cs with
  | nil =>
    cases ds with
    | nil => rfl
    | cons d ds => cases h
  | cons c cs =>
    cases ds with
    | nil => cases h
    | cons d ds =>
      rw [Predicate.shape, Predicate.shape, Predicate.tokens, Predicate.tokens, List.map_append,
        List.map_append, List.map_append, List.map_append, masked_conditions, masked_conditions, h]
      · nofun
      · nofun

theorem shape_predicates (m : Model) (e : RelationEnd) (parentAlias : Option String)
    (tableAlias : String) (hop : Hop) :
    (predicates m e parentAlias tableAlias hop.masked).map Predicate.shape =
      (predicates m e parentAlias tableAlias hop).map Predicate.shape := by
  have search : ((hop.scan.map Scan.masked).map (scanPredicate tableAlias)).toList.map
      Predicate.shape = (hop.scan.map (scanPredicate tableAlias)).toList.map Predicate.shape := by
    cases hop.scan with
    | none => rfl
    | some s =>
      refine congrArg (fun p => [p]) (shape_anyOf ?_)
      rw [Scan.masked, List.map_map, List.map_map, List.map_map]
      exact List.map_congr_left fun t _ => shape_scanCondition tableAlias t
  have conditions : ∀ cs : List Condition, (cs.map Predicate.condition).map Predicate.shape =
      cs.map Condition.shape := by
    intro cs
    rw [List.map_map]
    rfl
  simp only [predicates, List.map_append, conditions, zip_masked]
  rw [show hop.masked.keyCount = hop.keyCount from rfl, shape_seekConditions]
  exact congrArg _ search

namespace Selection

structure Alike (s t : Selection) : Prop where
  head : s.head.map Token.masked = t.head.map Token.masked
  first : (s.firstItems.map fun ts => ts.map Token.masked) =
    t.firstItems.map fun ts => ts.map Token.masked
  last : (s.lastItems.map fun ts => ts.map Token.masked) =
    t.lastItems.map fun ts => ts.map Token.masked
  tail : s.tail.map Token.masked = t.tail.map Token.masked

theorem alike_of_shapes (s : Selection) {matching : List Condition} {predicates : List Predicate}
    (flag : matching.map Condition.shape = s.matching.map Condition.shape)
    (filter : predicates.map Predicate.shape = s.predicates.map Predicate.shape) :
    Alike { s with matching, predicates } s := by
  have unflagged : matching.isEmpty = s.matching.isEmpty := by
    simpa using congrArg List.isEmpty flag
  have unfiltered : predicates.isEmpty = s.predicates.isEmpty := by
    simpa using congrArg List.isEmpty filter
  have flags : (flagTokens matching).map Token.masked =
      (flagTokens s.matching).map Token.masked := by
    simp only [flagTokens, List.map_append, masked_conditions, flag]
  have filters : (if predicates.isEmpty then []
      else [.raw " where "] ++ joined " and " (predicates.map Predicate.tokens)).map Token.masked =
        (if s.predicates.isEmpty then []
          else [.raw " where "] ++ joined " and " (s.predicates.map Predicate.tokens)).map
            Token.masked := by
    rw [unfiltered]
    split_ifs
    · rfl
    · rw [List.map_append, List.map_append, masked_predicates, masked_predicates, filter]
  refine ⟨rfl, ?_, rfl, ?_⟩
  · simp only [firstItems, unflagged, List.map_append]
    split_ifs
    · rfl
    · simp only [List.map_cons, List.map_nil, flags]
  · simp only [tail, List.map_append, filters]

end Selection

theorem alike_selection (m : Model) (e : RelationEnd) (parentAlias : Option String)
    (tableAlias : String) (hop : Hop) (columns : List Column) :
    (selection m e parentAlias tableAlias hop.masked columns).Alike
      (selection m e parentAlias tableAlias hop columns) := by
  refine (selection m e parentAlias tableAlias hop columns).alike_of_shapes ?_
    (shape_predicates m e parentAlias tableAlias hop)
  rw [zip_masked]
  exact shape_matchConditions tableAlias _

def shapesOf (qs : List Subquery) : List (List Token) :=
  (subqueryTokens qs).map fun ts => ts.map Token.masked

theorem masked_tokens {s t : Selection} {qs rs : List Subquery} (own : s.Alike t)
    (nested : shapesOf qs = shapesOf rs) : (Subquery.tokens ⟨s, qs⟩).map Token.masked =
      (Subquery.tokens ⟨t, rs⟩).map Token.masked := by
  have items : (s.firstItems ++ subqueryTokens qs ++ s.lastItems).map (fun ts => ts.map
      Token.masked) = (t.firstItems ++ subqueryTokens rs ++ t.lastItems).map fun ts => ts.map
        Token.masked := by
    simp only [List.map_append, own.first, own.last]
    rw [← shapesOf, nested, shapesOf]
  rw [Subquery.tokens, Subquery.tokens, List.map_append, List.map_append, List.map_append,
    List.map_append, own.head, own.tail, masked_itemsOrOne items]

theorem aliasesFrom_masked (m : Model) (parent : TableId) (stem : String) (taken : List String)
    (children : List Extent) : aliasesFrom m parent stem taken (Extent.maskedAll children) =
      aliasesFrom m parent stem taken children := by
  induction children generalizing taken with
  | nil => rfl
  | cons child rest ih =>
    rw [Extent.maskedAll, aliasesFrom, aliasesFrom, child.tableAlias_masked, child.toHop_masked]
    simp only [ih]
    rfl

theorem aliases_masked (m : Model) (parent : TableId) (stem : String) (children : List Extent) :
    aliases m parent stem (Extent.maskedAll children) = aliases m parent stem children := by
  have given : ∀ es : List Extent, (Extent.maskedAll es).filterMap (fun c => c.tableAlias) =
      es.filterMap fun c => c.tableAlias := by
    intro es
    induction es with
    | nil => rfl
    | cons e es ih => simp only [Extent.maskedAll, List.filterMap_cons, e.tableAlias_masked, ih]
  rw [aliases, aliases, given, aliasesFrom_masked]

theorem selectedColumns_masked (t : Table) (hop : Hop) :
    selectedColumns t hop.masked = selectedColumns t hop := by
  have length : hop.masked.values.length = hop.values.length := List.length_map _
  rw [selectedColumns, selectedColumns, length]
  rfl

section Compile

variable {m : Model}

mutual

theorem compile_masked : ∀ (extent : Extent) (parent : TableId) (parentAlias : Option String)
    (tableAlias : String), (compile m parent parentAlias tableAlias extent.masked).map
      (fun q => q.tokens.map Token.masked) =
        (compile m parent parentAlias tableAlias extent).map fun q => q.tokens.map Token.masked
  | ⟨hop, children⟩, parent, parentAlias, tableAlias => by
    rw [Extent.masked, compile, compile]
    refine map_bind_same (x := relationOf m parent hop) fun e => ?_
    dsimp only
    rw [selectedColumns_masked, aliases_masked]
    refine map_bind_same fun columns => map_bind_same fun names => ?_
    refine map_bind_congr (compileAll_masked children _ _ names) fun qs rs nested => ?_
    refine map_bind_same fun _ => congrArg Except.ok ?_
    exact masked_tokens (alike_selection m e parentAlias tableAlias hop columns) nested

theorem compileAll_masked : ∀ (children : List Extent) (parent : TableId)
    (parentAlias : Option String) (names : List String),
      (compileAll m parent parentAlias names (Extent.maskedAll children)).map shapesOf =
        (compileAll m parent parentAlias names children).map shapesOf
  | [], _, _, names => by cases names <;> rfl
  | _ :: _, _, _, [] => rfl
  | child :: children, parent, parentAlias, name :: names => by
    rw [Extent.maskedAll, compileAll, compileAll]
    refine map_bind_congr (compile_masked child parent parentAlias name) fun q r own => ?_
    refine map_bind_congr (compileAll_masked children parent parentAlias names)
      fun qs rs nested => congrArg Except.ok ?_
    rw [shapesOf, shapesOf, subqueryTokens, subqueryTokens, List.map_cons, List.map_cons, own]
    exact congrArg _ nested

end

end Compile

end Query

end RelationAtlas
