import Mathlib.Data.String.Basic
import RelationAtlas.Proofs.ColumnType.Canonical
import RelationAtlas.Proofs.Query.Pattern
import RelationAtlas.Proofs.Query.ReadBack
import RelationAtlas.Proofs.Query.Truth

/-! # Searches

A search for a text finds the rows in which a character column contains the text as it stands, or
in which another column equals the one value that the text is for its type. With the empty text no
column takes part, and where none does no row is found. -/

namespace RelationAtlas

namespace ColumnType

def isExact : ColumnType → Bool
  | integer _ | decimal | float | guid => true
  | character _ | dateTime _ | binary | assembly => false

def TakesPart (type : ColumnType) (text : String) : Prop :=
  type.isCharacter = true ∧ text ≠ "" ∨
    type.isExact = true ∧ ∃ value, type.validate text = .ok (.exact value)

theorem scanOption?_of_isExact {type : ColumnType} (h : type.isExact = true) (text : String) :
    type.scanOption? text = (exactValue? (type.validate text)).map .equal := by
  cases type with
  | integer | decimal | float | guid => rfl
  | character | dateTime | binary | assembly => cases h

theorem scanOption?_eq_some_iff {type : ColumnType} {text : String} {option : ScanOption} :
    type.scanOption? text = some option ↔
      type.isCharacter = true ∧ text ≠ "" ∧ .substring text = option ∨
        type.isExact = true ∧ ∃ value, type.validate text = .ok (.exact value) ∧
          .equal value = option := by
  cases type with
  | character unicode => simp [scanOption?, isCharacter, isExact]
  | integer | decimal | float | guid =>
    rw [scanOption?_of_isExact rfl, Option.map_eq_some_iff]
    simp [exactValue?_eq_some_iff, isCharacter, isExact]
  | dateTime | binary | assembly => simp [scanOption?, isCharacter, isExact]

theorem scanOption?_eq_none_iff {type : ColumnType} {text : String} :
    type.scanOption? text = none ↔ ¬type.TakesPart text := by
  rw [Option.eq_none_iff_forall_ne_some, TakesPart]
  simp only [ne_eq, scanOption?_eq_some_iff]
  constructor
  · rintro absent (⟨character, some_left⟩ | ⟨exact_type, value, read⟩)
    · exact absent _ (.inl ⟨character, some_left, rfl⟩)
    · exact absent _ (.inr ⟨exact_type, value, read, rfl⟩)
  · rintro out option (⟨character, some_left, -⟩ | ⟨exact_type, value, read, -⟩)
    · exact out (.inl ⟨character, some_left⟩)
    · exact out (.inr ⟨exact_type, value, read⟩)

/-- The empty text is no value, and every text would contain it. -/
theorem scanOption?_empty (type : ColumnType) : type.scanOption? "" = none := by
  cases type with
  | integer kind => cases kind <;> decide +kernel
  | character | decimal | float | guid | dateTime | binary | assembly => rfl

end ColumnType

namespace Query

variable {V : Type} [LinearOrder V]

namespace Reading

def spelled (cell : ColumnRef → Option V) (literal : ColumnRef → String → V)
    (spelling : V → String) : Reading V :=
  ⟨cell, literal, fun v pattern => like pattern.toList (spelling v).toList⟩

variable {r : Reading V} {c : ColumnRef}

theorem truth_like {pattern : String} :
    r.truth (.like c pattern) = .yes ↔ ∃ v, r.cell c = some v ∧ r.matching v pattern = true := by
  rw [truth]
  cases r.cell c <;> simp

end Reading

def FoundIn (cell : ColumnRef → Option V) (literal : ColumnRef → String → V) (spelling : V → String)
    (tableAlias text : String) (c : Column) : Prop :=
  c.type.isCharacter = true ∧
      (∃ v, cell ⟨tableAlias, c.name⟩ = some v ∧ text.toList <:+: (spelling v).toList) ∨
    c.type.isExact = true ∧ ∃ value, c.type.validate text = .ok (.exact value) ∧
      cell ⟨tableAlias, c.name⟩ = some (literal ⟨tableAlias, c.name⟩ value)

variable {cell : ColumnRef → Option V} {literal : ColumnRef → String → V} {spelling : V → String}
  {tableAlias text : String}

theorem judge_scanPredicate {r : Reading V} {t : Table} :
    r.judge (scanPredicate tableAlias (Scan.ofTable t text)) = .yes ↔
      ∃ c ∈ t.columns, ∃ option, c.type.scanOption? text = some option ∧
        r.truth (scanCondition tableAlias ⟨c.name, option⟩) = .yes := by
  rw [scanPredicate, Reading.judge, Truth.any_eq_yes]
  simp only [Scan.ofTable, List.mem_map, List.mem_filterMap, Option.map_eq_some_iff]
  constructor
  · rintro ⟨_, ⟨_, ⟨c, hc, option, searched, rfl⟩, rfl⟩, holds⟩
    exact ⟨c, hc, option, searched, holds⟩
  · rintro ⟨c, hc, option, searched, holds⟩
    exact ⟨_, ⟨_, ⟨c, hc, option, searched, rfl⟩, rfl⟩, holds⟩

theorem truth_substring {name : String} : (Reading.spelled cell literal spelling).truth
      (scanCondition tableAlias ⟨name, .substring text⟩) = .yes ↔
    ∃ v, cell ⟨tableAlias, name⟩ = some v ∧ text.toList <:+: (spelling v).toList := by
  rw [scanCondition, Reading.truth_like]
  simp only [Reading.spelled, like_containsPattern]

theorem truth_equal {r : Reading V} {name value : String} :
    r.truth (scanCondition tableAlias ⟨name, .equal value⟩) = .yes ↔
      r.cell ⟨tableAlias, name⟩ = some (r.literal ⟨tableAlias, name⟩ value) :=
  @Reading.truth_equality V _ r ⟨tableAlias, name⟩ (some value)

theorem scanCondition_iff {c : Column} (some_left : text ≠ "") :
    (∃ option, c.type.scanOption? text = some option ∧
        (Reading.spelled cell literal spelling).truth
          (scanCondition tableAlias ⟨c.name, option⟩) = .yes) ↔
      FoundIn cell literal spelling tableAlias text c := by
  simp only [ColumnType.scanOption?_eq_some_iff]
  constructor
  · rintro ⟨_, ⟨character, -, rfl⟩ | ⟨exact_type, value, read, rfl⟩, holds⟩
    · exact .inl ⟨character, truth_substring.1 holds⟩
    · exact .inr ⟨exact_type, value, read, truth_equal.1 holds⟩
  · rintro (⟨character, contains⟩ | ⟨exact_type, value, read, own⟩)
    · exact ⟨_, .inl ⟨character, some_left, rfl⟩, truth_substring.2 contains⟩
    · exact ⟨_, .inr ⟨exact_type, value, read, rfl⟩, truth_equal.2 own⟩

theorem judge_of_no_terms {r : Reading V} {t : Table}
    (none_searched : ∀ c ∈ t.columns, c.type.scanOption? text = none) :
    r.judge (scanPredicate tableAlias (Scan.ofTable t text)) = .no := by
  have no_terms : (Scan.ofTable t text).terms = [] := by
    apply List.filterMap_eq_nil_iff.2
    intro c hc
    rw [none_searched c hc]
    rfl
  rw [scanPredicate, no_terms]
  rfl

def termLexemes (tableAlias : String) (term : ScanTerm) : List Lexeme :=
  [.bracketed tableAlias, .symbol '.', .bracketed term.column] ++ match term.option with
    | .equal value => [.symbol '=', .literal true value]
    | .substring value => [.word "like", .literal true (containsPattern value)]

def searchLexemes (tableAlias : String) : List ScanTerm → List Lexeme
  | [] => [.word "1", .symbol '=', .word "0"]
  | term :: terms =>
    [.symbol '('] ++ [.word "or"].intercalate ((term :: terms).map (termLexemes tableAlias)) ++
      [.symbol ')']

theorem lexemes_scanCondition (tableAlias : String) (term : ScanTerm) :
    (scanCondition tableAlias term).lexemes = termLexemes tableAlias term := by
  rw [scanCondition, termLexemes]
  cases term.option <;> rfl

theorem lexemes_scanPredicate (tableAlias : String) (scan : Scan) :
    (scanPredicate tableAlias scan).lexemes = searchLexemes tableAlias scan.terms := by
  rw [scanPredicate]
  cases scan.terms with
  | nil => rfl
  | cons term terms =>
    rw [List.map_cons, Predicate.lexemes, ← List.map_cons, List.map_map, searchLexemes]
    simp only [Function.comp_def, lexemes_scanCondition]

/-- The text of a search is that of its terms, a value or a pattern for each column that takes part,
and it is read as this search, whatever is searched for. It finds a row exactly if a character
column contains the searched text as it stands or another column equals the value of it. The empty
text finds no row, nor does a search in which no column takes part. -/
theorem search_finds_iff (cell : ColumnRef → Option V) (literal : ColumnRef → String → V)
    (spelling : V → String) (tableAlias : String) (t : Table) (text : String) :
    let search := scanPredicate tableAlias (Scan.ofTable t text)
    let outcome := (Reading.spelled cell literal spelling).judge search
    lexemes? (render search.tokens) =
        some (searchLexemes tableAlias (Scan.ofTable t text).terms) ∧
      (lexemes? (render search.tokens)).bind Predicate.read? = some search ∧
      (text ≠ "" → (outcome = .yes ↔
        ∃ c ∈ t.columns, FoundIn cell literal spelling tableAlias text c)) ∧
      ((text = "" ∨ ∀ c ∈ t.columns, ¬c.type.TakesPart text) → outcome = .no) := by
  refine ⟨?_, Predicate.read_back _, ?_, ?_⟩
  · rw [lexemes?_render (Predicate.reads _), ← lexemes_scanPredicate, ← Predicate.lexemesOf_tokens]
    rfl
  · intro some_left
    rw [judge_scanPredicate]
    apply exists_congr
    intro c
    exact and_congr_right fun _ => scanCondition_iff some_left
  · intro nothing
    apply judge_of_no_terms
    intro c hc
    rcases nothing with rfl | out
    · exact c.type.scanOption?_empty
    · exact ColumnType.scanOption?_eq_none_iff.2 (out c hc)

def productName : Column := ⟨2, "name", "nvarchar", true, .character true, false⟩

def products : Table :=
  { (default : Table) with
    columns := [⟨1, "number", "int", false, .integer .int, false⟩, productName] }

def product (name : Option String) (c : ColumnRef) : Option String :=
  if c.column = "name" then name else some "7"

theorem search_finds_iff_product : "50%" ≠ "" ∧
    (Reading.spelled (product "a 50% share") (fun _ text => text) id).judge
      (scanPredicate "p" (Scan.ofTable products "50%")) = .yes := by
  have some_left : "50%" ≠ "" := by decide
  refine ⟨some_left, ?_⟩
  apply ((search_finds_iff (product "a 50% share") (fun _ text => text) id "p" products
    "50%").2.2.1 some_left).2
  exact ⟨productName, by simp [products], .inl ⟨rfl, "a 50% share", rfl, by decide⟩⟩

/-- Every name contains the empty text, and yet a search for it finds no product. -/
theorem empty_text_finds_none :
    (∃ c ∈ products.columns, FoundIn (product "share") (fun _ text => text) id "p" "" c) ∧
      (Reading.spelled (product "share") (fun _ text => text) id).judge
        (scanPredicate "p" (Scan.ofTable products "")) ≠ .yes := by
  refine ⟨⟨productName, by simp [products], .inl ⟨rfl, ?_⟩⟩, ?_⟩
  · exact ⟨"share", rfl, List.nil_infix⟩
  · decide +kernel

end Query

end RelationAtlas
