import Mathlib.Data.List.Infix
import RelationAtlas.Proofs.Lookup
import RelationAtlas.Proofs.Model.RelationGraph

/-! # The column that names the rows of a table

Of the character columns that no named end with many rows joins on, the one with the best name is
taken, and of several such the first: one called `name`, then one with `name` in its name, then any
other, where the case of A to Z does not matter. -/

namespace RelationAtlas

namespace Text

theorem equalIgnoringAsciiCase_iff {s t : String} :
    equalIgnoringAsciiCase s t = true ↔ toLowerAscii s = toLowerAscii t :=
  beq_iff_eq

theorem holdsIgnoringAsciiCase_iff {part cs : List Char} : holdsIgnoringAsciiCase part cs = true ↔
    part.map Char.toLower <:+: cs.map Char.toLower := by
  induction cs with
  | nil => simp [holdsIgnoringAsciiCase]
  | cons c rest ih =>
    rw [holdsIgnoringAsciiCase, Bool.or_eq_true, List.isPrefixOf_iff_prefix, ih, List.map_cons,
      List.infix_cons_iff]

theorem containsIgnoringAsciiCase_iff {s part : String} : containsIgnoringAsciiCase s part = true ↔
    (toLowerAscii part).toList <:+: (toLowerAscii s).toList := by
  rw [containsIgnoringAsciiCase, holdsIgnoringAsciiCase_iff, toLowerAscii, toLowerAscii,
    String.toList_ofList, String.toList_ofList]

end Text

/-- The lower the better a name suits a column that names rows. -/
def nameRank (name : String) : Nat :=
  if Text.toLowerAscii name = "name" then 0
  else if "name".toList <:+: (Text.toLowerAscii name).toList then 1
  else 2

theorem nameRank_le (name : String) : nameRank name ≤ 2 := by
  rw [nameRank]
  split_ifs <;> omega

theorem nameRank_eq_zero_iff {name : String} :
    Text.equalIgnoringAsciiCase name "name" = true ↔ nameRank name = 0 := by
  have word : Text.toLowerAscii "name" = "name" := by decide
  rw [Text.equalIgnoringAsciiCase_iff, word, nameRank]
  split_ifs <;> simp [*]

theorem nameRank_le_one_iff {name : String} :
    Text.containsIgnoringAsciiCase name "name" = true ↔ nameRank name ≤ 1 := by
  have word : Text.toLowerAscii "name" = "name" := by decide
  rw [Text.containsIgnoringAsciiCase_iff, word, nameRank]
  split_ifs with called mentioned
  · rw [called]
    exact iff_of_true List.infix_rfl (by omega)
  · exact iff_of_true mentioned (by omega)
  · exact iff_of_false mentioned (by omega)

/-- Looking for the best rank, then for the next one, and then for any member finds the first
member of the lowest rank. -/
theorem first_of_least {α : Type} {p q : α → Bool} (rank : α → Nat) {xs : List α} {x : α}
    (best : ∀ y, p y = true ↔ rank y = 0) (good : ∀ y, q y = true ↔ rank y ≤ 1)
    (bound : ∀ y, rank y ≤ 2) (h : (xs.find? p <|> xs.find? q <|> xs.head?) = some x) :
    ∃ before after, xs = before ++ x :: after ∧ (∀ y ∈ before, rank x < rank y) ∧
      ∀ y ∈ after, rank x ≤ rank y := by
  simp only [Option.orElse_eq_orElse, Option.orElse_eq_or, Option.or_eq_some_iff,
    List.find?_eq_none, List.find?_eq_some_iff_append] at h
  rcases h with ⟨px, before, after, split, others⟩ |
    ⟨nobest, ⟨qx, before, after, split, others⟩ | ⟨nogood, first⟩⟩
  · refine ⟨before, after, split, fun y hy => ?_, fun y _ => ?_⟩
    · have worse := others y hy
      rw [Bool.not_eq_true', ← Bool.not_eq_true, best] at worse
      rw [(best x).1 px]
      omega
    · rw [(best x).1 px]
      exact Nat.zero_le _
  · have above : ∀ y ∈ xs, 1 ≤ rank y := by
      intro y hy
      have worse := nobest y hy
      rw [best] at worse
      omega
    have here := (good x).1 qx
    refine ⟨before, after, split, fun y hy => ?_, fun y hy => ?_⟩
    · have worse := others y hy
      rw [Bool.not_eq_true', ← Bool.not_eq_true, good] at worse
      omega
    · have := above y (by simp [split, hy])
      omega
  · obtain ⟨after, rfl⟩ := List.head?_eq_some_iff.1 first
    refine ⟨[], after, rfl, nofun, fun y hy => ?_⟩
    have worse := nogood y (List.mem_cons_of_mem _ hy)
    rw [good] at worse
    have := bound x
    omega

namespace Model

def JoinedByMany (m : Model) (t : TableId) (p : Nat) : Prop :=
  ∃ e < m.ends.length, (m.relationEnd e).table = t ∧ (m.relationEnd e).name.isSome ∧
    (m.relationEnd e).many = true ∧ p ∈ (m.relationEnd e).columns

structure MayName (m : Model) (t : TableId) (p : Nat) (c : Column) : Prop where
  column : (m.table t).columns[p]? = some c
  character : c.type.isCharacter = true
  free : ¬m.JoinedByMany t p

/-- The name of a column is better than that of another one, or as good and no later in the
table. -/
def NoWorse (p : Nat) (c : Column) (q : Nat) (d : Column) : Prop :=
  nameRank c.name < nameRank d.name ∨ nameRank c.name = nameRank d.name ∧ p ≤ q

theorem mem_sharedColumns_iff {m : Model} {t : TableId} {p : Nat} :
    p ∈ sharedColumns m.ends t ↔ m.JoinedByMany t p := by
  simp only [sharedColumns, List.mem_flatMap, List.mem_filter, Bool.and_eq_true, beq_iff_eq]
  constructor
  · rintro ⟨e, ⟨he, ⟨own, named⟩, many⟩, hp⟩
    obtain ⟨i, at_i⟩ := List.mem_iff_getElem?.1 he
    refine ⟨i, (List.getElem?_eq_some_iff.1 at_i).1, ?_⟩
    rw [relationEnd_eq at_i]
    exact ⟨own, named, many, hp⟩
  · rintro ⟨i, inside, own, named, many, hp⟩
    have at_i := List.getElem?_eq_getElem inside
    rw [relationEnd_eq at_i] at own named many hp
    exact ⟨_, ⟨List.getElem_mem inside, ⟨own, named⟩, many⟩, hp⟩

section Choice

variable {columns : List Column} {shared : List Nat}

def candidates (columns : List Column) (shared : List Nat) : List (Column × Nat) :=
  columns.zipIdx.filter fun (c, i) => c.type.isCharacter && !shared.contains i

theorem mem_candidates_iff {c : Column} {p : Nat} : (c, p) ∈ candidates columns shared ↔
    columns[p]? = some c ∧ c.type.isCharacter = true ∧ p ∉ shared := by
  rw [candidates, List.mem_filter, List.mem_zipIdx_iff_getElem?]
  simp

theorem candidates_ascending (columns : List Column) (shared : List Nat) :
    (candidates columns shared).Pairwise fun a b => a.2 < b.2 := by
  refine List.Pairwise.filter _ (List.pairwise_map.1 ?_)
  rw [List.zipIdx_map_snd]
  exact List.pairwise_lt_range'

theorem primaryName?_eq (columns : List Column) (shared : List Nat) :
    primaryName? columns shared =
      (((candidates columns shared).find? fun d =>
          Text.equalIgnoringAsciiCase d.1.name "name") <|>
        ((candidates columns shared).find? fun d =>
          Text.containsIgnoringAsciiCase d.1.name "name") <|>
        (candidates columns shared).head?).map Prod.snd := rfl

theorem primaryName?_eq_none_iff :
    primaryName? columns shared = none ↔ candidates columns shared = [] := by
  rw [primaryName?_eq]
  cases candidates columns shared with
  | nil => simp
  | cons d ds => simp [Option.orElse_eq_or]

theorem primaryName?_eq_some {p : Nat} (h : primaryName? columns shared = some p) :
    ∃ c, (c, p) ∈ candidates columns shared ∧
      ∀ d q, (d, q) ∈ candidates columns shared → NoWorse p c q d := by
  rw [primaryName?_eq] at h
  obtain ⟨⟨c, p⟩, found, rfl⟩ := Option.map_eq_some_iff.1 h
  obtain ⟨before, after, split, earlier, later⟩ := first_of_least
    (fun d : Column × Nat => nameRank d.1.name) (fun _ => nameRank_eq_zero_iff)
    (fun _ => nameRank_le_one_iff) (fun _ => nameRank_le _) found
  dsimp only at earlier later
  refine ⟨c, by simp [split], fun d q hd => ?_⟩
  have ascending := candidates_ascending columns shared
  rw [split, List.pairwise_append, List.pairwise_cons] at ascending
  rw [split, List.mem_append, List.mem_cons] at hd
  rcases hd with hd | same | hd
  · exact .inl (earlier (d, q) hd)
  · cases same
    exact .inr ⟨rfl, Nat.le_refl _⟩
  · have behind : p < q := ascending.2.1.1 (d, q) hd
    rcases Nat.lt_or_eq_of_le (later (d, q) hd) with less | same
    · exact .inl less
    · exact .inr ⟨same, Nat.le_of_lt behind⟩

end Choice

theorem mayName_iff {m : Model} {t : TableId} {p : Nat} {c : Column} : m.MayName t p c ↔
    (c, p) ∈ candidates (m.table t).columns (sharedColumns m.ends t) := by
  rw [mem_candidates_iff, mem_sharedColumns_iff]
  exact ⟨fun ⟨column, character, free⟩ => ⟨column, character, free⟩,
    fun ⟨column, character, free⟩ => ⟨column, character, free⟩⟩

theorem filter_isPrimaryName {t : Table}
    (flagged : ∀ p < t.columns.length, t.isPrimaryName p = (t.primaryName == some p))
    (within : ∀ p, t.primaryName = some p → p < t.columns.length) :
    (List.range t.columns.length).filter t.isPrimaryName = t.primaryName.toList := by
  rw [List.filter_congr fun p hp => flagged p (List.mem_range.1 hp)]
  cases found : t.primaryName with
  | none =>
    rw [Option.toList_none, List.filter_eq_nil_iff]
    simp
  | some p =>
    have once : ((List.range t.columns.length).map id).count (id p) ≤ 1 := by
      rw [List.map_id]
      exact List.nodup_iff_count_le_one.1 List.nodup_range p
    rw [Option.toList_some, ← filter_key once (List.mem_range.2 (within p found))]
    refine List.filter_congr fun q _ => ?_
    simp [eq_comm]

namespace Assembled

variable {tables : List Table} {m : Model} {t : TableId} (a : Assembled tables m)
  (inside : t < m.tables.length)
include a inside

theorem primaryName_eq : (m.table t).primaryName =
    primaryName? (m.table t).columns (sharedColumns m.ends t) := by
  rw [a.tables_length] at inside
  have found := List.getElem?_eq_getElem inside
  rw [a.table_eq found, closeUp_primaryName, (a.placed t _ found).id]

theorem isPrimaryName_eq {p : Nat} (known : p < (m.table t).columns.length) :
    (m.table t).isPrimaryName p = ((m.table t).primaryName == some p) := by
  rw [a.tables_length] at inside
  have found := List.getElem?_eq_getElem inside
  rw [a.table_eq found, closeUp_columns_length] at known
  rw [a.table_eq found, closeUp_isPrimaryName (a.placed t _ found).plain known]

theorem primaryName_eq_none_iff : (m.table t).primaryName = none ↔
    ∀ (p : Nat) c, (m.table t).columns[p]? = some c → c.type.isCharacter = true →
      m.JoinedByMany t p := by
  rw [a.primaryName_eq inside, primaryName?_eq_none_iff, List.eq_nil_iff_forall_not_mem]
  constructor
  · intro none p c column character
    by_contra free
    exact none (c, p) (mayName_iff.1 ⟨column, character, free⟩)
  · rintro joined ⟨c, p⟩ listed
    obtain ⟨column, character, free⟩ := mayName_iff.2 listed
    exact free (joined p c column character)

theorem exists_best {p : Nat} (found : (m.table t).primaryName = some p) :
    ∃ c, m.MayName t p c ∧ ∀ q d, m.MayName t q d → NoWorse p c q d := by
  rw [a.primaryName_eq inside] at found
  obtain ⟨c, listed, others⟩ := primaryName?_eq_some found
  exact ⟨c, mayName_iff.2 listed, fun q d hd => others d q (mayName_iff.1 hd)⟩

end Assembled

variable {options : BrowseOptions} {catalog : Catalog} {m : Model}

/-- A table has one column that names its rows, or none if each character column of it is joined on
by a named end of many rows. It is a character column that is not, and none of these has a better
name, or as good a name and an earlier place. -/
theorem primaryName_best (h : build options catalog = .ok m) {t : TableId}
    (inside : t < m.tables.length) :
    (List.range (m.table t).columns.length).filter (m.table t).isPrimaryName =
      (m.table t).primaryName.toList ∧
    ((m.table t).primaryName = none ↔ ∀ (p : Nat) c, (m.table t).columns[p]? = some c →
      c.type.isCharacter = true → m.JoinedByMany t p) ∧
    ∀ p, (m.table t).primaryName = some p → ∃ c, m.MayName t p c ∧
      ∀ q d, m.MayName t q d → NoWorse p c q d := by
  obtain ⟨tables, a⟩ := assembled_of_build h
  refine ⟨filter_isPrimaryName (fun p => a.isPrimaryName_eq inside) ?_,
    a.primaryName_eq_none_iff inside, fun p found => a.exists_best inside found⟩
  intro p found
  obtain ⟨c, named, -⟩ := a.exists_best inside found
  exact (List.getElem?_eq_some_iff.1 named.column).1

def club : Catalog where
  tables := [
    { name := ⟨["member"], .inr rfl⟩
      columns := [⟨"id", "int", false⟩, ⟨"motto", "nvarchar", true⟩, ⟨"Name", "nvarchar", false⟩,
        ⟨"FullName", "nvarchar", false⟩, ⟨"nickname", "nvarchar", true⟩]
      indexes := [⟨"pk_member", true, true, [⟨"id", .ascending⟩], none⟩]
      foreignKeys := [⟨"team", ["Name"], ⟨["team"], .inr rfl⟩, "pk_team"⟩] },
    { name := ⟨["team"], .inr rfl⟩
      columns := [⟨"title", "nvarchar", true⟩, ⟨"NAME", "nvarchar", false⟩]
      indexes := [⟨"pk_team", true, true, [⟨"NAME", .ascending⟩], none⟩] }]

def clubModel : Model := (build {} club).toOption.getD ⟨[], [], none⟩

theorem build_club : build {} club = .ok clubModel := by
  have succeeds : (build {} club).isOk = true := by decide +kernel
  obtain ⟨m, built⟩ := exists_ok_of_isOk succeeds
  rw [clubModel, built]
  rfl

theorem primaryName_best_club :
    (List.range (clubModel.table 1).columns.length).filter (clubModel.table 1).isPrimaryName = [3] ∧
    clubModel.JoinedByMany 1 2 ∧
    ∃ c, clubModel.MayName 1 3 c ∧ ∀ q d, clubModel.MayName 1 q d → NoWorse 3 c q d := by
  obtain ⟨flagged, -, best⟩ := primaryName_best build_club (t := 1) (by decide +kernel)
  have chosen : (clubModel.table 1).primaryName = some 3 := by decide +kernel
  have joined : clubModel.JoinedByMany 1 2 := ⟨5, by decide +kernel⟩
  rw [chosen] at flagged
  exact ⟨flagged, joined, best 3 chosen⟩

end Model

end RelationAtlas
