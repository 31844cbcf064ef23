import Mathlib.Data.List.Infix
import RelationAtlas.Query.Statement

/-! # Patterns

What `like` finds. A pattern is read as wildcards: `%` stands for any text, `_` for any character,
a set in brackets for one of its characters, or for one that it lacks, and any other character for
itself. The pattern that a search text becomes is had by the texts that contain the search text. -/

namespace RelationAtlas.Query

inductive Wildcard
  | anyText
  | anyOne
  | exactly (c : Char)
  | oneOf (ranges : List (Char × Char))
  | noneOf (ranges : List (Char × Char))
deriving DecidableEq, Repr

namespace Wildcard

def ranges : List Char → List (Char × Char)
  | first :: '-' :: last :: cs => (first, last) :: ranges cs
  | c :: cs => (c, c) :: ranges cs
  | [] => []

def ofSet : List Char → Wildcard
  | '^' :: cs => noneOf (ranges cs)
  | cs => oneOf (ranges cs)

def ofChar (c : Char) : Wildcard :=
  if c = '%' then anyText else if c = '_' then anyOne else exactly c

def inRanges (rs : List (Char × Char)) (c : Char) : Bool :=
  rs.any fun (first, last) => decide (first ≤ c) && decide (c ≤ last)

def admits : Wildcard → Char → Bool
  | anyText, _ => false
  | anyOne, _ => true
  | exactly d, c => c == d
  | oneOf rs, c => inRanges rs c
  | noneOf rs, c => !inRanges rs c

end Wildcard

/-- Reads a pattern, or the rest of one behind an opening bracket and some characters of its set,
which come last first. Without its closing bracket a set is no pattern. -/
def wildcards? : Option (List Char) → List Char → Option (List Wildcard)
  | none, [] => some []
  | some _, [] => none
  | none, c :: cs =>
    if c = '[' then wildcards? (some []) cs else (wildcards? none cs).map (.ofChar c :: ·)
  | some set, c :: cs =>
    if c = ']' then (wildcards? none cs).map (.ofSet set.reverse :: ·)
    else wildcards? (some (c :: set)) cs

def accepts : List Wildcard → List Char → Bool
  | [], text => text.isEmpty
  | .anyText :: ws, text => text.tails.any (accepts ws)
  | _ :: _, [] => false
  | w :: ws, c :: text => w.admits c && accepts ws text

def like (pattern text : List Char) : Bool :=
  match wildcards? none pattern with
  | some ws => accepts ws text
  | none => false

def only (c : Char) : Wildcard :=
  if c = '%' ∨ c = '_' ∨ c = '[' then .oneOf [(c, c)] else .exactly c

theorem only_ne_anyText (c : Char) : only c ≠ .anyText := by
  rw [only]
  split_ifs <;> exact nofun

theorem admits_only {c d : Char} : (only c).admits d = true ↔ d = c := by
  rw [only]
  split_ifs
  · simp only [Wildcard.admits, Wildcard.inRanges, List.any_cons, List.any_nil, Bool.or_false,
      Bool.and_eq_true, decide_eq_true_iff]
    constructor
    · rintro ⟨low, high⟩
      exact Char.le_antisymm high low
    · rintro rfl
      exact ⟨Char.le_refl d, Char.le_refl d⟩
  · simp [Wildcard.admits]

theorem accepts_cons_cons {w : Wildcard} (one : w ≠ .anyText) (ws : List Wildcard) (c : Char)
    (text : List Char) : accepts (w :: ws) (c :: text) = (w.admits c && accepts ws text) := by
  cases w with
  | anyText => exact absurd rfl one
  | anyOne | exactly | oneOf | noneOf => rfl

theorem accepts_cons_nil {w : Wildcard} (one : w ≠ .anyText) (ws : List Wildcard) :
    accepts (w :: ws) [] = false := by
  cases w with
  | anyText => exact absurd rfl one
  | anyOne | exactly | oneOf | noneOf => rfl

theorem accepts_only {c : Char} {ws : List Wildcard} {text : List Char} :
    accepts (only c :: ws) text = true ↔ ∃ rest, text = c :: rest ∧ accepts ws rest = true := by
  cases text with
  | nil => simp [accepts_cons_nil (only_ne_anyText c)]
  | cons d text => simp [accepts_cons_cons (only_ne_anyText c), admits_only]

theorem accepts_map_only {cs : List Char} {ws : List Wildcard} {text : List Char} :
    accepts (cs.map only ++ ws) text = true ↔
      ∃ rest, text = cs ++ rest ∧ accepts ws rest = true := by
  induction cs generalizing text with
  | nil => simp
  | cons c cs ih =>
    rw [List.map_cons, List.cons_append, accepts_only]
    constructor
    · rintro ⟨behind, rfl, h⟩
      obtain ⟨rest, rfl, fits⟩ := ih.1 h
      exact ⟨rest, rfl, fits⟩
    · rintro ⟨rest, rfl, fits⟩
      exact ⟨cs ++ rest, rfl, ih.2 ⟨rest, rfl, fits⟩⟩

theorem accepts_anyText {ws : List Wildcard} {text : List Char} :
    accepts (.anyText :: ws) text = true ↔ ∃ rest, rest <:+ text ∧ accepts ws rest = true := by
  rw [accepts, List.any_eq_true]
  simp only [List.mem_tails]

theorem wildcards?_escaped (c : Char) (pattern : List Char) :
    wildcards? none (escapePattern [c] ++ pattern) =
      (wildcards? none pattern).map (only c :: ·) := by
  by_cases special : c = '%' ∨ c = '_' ∨ c = '['
  · rw [only, if_pos special]
    rcases special with rfl | rfl | rfl <;> rfl
  · rw [only, if_neg special]
    simp only [not_or] at special
    simp [escapePattern, wildcards?, Wildcard.ofChar, special]

theorem wildcards?_escapePattern (cs pattern : List Char) :
    wildcards? none (escapePattern cs ++ pattern) =
      (wildcards? none pattern).map (cs.map only ++ ·) := by
  induction cs with
  | nil => simp [escapePattern]
  | cons c cs ih =>
    have split : escapePattern (c :: cs) = escapePattern [c] ++ escapePattern cs := by
      simp [escapePattern]
    rw [split, List.append_assoc, wildcards?_escaped, ih, Option.map_map]
    rfl

theorem wildcards?_containsPattern (value : String) :
    wildcards? none (containsPattern value).toList =
      some (.anyText :: (value.toList.map only ++ [.anyText])) := by
  have inner := wildcards?_escapePattern value.toList ['%']
  rw [containsPattern, String.toList_ofList, List.cons_append, wildcards?, if_neg (by decide), inner]
  rfl

/-- The pattern of a search text is had by the texts that contain it as it stands. -/
theorem like_containsPattern {value : String} {text : List Char} :
    like (containsPattern value).toList text = true ↔ value.toList <:+: text := by
  have ends : ∀ rest, accepts [.anyText] rest = true := by
    intro rest
    exact accepts_anyText.2 ⟨[], List.nil_suffix, rfl⟩
  rw [like, wildcards?_containsPattern]
  simp only [accepts_anyText, accepts_map_only, ends, and_true]
  constructor
  · rintro ⟨_, ⟨before, rfl⟩, after, rfl⟩
    exact ⟨before, after, List.append_assoc _ _ _⟩
  · rintro ⟨before, after, rfl⟩
    exact ⟨value.toList ++ after, ⟨before, (List.append_assoc _ _ _).symm⟩, after, rfl⟩

example : like (containsPattern "50%[").toList "150%[1]".toList = true ∧
    like (containsPattern "50%[").toList "150 [1]".toList = false := by decide

end RelationAtlas.Query
