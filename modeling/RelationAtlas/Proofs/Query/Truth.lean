import Mathlib.Order.Lattice
import RelationAtlas.Query.Statement

/-! # Truth of conditions

A condition is true of the rows at hand, false, or unknown: whatever is compared with NULL, the
outcome is unknown. A row belongs to an answer when all conditions are true of it. -/

namespace RelationAtlas.Query

inductive Truth
  | yes
  | no
  | unknown
deriving DecidableEq, Repr

namespace Truth

def ofBool (b : Bool) : Truth := if b then yes else no

def and : Truth → Truth → Truth
  | no, _ => no
  | _, no => no
  | yes, yes => yes
  | _, _ => unknown

def all (ts : List Truth) : Truth := ts.foldr and yes

def or : Truth → Truth → Truth
  | yes, _ => yes
  | _, yes => yes
  | no, no => no
  | _, _ => unknown

def any (ts : List Truth) : Truth := ts.foldr or no

def compare {V : Type} (related : V → V → Bool) : Option V → Option V → Truth
  | some v, some w => ofBool (related v w)
  | _, _ => unknown

@[simp] theorem ofBool_eq_yes {b : Bool} : ofBool b = yes ↔ b = true := by
  cases b <;> decide

@[simp] theorem and_eq_yes {s t : Truth} : s.and t = yes ↔ s = yes ∧ t = yes := by
  cases s <;> cases t <;> decide

theorem all_eq_yes {ts : List Truth} : all ts = yes ↔ ∀ t ∈ ts, t = yes := by
  induction ts with
  | nil => simp [all]
  | cons t ts ih =>
    rw [List.forall_mem_cons, ← ih]
    exact and_eq_yes

@[simp] theorem or_eq_yes {s t : Truth} : s.or t = yes ↔ s = yes ∨ t = yes := by
  cases s <;> cases t <;> decide

theorem any_eq_yes {ts : List Truth} : any ts = yes ↔ yes ∈ ts := by
  induction ts with
  | nil => simp [any]
  | cons t ts ih =>
    rw [List.mem_cons, ← ih, eq_comm (a := yes)]
    exact or_eq_yes

theorem compare_beq_eq_yes {V : Type} [DecidableEq V] {x y : Option V} :
    compare (fun v w => v == w) x y = yes ↔ x = y ∧ y.isSome := by
  cases x <;> cases y <;> simp [compare]

end Truth

/-- What a statement meets in the database: the values that stand in the columns of the rows at
hand, the value that a text stands for beside a column, and which values have a pattern. -/
structure Reading (V : Type) where
  cell : ColumnRef → Option V
  literal : ColumnRef → String → V
  matching : V → String → Bool

namespace Reading

variable {V : Type}

def given (r : Reading V) (c : ColumnRef) (text : Option String) : Option V :=
  text.map (r.literal c)

variable [LinearOrder V]

def truth (r : Reading V) : Condition → Truth
  | .equals c text => Truth.compare (fun v w => v == w) (r.cell c) (some (r.literal c text))
  | .isNull c => .ofBool (r.cell c).isNone
  | .atLeast c text => Truth.compare (fun v w => w ≤ v) (r.cell c) (some (r.literal c text))
  | .atMost c text => Truth.compare (fun v w => v ≤ w) (r.cell c) (some (r.literal c text))
  | .like c pattern => ((r.cell c).map fun v => .ofBool (r.matching v pattern)).getD .unknown
  | .joins c d => Truth.compare (fun v w => v == w) (r.cell c) (r.cell d)

def judge (r : Reading V) : Predicate → Truth
  | .condition c => r.truth c
  | .anyOf cs => Truth.any (cs.map r.truth)

def Satisfies (r : Reading V) (cs : List Condition) : Prop :=
  Truth.all (cs.map r.truth) = .yes

instance (r : Reading V) (cs : List Condition) : Decidable (r.Satisfies cs) :=
  inferInstanceAs (Decidable (Truth.all (cs.map r.truth) = .yes))

theorem satisfies_iff {r : Reading V} {cs : List Condition} :
    r.Satisfies cs ↔ ∀ c ∈ cs, r.truth c = .yes := by
  rw [Satisfies, Truth.all_eq_yes, List.forall_mem_map]

theorem truth_equality {r : Reading V} {c : ColumnRef} {text : Option String} :
    r.truth (equality c text) = .yes ↔ r.cell c = r.given c text := by
  cases text with
  | none => simp [equality, truth, given]
  | some text =>
    rw [equality, truth, Truth.compare_beq_eq_yes]
    exact and_iff_left rfl

end Reading

end RelationAtlas.Query
