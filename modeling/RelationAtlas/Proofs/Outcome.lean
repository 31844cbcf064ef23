import Mathlib.Data.List.Forall2

/-! # Outcomes of steps that may fail

When a step, or a list of steps of one kind, succeeds; and what a step that may also be passed over
gives. -/

namespace RelationAtlas

variable {α β ε : Type}

theorem bind_eq_ok_iff {x : Except ε α} {f : α → Except ε β} {b : β} :
    x >>= f = .ok b ↔ ∃ a, x = .ok a ∧ f a = .ok b := by
  cases x with
  | error e => simp [bind, Except.bind]
  | ok a => simp [bind, Except.bind]

theorem exists_bind_ok {x : Except ε α} {f : α → Except ε β} {a : α} (first : x = .ok a)
    (rest : ∃ b, f a = .ok b) : ∃ b, x >>= f = .ok b :=
  rest.imp fun _ made => bind_eq_ok_iff.2 ⟨a, first, made⟩

theorem mapError_eq_ok_iff {δ : Type} {x : Except ε α} {f : ε → δ} {a : α} :
    x.mapError f = .ok a ↔ x = .ok a := by
  cases x <;> simp [Except.mapError]

theorem map_bind_congr {γ δ : Type} {x y : Except ε α} {k : α → δ} {f g : α → Except ε β}
    {h : β → γ} (first : x.map k = y.map k)
    (rest : ∀ a b, k a = k b → (f a).map h = (g b).map h) :
    (x >>= f).map h = (y >>= g).map h := by
  cases x with
  | error e =>
    cases y with
    | error e' => cases first; rfl
    | ok b => cases first
  | ok a =>
    cases y with
    | error e => cases first
    | ok b => exact rest a b (Except.ok.inj first)

theorem map_bind_same {γ : Type} {x : Except ε α} {f g : α → Except ε β} {h : β → γ}
    (rest : ∀ a, (f a).map h = (g a).map h) : (x >>= f).map h = (x >>= g).map h := by
  cases x with
  | error e => rfl
  | ok a => exact rest a

theorem exists_ok_of_isOk {x : Except ε α} (h : x.isOk = true) : ∃ a, x = .ok a := by
  cases x with
  | error e => cases h
  | ok a => exact ⟨a, rfl⟩

theorem eq_ok_of_toOption {x : Except ε α} {a : α} (h : x.toOption = some a) : x = .ok a := by
  cases x with
  | error e => cases h
  | ok b => exact congrArg Except.ok (Option.some.inj h)

theorem exists_forall₂_iff {R : α → β → Prop} {xs : List α} :
    (∃ ys, List.Forall₂ R xs ys) ↔ ∀ x ∈ xs, ∃ y, R x y := by
  induction xs with
  | nil => simp
  | cons x xs ih =>
    rw [List.forall_mem_cons, ← ih]
    constructor
    · rintro ⟨_, _ | ⟨first, later⟩⟩
      exact ⟨⟨_, first⟩, ⟨_, later⟩⟩
    · rintro ⟨⟨y, first⟩, ⟨ys, later⟩⟩
      exact ⟨y :: ys, .cons first later⟩

theorem mapM_eq_ok_iff {f : α → Except ε β} {xs : List α} {ys : List β} :
    xs.mapM f = .ok ys ↔ List.Forall₂ (fun x y => f x = .ok y) xs ys := by
  induction xs generalizing ys with
  | nil => cases ys <;> simp [pure, Except.pure]
  | cons x xs ih =>
    rw [List.mapM_cons, bind_eq_ok_iff]
    simp only [bind_eq_ok_iff, ih, pure, Except.pure, Except.ok.injEq]
    cases ys with
    | nil => simp
    | cons y ys => simp [List.forall₂_cons]

theorem mapM_eq_ok_map {f : α → Except ε β} {g : α → β} {xs : List α}
    (h : ∀ x ∈ xs, f x = .ok (g x)) : xs.mapM f = .ok (xs.map g) :=
  mapM_eq_ok_iff.2 (List.forall₂_map_right_iff.2 (List.forall₂_same.2 h))

theorem mapM_map_eq_ok {read : β → Except ε α} {write : α → β} {xs : List α}
    (h : ∀ x ∈ xs, read (write x) = .ok x) : (xs.map write).mapM read = .ok xs :=
  mapM_eq_ok_iff.2 (List.forall₂_map_left_iff.2 (List.forall₂_same.2 h))

theorem mapM_eq_some_iff {f : α → Option β} {xs : List α} {ys : List β} :
    xs.mapM f = some ys ↔ List.Forall₂ (fun x y => f x = some y) xs ys := by
  induction xs generalizing ys with
  | nil => cases ys <;> simp
  | cons x xs ih =>
    rw [List.mapM_cons]
    simp only [Option.bind_eq_bind, Option.bind_eq_some_iff, ih, pure, Option.some.injEq]
    cases ys with
    | nil => simp
    | cons y ys => simp [List.forall₂_cons]

theorem mapM_filter_flatten {f : α → Except ε (List β)} {p : α → Bool} {xs : List α}
    (h : ∀ x ∈ xs, p x = false → f x = .ok []) :
    ((xs.filter p).mapM f).map List.flatten = (xs.mapM f).map List.flatten := by
  induction xs with
  | nil => rfl
  | cons x xs ih =>
    obtain ⟨first, later⟩ := List.forall_mem_cons.1 h
    have rest := ih later
    cases hx : p x with
    | false =>
      rw [List.filter_cons_of_neg (by simp [hx]), rest, List.mapM_cons, first hx]
      cases xs.mapM f <;> rfl
    | true =>
      rw [List.filter_cons_of_pos hx, List.mapM_cons, List.mapM_cons]
      refine map_bind_same fun ys => map_bind_congr rest fun below all same => ?_
      refine congrArg Except.ok ?_
      rw [List.flatten_cons, List.flatten_cons, same]

theorem forall₂_imp_of_mem {R S : α → β → Prop} {xs : List α} {ys : List β}
    (h : List.Forall₂ R xs ys) (step : ∀ x, ∀ y ∈ ys, R x y → S x y) : List.Forall₂ S xs ys := by
  induction h with
  | nil => exact .nil
  | cons first _ ih =>
    obtain ⟨here, later⟩ := List.forall_mem_cons.1 fun y hy x => step x y hy
    exact .cons (here _ first) (ih fun x y hy => later y hy x)

theorem exists_of_mem_right {R : α → β → Prop} {xs : List α} {ys : List β}
    (h : List.Forall₂ R xs ys) {y : β} (hy : y ∈ ys) : ∃ x ∈ xs, R x y := by
  induction h with
  | nil => cases hy
  | cons first _ ih =>
    rcases List.mem_cons.1 hy with rfl | hy
    · exact ⟨_, List.mem_cons_self, first⟩
    · obtain ⟨x, hx, related⟩ := ih hy
      exact ⟨x, List.mem_cons_of_mem _ hx, related⟩

theorem forall₂_flatMap {γ : Type} {R : β → γ → Prop} {f : α → List β} {xs : List α}
    {lists : List (List γ)} (h : List.Forall₂ (fun x ys => List.Forall₂ R (f x) ys) xs lists) :
    List.Forall₂ R (xs.flatMap f) lists.flatten := by
  induction h with
  | nil => exact .nil
  | cons first _ ih => exact List.rel_append first ih

section Optional

variable {x : OptionT (Except ε) α} {f : α → OptionT (Except ε) β}

theorem run_bind_of_some {a : α} (h : x.run = .ok (some a)) :
    (x >>= f).run = (f a).run := by
  rw [OptionT.run_bind, h]
  rfl

theorem run_liftM_bind_of_ok {y : Except ε α} {a : α} (h : y = .ok a) :
    ((liftM y : OptionT (Except ε) α) >>= f).run = (f a).run := by
  rw [h]
  rfl

theorem run_bind_eq_ok_iff {out : Option β} : (x >>= f).run = .ok out ↔
    (∃ a, x.run = .ok (some a) ∧ (f a).run = .ok out) ∨ x.run = .ok none ∧ out = none := by
  rw [OptionT.run_bind, Option.elimM, bind_eq_ok_iff]
  constructor
  · rintro ⟨_ | a, first, rest⟩
    · cases rest
      exact .inr ⟨first, rfl⟩
    · exact .inl ⟨a, first, rest⟩
  · rintro (⟨a, first, rest⟩ | ⟨first, rfl⟩)
    · exact ⟨some a, first, rest⟩
    · exact ⟨none, first, rfl⟩

theorem run_liftM_bind_eq_ok_iff {y : Except ε α} {out : Option β} :
    ((liftM y : OptionT (Except ε) α) >>= f).run = .ok out ↔
      ∃ a, y = .ok a ∧ (f a).run = .ok out := by
  cases y with
  | error e => exact ⟨nofun, nofun⟩
  | ok a =>
    constructor
    · intro h
      exact ⟨a, rfl, h⟩
    · rintro ⟨_, same, h⟩
      cases same
      exact h

theorem mapM_run_cases {xs : List α} {out : Option (List β)} (h : (xs.mapM f).run = .ok out) :
    (∃ ys, out = some ys ∧ List.Forall₂ (fun x y => (f x).run = .ok (some y)) xs ys) ∨
      out = none ∧ ∃ x ∈ xs, (f x).run = .ok none := by
  induction xs generalizing out with
  | nil =>
    cases h
    exact .inl ⟨[], rfl, .nil⟩
  | cons x xs ih =>
    rw [List.mapM_cons] at h
    rcases run_bind_eq_ok_iff.1 h with ⟨y, first, later⟩ | ⟨first, rfl⟩
    · rcases run_bind_eq_ok_iff.1 later with ⟨ys, rest, made⟩ | ⟨rest, rfl⟩
      · cases made
        obtain ⟨_, same, each⟩ | ⟨same, -⟩ := ih rest
        · cases same
          exact .inl ⟨y :: ys, rfl, .cons first each⟩
        · cases same
      · obtain ⟨_, same, -⟩ | ⟨-, x', member, skipped⟩ := ih rest
        · cases same
        · exact .inr ⟨rfl, x', List.mem_cons_of_mem _ member, skipped⟩
    · exact .inr ⟨rfl, x, List.mem_cons_self, first⟩

end Optional

end RelationAtlas
