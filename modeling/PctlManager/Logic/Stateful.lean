import Mathlib.Logic.Basic

/-!
# Computations over a state

A computation of `StateM σ` is read as two functions of the state it starts in: the value it
returns and the state it leaves. Laws of a computation that are closed under sequencing and
branching need to be proved of primitive steps only, and every program that is `Composed` of
them has the law: `Preserves`, it keeps an invariant; `Keeps`, it never changes an observation.
`Advances` counts what a computation uses up of a list of things to come. A computation over a
part of a larger state runs there through `zoom`.
-/

namespace Stateful

variable {σ τ α β γ : Type}

/-- The value a computation returns. -/
def result (m : StateM σ α) (s : σ) : α := (m.run s).1

/-- The state a computation leaves. -/
def after (m : StateM σ α) (s : σ) : σ := (m.run s).2

-- The proofs below are kept from being definitional rewrites: a branch on a rewritten value has
-- to be rewritten together with the instance that decides it.

/-- Returning a value returns it. -/
@[simp] theorem result_pure (a : α) (s : σ) : result (pure a : StateM σ α) s = a := (rfl)

/-- Returning a value leaves the state alone. -/
@[simp] theorem after_pure (a : α) (s : σ) : after (pure a : StateM σ α) s = s := (rfl)

/-- The second of two computations starts where the first one stopped. -/
@[simp] theorem result_bind (m : StateM σ α) (f : α → StateM σ β) (s : σ) :
    result (m >>= f) s = result (f (result m s)) (after m s) := (rfl)

/-- The second of two computations leaves the state of the whole. -/
@[simp] theorem after_bind (m : StateM σ α) (f : α → StateM σ β) (s : σ) :
    after (m >>= f) s = after (f (result m s)) (after m s) := (rfl)

/-- A function of the returned value. -/
@[simp] theorem result_map (f : α → β) (m : StateM σ α) (s : σ) :
    result (f <$> m) s = f (result m s) := (rfl)

/-- A function of the returned value leaves the state alone. -/
@[simp] theorem after_map (f : α → β) (m : StateM σ α) (s : σ) :
    after (f <$> m) s = after m s := (rfl)

/-- Branching commutes with the returned value. -/
@[simp] theorem result_ite (c : Prop) [Decidable c] (m n : StateM σ α) (s : σ) :
    result (if c then m else n) s = if c then result m s else result n s := by
  split <;> rfl

/-- Branching commutes with the state left behind. -/
@[simp] theorem after_ite (c : Prop) [Decidable c] (m n : StateM σ α) (s : σ) :
    after (if c then m else n) s = if c then after m s else after n s := by
  split <;> rfl

/-- Reading the state returns it. -/
@[simp] theorem result_get (s : σ) : result (get : StateM σ σ) s = s := (rfl)

/-- Reading the state leaves it alone. -/
@[simp] theorem after_get (s : σ) : after (get : StateM σ σ) s = s := (rfl)

/-- An update leaves the updated state. -/
@[simp] theorem after_modify (f : σ → σ) (s : σ) :
    after (modify f : StateM σ PUnit) s = f s := (rfl)

/-! ## Invariants -/

/-- The computation keeps an invariant of the state. -/
def Preserves (I : σ → Prop) (m : StateM σ α) : Prop := ∀ s, I s → I (after m s)

namespace Preserves

variable {I : σ → Prop} {m n : StateM σ α} {f : α → StateM σ β}

/-- Returning a value keeps every invariant. -/
theorem pure (a : α) : Preserves I (Pure.pure a : StateM σ α) := fun _ held => held

/-- Two computations in order keep what each of them keeps. -/
theorem bind (first : Preserves I m) (second : ∀ a, Preserves I (f a)) :
    Preserves I (m >>= f) := fun s held => second _ _ (first s held)

/-- A branch keeps what both of its arms keep. -/
theorem ite {c : Prop} [Decidable c] (left : Preserves I m) (right : Preserves I n) :
    Preserves I (if c then m else n) := by
  split
  · exact left
  · exact right

end Preserves

/-! ## Observations -/

/-- The computation never changes what is observed of the state. -/
def Keeps (observe : σ → γ) (m : StateM σ α) : Prop := ∀ s, observe (after m s) = observe s

namespace Keeps

variable {observe : σ → γ} {m n : StateM σ α} {f : α → StateM σ β}

/-- Returning a value changes no observation. -/
theorem pure (a : α) : Keeps observe (Pure.pure a : StateM σ α) := fun _ => rfl

/-- Two computations in order change nothing that neither of them changes. -/
theorem bind (first : Keeps observe m) (second : ∀ a, Keeps observe (f a)) :
    Keeps observe (m >>= f) := fun s => (second _ _).trans (first s)

/-- A branch changes nothing that neither of its arms changes. -/
theorem ite {c : Prop} [Decidable c] (left : Keeps observe m) (right : Keeps observe n) :
    Keeps observe (if c then m else n) := by
  split
  · exact left
  · exact right

end Keeps

/-! ## Programs put together from steps -/

/-- The programs that are put together from the given steps by sequencing and branching. -/
inductive Composed (step : (α : Type) → StateM σ α → Prop) : (α : Type) → StateM σ α → Prop
  | step {α : Type} {m : StateM σ α} (primitive : step α m) : Composed step α m
  | pure {α : Type} (a : α) : Composed step α (Pure.pure a)
  | bind {α β : Type} {m : StateM σ α} {f : α → StateM σ β} (first : Composed step α m)
      (second : ∀ a, Composed step β (f a)) : Composed step β (m >>= f)
  | ite {α : Type} {c : Prop} [Decidable c] {m n : StateM σ α} (left : Composed step α m)
      (right : Composed step α n) : Composed step α (if c then m else n)

namespace Composed

variable {step other : (α : Type) → StateM σ α → Prop} {m : StateM σ α}

/-- A program put together from some steps is put together from more steps. -/
theorem mono (more : ∀ (α : Type) (m : StateM σ α), step α m → other α m)
    (composed : Composed step α m) : Composed other α m := by
  induction composed with
  | step primitive => exact .step (more _ _ primitive)
  | pure a => exact .pure a
  | bind _ _ first second => exact .bind first second
  | ite _ _ left right => exact .ite left right

/-- A loop over a list is put together from its turns. -/
theorem forM {ι : Type} {turn : ι → StateM σ PUnit} (turns : ∀ i, Composed step PUnit (turn i)) :
    ∀ items : List ι, Composed step PUnit (items.forM turn)
  | [] => .pure _
  | i :: items => .bind (turns i) fun _ => forM turns items

/-- What every step keeps, the program keeps. -/
theorem preserves {I : σ → Prop}
    (kept : ∀ (α : Type) (m : StateM σ α), step α m → Preserves I m)
    (composed : Composed step α m) : Preserves I m := by
  induction composed with
  | step primitive => exact kept _ _ primitive
  | pure a => exact .pure a
  | bind _ _ first second => exact .bind first second
  | ite _ _ left right => exact .ite left right

/-- What no step changes, the program does not change. -/
theorem keeps {observe : σ → γ}
    (kept : ∀ (α : Type) (m : StateM σ α), step α m → Keeps observe m)
    (composed : Composed step α m) : Keeps observe m := by
  induction composed with
  | step primitive => exact kept _ _ primitive
  | pure a => exact .pure a
  | bind _ _ first second => exact .bind first second
  | ite _ _ left right => exact .ite left right

end Composed

/-! ## Things to come -/

/-- The computation uses up exactly the first `n` of the things to come. -/
def Advances (upcoming : σ → Nat → γ) (n : Nat) (m : StateM σ α) : Prop :=
  ∀ s k, upcoming (after m s) k = upcoming s (n + k)

/-- A computation that changes nothing to come uses up nothing. -/
theorem Advances.of_keeps {upcoming : σ → Nat → γ} {m : StateM σ α} (kept : Keeps upcoming m) :
    Advances upcoming 0 m := by
  intro s k
  rw [kept s, Nat.zero_add]

/-! ## A part of a larger state -/

/-- A part of a state that can be read and replaced. -/
structure Part (τ σ : Type) where
  /-- The part as it stands. -/
  view : τ → σ
  /-- The whole with the part replaced. -/
  update : τ → σ → τ
  /-- A replaced part reads back. -/
  view_update : ∀ t s, view (update t s) = s

/-- Run a computation on a part of a larger state. -/
def zoom (part : Part τ σ) (m : StateM σ α) : StateM τ α := fun t =>
  (result m (part.view t), part.update t (after m (part.view t)))

/-- A computation on a part returns what it returns there. -/
@[simp] theorem result_zoom (part : Part τ σ) (m : StateM σ α) (t : τ) :
    result (zoom part m) t = result m (part.view t) := (rfl)

/-- A computation on a part replaces the part by the state it leaves there. -/
@[simp] theorem after_zoom (part : Part τ σ) (m : StateM σ α) (t : τ) :
    after (zoom part m) t = part.update t (after m (part.view t)) := (rfl)

/-- An invariant of the part is kept by every computation on the part that keeps it. -/
theorem Preserves.zoom {I : σ → Prop} {m : StateM σ α} (part : Part τ σ)
    (kept : Preserves I m) : Preserves (fun t => I (part.view t)) (Stateful.zoom part m) := by
  intro t held
  rw [after_zoom, part.view_update]
  exact kept _ held

end Stateful
