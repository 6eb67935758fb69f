import PctlManager.Logic.Stateful
import Mathlib.Data.List.Forall2

/-!
# Two runs side by side

Two computations are `Related` if, started in related states, they return related values and
leave related states. The relation between the states is an invariant of both runs together.
The rules follow the structure of the programs, and `Same` is the case of one program that
returns the same value in both runs.
-/

namespace Stateful

variable {σ τ α β γ δ : Type}

/-- From states related by `R`, both computations return values related by `V` and leave states
related by `R`. -/
def Related (R : σ → τ → Prop) (V : α → β → Prop) (m : StateM σ α) (n : StateM τ β) : Prop :=
  ∀ s t, R s t → V (result m s) (result n t) ∧ R (after m s) (after n t)

namespace Related

variable {R : σ → τ → Prop} {V : α → β → Prop} {W : γ → δ → Prop}

/-- Related values are returned in related states. -/
theorem pure {a : α} {b : β} (values : V a b) :
    Related R V (Pure.pure a : StateM σ α) (Pure.pure b : StateM τ β) :=
  fun _ _ states => ⟨values, states⟩

/-- Two computations in order, where the second may use that the first values are related. -/
theorem bind {m : StateM σ α} {n : StateM τ β} {f : α → StateM σ γ} {g : β → StateM τ δ}
    (first : Related R V m n) (second : ∀ a b, V a b → Related R W (f a) (g b)) :
    Related R W (m >>= f) (n >>= g) := by
  intro s t states
  obtain ⟨values, left⟩ := first s t states
  exact second _ _ values _ _ left

/-- Reading the states hands them on as they are related. -/
theorem get_bind {f : σ → StateM σ γ} {g : τ → StateM τ δ}
    (second : ∀ s t, R s t → Related R W (f s) (g t)) :
    Related R W (MonadState.get >>= f) (MonadState.get >>= g) :=
  fun s t states => second s t states s t states

/-- Branches on the same condition. -/
theorem ite {c : Prop} [Decidable c] {m m' : StateM σ α} {n n' : StateM τ β}
    (left : Related R V m n) (right : Related R V m' n') :
    Related R V (if c then m else m') (if c then n else n') := by
  split
  · exact left
  · exact right

/-- Updates that keep the states related. -/
theorem modified {f : σ → σ} {g : τ → τ} (kept : ∀ s t, R s t → R (f s) (g t)) :
    Related R Eq (modify f : StateM σ PUnit) (modify g : StateM τ PUnit) :=
  fun s t states => ⟨rfl, kept s t states⟩

/-- Loops over lists of related items. -/
theorem forM {ι κ : Type} {items : ι → κ → Prop} {f : ι → StateM σ PUnit}
    {g : κ → StateM τ PUnit} (turns : ∀ i k, items i k → Related R Eq (f i) (g k)) {xs : List ι}
    {ys : List κ} (lists : List.Forall₂ items xs ys) : Related R Eq (xs.forM f) (ys.forM g) := by
  induction lists with
  | nil => exact .pure rfl
  | cons head _ ih => exact .bind (turns _ _ head) fun _ _ _ => ih

end Related

/-- The program returns the same value in both runs, and leaves related states. -/
abbrev Same (R : σ → σ → Prop) (m : StateM σ α) : Prop := Related R Eq m m

namespace Same

variable {R : σ → σ → Prop} {m n : StateM σ α} {f : α → StateM σ β}

/-- Returning a value. -/
theorem pure (a : α) : Same R (Pure.pure a) := Related.pure rfl

/-- Two computations in order. -/
theorem bind (first : Same R m) (second : ∀ a, Same R (f a)) : Same R (m >>= f) := by
  refine Related.bind first ?_
  rintro a _ rfl
  exact second a

/-- A branch. -/
theorem ite {c : Prop} [Decidable c] (left : Same R m) (right : Same R n) :
    Same R (if c then m else n) := Related.ite left right

/-- A loop over a list. -/
theorem forM {ι : Type} {turn : ι → StateM σ PUnit} (turns : ∀ i, Same R (turn i))
    (items : List ι) : Same R (items.forM turn) := by
  have equal : List.Forall₂ Eq items items := List.forall₂_same.mpr fun _ _ => rfl
  refine Related.forM ?_ equal
  rintro i _ rfl
  exact turns i

end Same

/-- A computation on a part of a larger state, where related wholes have related parts and stay
related when the parts are replaced by related ones. -/
theorem Related.zoom {ρ : Type} {R : σ → σ → Prop} {S : ρ → ρ → Prop} {V : α → β → Prop}
    {m : StateM σ α} {n : StateM σ β} (part : Part ρ σ)
    (view : ∀ s t, S s t → R (part.view s) (part.view t))
    (update : ∀ s t, S s t → ∀ a b, R a b → S (part.update s a) (part.update t b))
    (parts : Related R V m n) : Related S V (Stateful.zoom part m) (Stateful.zoom part n) := by
  intro s t wholes
  obtain ⟨values, left⟩ := parts _ _ (view s t wholes)
  exact ⟨values, update s t wholes _ _ left⟩

/-- What the first computation keeps on its own may be added to the relation. -/
theorem Related.also {R : σ → τ → Prop} {V : α → β → Prop} {I : σ → Prop} {m : StateM σ α}
    {n : StateM τ β} (related : Related R V m n) (kept : Preserves I m) :
    Related (fun s t => R s t ∧ I s) V m n := by
  intro s t both
  obtain ⟨values, left⟩ := related s t both.1
  have held := kept s both.2
  exact ⟨values, left, held⟩

end Stateful
