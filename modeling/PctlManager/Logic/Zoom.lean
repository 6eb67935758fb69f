import PctlManager.Logic.Stateful

/-!
# Programs on a part of a larger state

Running on a part of a state commutes with sequencing and branching once the part is lawful: a
part that is written back as it was read changes nothing, and of two replacements the later one
counts. So a program that is composed of steps of the part is, on the larger state, composed of
these steps run there.
-/

namespace Stateful

variable {ρ σ τ α β : Type}

/-- The part is written back as it was read, and replaced as a whole. -/
structure Part.Lawful (part : Part τ σ) : Prop where
  /-- A part that is written back unchanged changes nothing. -/
  update_view : ∀ t, part.update t (part.view t) = t
  /-- The later one of two replacements counts. -/
  update_update : ∀ t s s', part.update (part.update t s) s' = part.update t s'

/-- A part of a part. -/
def Part.comp (outer : Part τ σ) (inner : Part σ ρ) : Part τ ρ where
  view t := inner.view (outer.view t)
  update t s := outer.update t (inner.update (outer.view t) s)
  view_update t s := by rw [outer.view_update, inner.view_update]

/-- Running on a part of a part. -/
theorem zoom_zoom (outer : Part τ σ) (inner : Part σ ρ) (m : StateM ρ α) :
    zoom outer (zoom inner m) = zoom (outer.comp inner) m := rfl

variable {part : Part τ σ}

/-- Returning a value on a part returns it. -/
theorem zoom_pure (lawful : part.Lawful) (a : α) :
    zoom part (pure a : StateM σ α) = pure a := by
  funext t
  exact congrArg (Prod.mk a) (lawful.update_view t)

/-- Two programs in order on a part run there in order. -/
theorem zoom_bind (lawful : part.Lawful) (m : StateM σ α) (f : α → StateM σ β) :
    zoom part (m >>= f) = zoom part m >>= fun a => zoom part (f a) := by
  funext t
  change (result (m >>= f) (part.view t), _) =
    (result (zoom part (f (result m (part.view t)))) (part.update t (after m (part.view t))),
      after (zoom part (f (result m (part.view t)))) (part.update t (after m (part.view t))))
  rw [result_zoom, after_zoom, part.view_update, lawful.update_update, result_bind, after_bind]

/-- Looking at a part is looking at the whole. -/
theorem zoom_get (lawful : part.Lawful) :
    zoom part (get : StateM σ σ) = get >>= fun t => pure (part.view t) := by
  funext t
  exact congrArg (Prod.mk (part.view t)) (lawful.update_view t)

/-- A program that is composed of steps of a part is composed of what these steps become on the
whole. -/
theorem Composed.zoom {step : (α : Type) → StateM σ α → Prop}
    {other : (α : Type) → StateM τ α → Prop} (lawful : part.Lawful)
    (lifted : ∀ (α : Type) (m : StateM σ α), step α m → Composed other α (zoom part m))
    {m : StateM σ α} (composed : Composed step α m) : Composed other α (Stateful.zoom part m) := by
  induction composed with
  | step primitive => exact lifted _ _ primitive
  | pure a =>
    rw [zoom_pure lawful]
    exact .pure a
  | bind _ _ first second =>
    rw [zoom_bind lawful]
    exact .bind first second
  | ite _ _ left right =>
    split
    · exact left
    · exact right

end Stateful
