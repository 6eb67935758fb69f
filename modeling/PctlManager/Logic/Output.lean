import PctlManager.Logic.Stateful
import PctlManager.Logic.Runs
import Mathlib.Algebra.Ring.Nat

/-!
# Programs that append to an output

The state is an output together with everything else. A program `Emits` if it only ever appends
items to the output, and if neither these items nor anything else that it does depends on what
the output is. The rules follow the structure of the programs; along the way they add up a bound
on the size of all items, and carry an invariant of the rest and what is known of the values
that are returned.
-/

namespace Stateful

variable {σ ω ρ ε α β : Type}

/-- A state that is put together from an output and the rest. -/
structure Output (σ ω ρ ε : Type) where
  /-- The rest with an output. -/
  join : ω → ρ → σ
  /-- The output with one more item. -/
  append : ρ → ε → ρ
  /-- The invariant of the rest. -/
  holds : ω → Prop
  /-- What may be appended. -/
  plain : ε → Prop
  /-- The size of an item. -/
  size : ε → Nat

/-- From every rest with the invariant, the program keeps the invariant, returns a value with
the property, and appends plain items of a total size of at most `n`, whatever the output is. -/
def Emits (out : Output σ ω ρ ε) (n : Nat) (property : α → Prop) (m : StateM σ α) : Prop :=
  ∀ w, out.holds w → ∃ a v items, property a ∧ out.holds v ∧ (∀ i ∈ items, out.plain i) ∧
    (items.map out.size).sum ≤ n ∧ ∀ r, result m (out.join w r) = a ∧
      after m (out.join w r) = out.join v (Runs.run out.append r items)

namespace Emits

variable {out : Output σ ω ρ ε} {n k : Nat} {property : α → Prop} {property' : β → Prop}
  {m : StateM σ α} {f : α → StateM σ β}

/-- A bound may be raised, and a property weakened. -/
theorem mono {weaker : α → Prop} (bound : n ≤ k) (implied : ∀ a, property a → weaker a)
    (emits : Emits out n property m) : Emits out k weaker m := by
  intro w held
  obtain ⟨a, v, items, returned, kept, good, total, runs⟩ := emits w held
  exact ⟨a, v, items, implied a returned, kept, good, Nat.le_trans total bound, runs⟩

/-- Returning a value appends nothing. -/
theorem pure (a : α) (returned : property a) :
    Emits out 0 property (Pure.pure a : StateM σ α) := by
  intro w held
  exact ⟨a, w, [], returned, held, by simp, by simp, fun r => ⟨rfl, rfl⟩⟩

/-- Two programs in order append what each of them appends. -/
theorem bind (first : Emits out n property m)
    (second : ∀ a, property a → Emits out k property' (f a)) :
    Emits out (n + k) property' (m >>= f) := by
  intro w held
  obtain ⟨a, v, early, returned, kept, good, total, runs⟩ := first w held
  obtain ⟨b, u, late, returned', kept', good', total', runs'⟩ := second a returned v kept
  refine ⟨b, u, early ++ late, returned', kept', ?_, ?_, fun r => ?_⟩
  · intro i member
    rcases List.mem_append.mp member with before | behind
    · exact good i before
    · exact good' i behind
  · rw [List.map_append, List.sum_append]
    omega
  · obtain ⟨answer, left⟩ := runs r
    rw [result_bind, after_bind, answer, left, Runs.run_append]
    exact runs' _

/-- A branch appends no more than the larger one of its arms. -/
theorem ite {c : Prop} [Decidable c] {m' : StateM σ α} (left : Emits out n property m)
    (right : Emits out k property m') :
    Emits out (max n k) property (if c then m else m') := by
  split
  · exact left.mono (Nat.le_max_left n k) fun _ => id
  · exact right.mono (Nat.le_max_right n k) fun _ => id

/-- A program may look at the rest, but not at the output. -/
theorem get_bind {g : σ → StateM σ β} (f : ω → StateM σ β)
    (blind : ∀ w r, g (out.join w r) = f w) (emits : ∀ w, Emits out n property' (f w)) :
    Emits out n property' (MonadState.get >>= g) := by
  intro w held
  obtain ⟨a, v, items, returned, kept, good, total, runs⟩ := emits w w held
  refine ⟨a, v, items, returned, kept, good, total, fun r => ?_⟩
  have looked : result (MonadState.get >>= g) (out.join w r) =
      result (g (out.join w r)) (out.join w r) := rfl
  have left : after (MonadState.get >>= g) (out.join w r) =
      after (g (out.join w r)) (out.join w r) := rfl
  rw [looked, left, blind]
  exact runs r

/-- A loop over a list appends what its turns append. -/
theorem forM {ι : Type} {turn : ι → StateM σ PUnit} : ∀ items : List ι,
    (∀ i ∈ items, Emits out n (fun _ => True) (turn i)) →
      Emits out (items.length * n) (fun _ => True) (items.forM turn)
  | [], _ => (pure _ trivial).mono (Nat.zero_le _) fun _ => id
  | i :: items, turns => by
    have first := turns i List.mem_cons_self
    have rest := forM items fun j member => turns j (List.mem_cons_of_mem i member)
    have size : n + items.length * n = (i :: items).length * n := by
      rw [List.length_cons, Nat.succ_mul, Nat.add_comm]
    exact (first.bind fun _ _ => rest).mono (Nat.le_of_eq size) fun _ => id

end Emits

end Stateful
