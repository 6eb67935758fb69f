import Mathlib.Order.Bounds.Basic
import Mathlib.Data.List.FinRange

/-!
# Backward scans

A loop that walks a list backwards and remembers the last item it met that satisfies a test ends
with the first such item of the list, or with what it started from when there is none. Over an
increasing list that is the least such item. A family of values is constant exactly when it
agrees everywhere with one representative, whichever item was chosen for it.
-/

namespace Scan

variable {ι α : Type} (found : ι → Bool)

/-- Walk the list backwards and remember the last item met that satisfies the test. -/
def backward (start : ι) (items : List ι) : ι :=
  items.reverse.foldl (fun kept i => if found i then i else kept) start

/-- The scan reaches the head of the list last. -/
theorem backward_cons (start i : ι) (items : List ι) :
    backward found start (i :: items) = if found i then i else backward found start items := by
  simp [backward]

/-- With an item that satisfies the test, the scan ends with one. -/
theorem found_backward (start : ι) :
    ∀ items : List ι, (∃ i ∈ items, found i = true) →
      backward found start items ∈ items ∧ found (backward found start items) = true
  | [], present => absurd present (by simp)
  | i :: items, present => by
    rw [backward_cons]
    by_cases here : found i = true
    · rw [if_pos here]
      exact ⟨List.mem_cons_self, here⟩
    · have later : ∃ j ∈ items, found j = true := by
        obtain ⟨j, member, satisfied⟩ := present
        rcases List.mem_cons.mp member with rfl | member
        · exact absurd satisfied here
        · exact ⟨j, member, satisfied⟩
      obtain ⟨member, satisfied⟩ := found_backward start items later
      rw [if_neg here]
      exact ⟨List.mem_cons_of_mem i member, satisfied⟩

/-- Over an increasing list, no item that satisfies the test comes before the scan's. -/
theorem backward_le [LinearOrder ι] (start : ι) :
    ∀ items : List ι, items.Pairwise (· < ·) → ∀ i ∈ items, found i = true →
      backward found start items ≤ i
  | [], _, i, member, _ => absurd member (by simp)
  | j :: items, increasing, i, member, satisfied => by
    obtain ⟨first, rest⟩ := List.pairwise_cons.mp increasing
    rw [backward_cons]
    by_cases here : found j = true
    · rw [if_pos here]
      rcases List.mem_cons.mp member with rfl | member
      · exact le_refl i
      · exact le_of_lt (first i member)
    · rw [if_neg here]
      rcases List.mem_cons.mp member with rfl | member
      · exact absurd satisfied here
      · exact backward_le start items rest i member satisfied

/-- Over a finite range, the scan ends with the least item that satisfies the test. -/
theorem isLeast_backward {n : Nat} (found : Fin n → Bool) (start : Fin n)
    (present : ∃ i, found i = true) :
    IsLeast { i | found i = true } (backward found start (List.finRange n)) := by
  obtain ⟨i, satisfied⟩ := present
  have increasing : (List.finRange n).Pairwise (· < ·) := List.pairwise_lt_finRange n
  constructor
  · exact (found_backward found start _ ⟨i, List.mem_finRange i, satisfied⟩).2
  · intro j satisfied
    exact backward_le found start _ increasing j (List.mem_finRange j) satisfied

/-- A family is constant exactly when it agrees everywhere with a representative. -/
theorem constant_iff (value : ι → α) (representative : ι) :
    (∀ i j, value i = value j) ↔ ∀ i, value i = value representative := by
  constructor
  · intro constant i
    exact constant i representative
  · intro agrees i j
    rw [agrees i, agrees j]

end Scan
