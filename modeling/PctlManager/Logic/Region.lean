import Mathlib.Data.List.GetD

/-!
# Regions of a memory

A memory holds a cell at each address. It `Holds` a list of cells from an address on if they
lie there in order, and `write` puts a list of cells there. What was written is held, nothing
outside is touched, and what is held in front of it stays, so cells can be appended to a region
one list after the other. `read` gives a region back, and `terminated` what lies in front of a
terminator.
-/

namespace Region

variable {α : Type}

/-- The memory holds the cells from the address on. -/
def Holds (memory : Nat → α) (start : Nat) (cells : List α) : Prop :=
  ∀ i (inside : i < cells.length), memory (start + i) = cells[i]

/-- The memory with the cells written from the address on. -/
def write (memory : Nat → α) (start : Nat) (cells : List α) : Nat → α := fun address =>
  if start ≤ address then cells.getD (address - start) (memory address) else memory address

/-- The cells of so many addresses. -/
def read (memory : Nat → α) (start count : Nat) : List α :=
  (List.range count).map fun i => memory (start + i)

variable {memory : Nat → α} {start : Nat} {cells more : List α}

/-- Cells are held in front of the rest. -/
theorem holds_append : Holds memory start (cells ++ more) ↔
    Holds memory start cells ∧ Holds memory (start + cells.length) more := by
  constructor
  · intro held
    constructor
    · intro i inside
      have here := held i (by rw [List.length_append]; omega)
      rw [here, List.getElem_append_left inside]
    · intro i inside
      have there := held (cells.length + i) (by rw [List.length_append]; omega)
      rw [Nat.add_assoc, there, List.getElem_append_right (Nat.le_add_right _ _)]
      simp only [Nat.add_sub_cancel_left]
  · rintro ⟨front, back⟩ i inside
    rw [List.length_append] at inside
    by_cases before : i < cells.length
    · rw [front i before, List.getElem_append_left before]
    · have there := back (i - cells.length) (by omega)
      rw [List.getElem_append_right (by omega), ← there]
      congr 1
      omega

/-- One cell is held at its address. -/
@[simp] theorem holds_singleton {cell : α} : Holds memory start [cell] ↔ memory start = cell := by
  constructor
  · exact fun held => held 0 (by simp)
  · intro here i inside
    obtain rfl : i = 0 := by simpa using inside
    exact here

/-- What is held is read. -/
theorem Holds.read_eq (held : Holds memory start cells) :
    read memory start cells.length = cells := by
  apply List.ext_getElem
  · simp [read]
  · intro i _ inside
    simpa [read] using held i inside

/-- Two regions, one behind the other. -/
theorem read_add (first second : Nat) : read memory start (first + second) =
    read memory start first ++ read memory (start + first) second := by
  unfold read
  rw [List.range_add, List.map_append, List.map_map]
  simp only [Function.comp_def, Nat.add_assoc]

/-! ## Writing -/

/-- What was written is there. -/
theorem holds_write : Holds (write memory start cells) start cells := by
  intro i inside
  unfold write
  rw [if_pos (Nat.le_add_right _ _), Nat.add_sub_cancel_left]
  exact List.getD_eq_getElem _ _ inside

/-- Nothing is touched outside of what was written. -/
theorem write_outside {address : Nat}
    (outside : address < start ∨ start + cells.length ≤ address) :
    write memory start cells address = memory address := by
  unfold write
  split
  · exact List.getD_eq_default _ _ (by omega)
  · rfl

/-- Writing behind what is held appends to it. -/
theorem Holds.append (held : Holds memory start cells) (more : List α) :
    Holds (write memory (start + cells.length) more) start (cells ++ more) := by
  refine holds_append.mpr ⟨fun i inside => ?_, holds_write⟩
  rw [write_outside (.inl (by omega))]
  exact held i inside

/-- Writing what is held changes nothing. -/
theorem Holds.write_eq (held : Holds memory start cells) : write memory start cells = memory := by
  funext address
  by_cases outside : address < start ∨ start + cells.length ≤ address
  · exact write_outside outside
  · have same := held (address - start) (by omega)
    rw [Nat.add_sub_cancel' (by omega)] at same
    unfold write
    rw [if_pos (by omega), List.getD_eq_getElem _ _ (by omega), same]

/-! ## Terminated regions -/

variable [DecidableEq α]

/-- The cells in front of the first terminator among so many cells. -/
def terminated (terminator : α) (memory : Nat → α) (start count : Nat) : List α :=
  (read memory start count).takeWhile (· ≠ terminator)

/-- Cells that are held with a terminator behind them are in front of it, if none of them is
a terminator. -/
theorem Holds.terminated_eq {terminator : α} {count : Nat}
    (held : Holds memory start (cells ++ [terminator])) (inside : cells.length < count)
    (plain : terminator ∉ cells) : terminated terminator memory start count = cells := by
  have length : count = (cells ++ [terminator]).length + (count - cells.length - 1) := by
    rw [List.length_append, List.length_singleton]
    omega
  have front : ∀ cell ∈ cells, decide (cell ≠ terminator) = true := by
    intro cell member
    exact decide_eq_true fun same => plain (same ▸ member)
  unfold terminated
  rw [length, read_add, held.read_eq, List.append_assoc, List.takeWhile_append_of_pos front,
    List.singleton_append, List.takeWhile_cons_of_neg (by simp), List.append_nil]

end Region
