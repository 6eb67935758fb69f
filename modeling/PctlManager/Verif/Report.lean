import PctlManager.Report
import PctlManager.Logic.Region
import PctlManager.Logic.Runs

/-!
# How the report is truncated

`vsnprintf` returns the length of the whole text and not of what it wrote, so the cursor of
`rep` may be sent past the end of the buffer and is brought back. The invariant of a run of
`rep` is `Report.Holding`: the buffer holds as much of all texts so far as fits, with a
terminator, and the cursor is where the next character would go, or at the end.
-/

namespace PctlManager

open Stateful

/-- One call of `rep` on a report. -/
def Report.append (r : Report) (text : Text) : Report := after (rep text) r

/-! ## One call -/

/-- A text that is printed into some room is written up to the room, with a terminator. -/
theorem vsnprintf_of_room (memory : Nat → Char) (start : Nat) {size : Nat} (room : 0 < size)
    (text : Text) : vsnprintf memory start size text =
      (Region.write memory start (text.take (size - 1) ++ ['\x00']), (text.length : Int)) := by
  have some : size ≠ 0 := by omega
  unfold vsnprintf Region.write
  simp only [ne_eq, some, not_false_eq_true, true_and]

/-- At the end of the buffer nothing is written. -/
theorem Report.append_of_end {r : Report} (full : r.e ≤ r.p) (text : Text) :
    r.append text = r := if_pos full

/-- In front of the end, as much is written as fits, and the cursor goes on by the whole text,
but not past the end. -/
theorem Report.append_of_room {r : Report} (room : r.p < r.e) (text : Text) :
    r.append text =
      { memory := Region.write r.memory r.p (text.take (r.e - r.p - 1) ++ ['\x00'])
        p := min (r.p + text.length) r.e
        e := r.e } := by
  have going : ¬r.p ≥ r.e := by omega
  have moved : (if (text.length : Int) > 0 then r.p + (text.length : Int).toNat else r.p) =
      r.p + text.length := by
    rw [Int.toNat_natCast]
    split <;> omega
  have stopped : (if r.p + text.length > r.e then r.e else r.p + text.length) =
      min (r.p + text.length) r.e := by
    split <;> omega
  unfold Report.append rep
  rw [after_modify, if_neg going, vsnprintf_of_room _ _ (by omega)]
  simp only [moved, stopped]

/-! ## The invariant -/

/-- The report in the buffer of `bufsz` characters at `buf` of a memory that was `before`, when
these characters were printed so far. -/
structure Report.Holding (before : Nat → Char) (buf bufsz : Nat) (printed : Text) (r : Report) :
    Prop where
  /-- The end of the buffer. -/
  e : r.e = buf + bufsz
  /-- The cursor is behind what was printed, or at the end. -/
  p : r.p = min (buf + printed.length) (buf + bufsz)
  /-- The buffer holds what fits of it, with a terminator. -/
  holds : Region.Holds r.memory buf (printed.take (bufsz - 1) ++ ['\x00'])
  /-- Outside of the buffer the memory is as before. -/
  frame : ∀ address, address < buf ∨ buf + bufsz ≤ address → r.memory address = before address

variable {before : Nat → Char} {buf bufsz : Nat} {printed : Text} {r : Report}

/-- An empty buffer holds the empty report. -/
theorem Report.holding_start (bufsz : Nat) (empty : before buf = '\x00') :
    Report.Holding before buf bufsz [] ⟨before, buf, buf + bufsz⟩ where
  e := rfl
  p := by simp
  holds := by
    rw [List.take_nil, List.nil_append]
    exact Region.holds_singleton.mpr empty
  frame _ _ := rfl

/-- A call prints its text behind the others. -/
theorem Report.Holding.append (held : r.Holding before buf bufsz printed) (text : Text) :
    (r.append text).Holding before buf bufsz (printed ++ text) := by
  have e := held.e
  have p := held.p
  by_cases full : bufsz ≤ printed.length
  · -- The text is dropped as a whole: the buffer was filled by what is in front of it.
    have same : r.append text = r := append_of_end (by omega) text
    have kept : (printed ++ text).take (bufsz - 1) = printed.take (bufsz - 1) :=
      List.take_append_of_le_length (by omega)
    rw [same]
    refine ⟨e, ?_, ?_, held.frame⟩
    · rw [List.length_append]
      omega
    · rw [kept]
      exact held.holds
  · have cursor : r.p = buf + printed.length := by omega
    have size : r.e - r.p - 1 = bufsz - 1 - printed.length := by omega
    have whole : printed.take (bufsz - 1) = printed := List.take_of_length_le (by omega)
    have kept : (printed ++ text).take (bufsz - 1) =
        printed ++ text.take (bufsz - 1 - printed.length) := by
      rw [List.take_append, whole]
    have front : Region.Holds r.memory buf printed := by
      have both := held.holds
      rw [whole] at both
      exact (Region.holds_append.mp both).1
    rw [append_of_room (by omega), size, cursor]
    refine ⟨e, ?_, ?_, ?_⟩
    · change min (buf + printed.length + text.length) r.e = _
      rw [e, List.length_append, Nat.add_assoc]
    · rw [kept, List.append_assoc]
      exact front.append _
    · intro address outside
      rw [← held.frame address outside]
      apply Region.write_outside
      rw [List.length_append, List.length_take, List.length_singleton]
      omega

/-- Once the buffer is full, a call leaves the memory alone. -/
theorem Report.Holding.memory_append (held : r.Holding before buf bufsz printed)
    (full : bufsz ≤ printed.length + 1) (text : Text) :
    (r.append text).memory = r.memory := by
  have e := held.e
  have p := held.p
  by_cases ended : bufsz ≤ printed.length
  · rw [append_of_end (by omega)]
  · -- Only the place of the terminator is left, and the terminator is written there again.
    have cursor : r.p = buf + printed.length := by omega
    have size : r.e - r.p - 1 = 0 := by omega
    have whole : printed.take (bufsz - 1) = printed := List.take_of_length_le (by omega)
    have both := held.holds
    rw [whole] at both
    have last := (Region.holds_append.mp both).2
    rw [append_of_room (by omega), size, cursor, List.take_zero, List.nil_append]
    exact last.write_eq

/-! ## A run of calls -/

/-- A run prints all its texts. -/
theorem Report.Holding.run (texts : List Text) : ∀ {printed : Text} {r : Report},
    r.Holding before buf bufsz printed →
      (Runs.run Report.append r texts).Holding before buf bufsz (printed ++ texts.flatten) := by
  induction texts with
  | nil =>
    intro printed r held
    rw [List.flatten_nil, List.append_nil]
    exact held
  | cons text texts ih =>
    intro printed r held
    rw [List.flatten_cons, ← List.append_assoc]
    exact ih (held.append text)

/-- Once the buffer is full, a run leaves the memory alone. -/
theorem Report.Holding.memory_run (texts : List Text) : ∀ {printed : Text} {r : Report},
    r.Holding before buf bufsz printed → bufsz ≤ printed.length + 1 →
      (Runs.run Report.append r texts).memory = r.memory := by
  induction texts with
  | nil => exact fun _ _ => rfl
  | cons text texts ih =>
    intro printed r held full
    have longer : bufsz ≤ (printed ++ text).length + 1 := by
      rw [List.length_append]
      omega
    rw [Runs.run_cons, ih (held.append text) longer, held.memory_append full text]

/-- What a reader of the buffer of `bufsz` characters at `buf` finds: the characters up to the
first terminator. -/
def Report.content (r : Report) (buf bufsz : Nat) : Text :=
  Region.terminated '\x00' r.memory buf bufsz

/-- The report that was started in the buffer of `bufsz` characters at `buf` of the memory
`before` is this text, cut to the buffer. -/
structure Report.Truncates (before : Nat → Char) (buf bufsz : Nat) (total : Text) (r : Report) :
    Prop where
  /-- The cursor is in the buffer, or at its end. -/
  cursor : buf ≤ r.p ∧ r.p ≤ buf + bufsz
  /-- Nothing outside of the buffer was written. -/
  frame : ∀ address, address < buf ∨ buf + bufsz ≤ address → r.memory address = before address
  /-- The buffer is terminated. -/
  terminated : ∃ address, buf ≤ address ∧ address < buf + bufsz ∧ r.memory address = '\x00'
  /-- It contains as much of the text as fits in front of the terminator. -/
  content : r.content buf bufsz = total.take (bufsz - 1)

/-- What holds of the report while it is printed is what its reader wants. -/
theorem Report.Holding.truncates (held : r.Holding before buf bufsz printed) (room : 1 ≤ bufsz)
    (plain : '\x00' ∉ printed) : r.Truncates before buf bufsz printed := by
  have p := held.p
  have short : (printed.take (bufsz - 1)).length < bufsz := by
    rw [List.length_take]
    omega
  have last := Region.holds_singleton.mp (Region.holds_append.mp held.holds).2
  have kept : '\x00' ∉ printed.take (bufsz - 1) := fun cut => plain (List.mem_of_mem_take cut)
  exact ⟨by omega, held.frame, ⟨_, Nat.le_add_right _ _, Nat.add_lt_add_left short _, last⟩,
    held.holds.terminated_eq short kept⟩

/-- However the texts of a run of `rep` are cut into calls and wherever the buffer ends, the
report is the front of all texts that fits the buffer with its terminator, and once it is full,
no later call changes it. -/
theorem report_truncates_exactly (before : Nat → Char) (buf bufsz : Nat) (texts : List Text)
    (room : 1 ≤ bufsz) (empty : before buf = '\x00') (plain : ∀ text ∈ texts, '\x00' ∉ text) :
    (Runs.run Report.append ⟨before, buf, buf + bufsz⟩ texts).Truncates before buf bufsz
        texts.flatten ∧
      (bufsz ≤ texts.flatten.length + 1 → ∀ later : List Text,
        (Runs.run Report.append ⟨before, buf, buf + bufsz⟩ (texts ++ later)).memory =
          (Runs.run Report.append ⟨before, buf, buf + bufsz⟩ texts).memory) := by
  have held := (Report.holding_start bufsz empty).run texts
  rw [List.nil_append] at held
  have visible : '\x00' ∉ texts.flatten := by
    intro hidden
    obtain ⟨text, member, inside⟩ := List.mem_flatten.mp hidden
    exact plain text member inside
  refine ⟨held.truncates room visible, fun full later => ?_⟩
  rw [Runs.run_append]
  exact held.memory_run later full

/-- Two texts of five characters in a buffer of eight. -/
theorem report_truncates_exactly_sample :
    let texts := ["12345".toList, "67890".toList]
    let r := Runs.run Report.append ⟨fun _ => '\x00', 16, 24⟩ texts
    r.Truncates (fun _ => '\x00') 16 8 "1234567890".toList ∧
      r.content 16 8 = "1234567".toList := by
  have cut := report_truncates_exactly (fun _ => '\x00') 16 8 ["12345".toList, "67890".toList]
    (by decide) rfl (by decide)
  exact ⟨cut.1, cut.1.content⟩

end PctlManager
