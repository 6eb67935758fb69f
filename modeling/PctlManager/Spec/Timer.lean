import PctlManager.Spec.Registers

/-!
# A timer over its registers

What a healthy console makes of the registers: storing them ends a pause, and arms the timer if
they are on and the clock that it counts by yields the time. The timer counts while it is armed
and not paused. Storing settles it: from then on it is not paused, and it is armed only with
registers that are on and with a clock.
-/

namespace PctlManager.Spec

variable {Day Limit Alarm : Type}

/-- A timer over its registers. -/
structure Timer (Day Limit Alarm : Type) where
  /-- What is configured. -/
  registers : Registers Day Limit Alarm
  /-- It was armed when the registers were stored. -/
  armed : Bool
  /-- It is paused. -/
  paused : Bool
  /-- The clock that it counts by yields the time. -/
  clock : Bool

namespace Timer

variable (t : Timer Day Limit Alarm)

/-- The timer counts. -/
def Counts : Prop := t.armed = true ∧ t.paused = false

/-- Store registers. -/
def store (registers : Registers Day Limit Alarm) : Timer Day Limit Alarm where
  registers
  armed := registers.isSome && t.clock
  paused := false
  clock := t.clock

/-- Set the clock. -/
def seed : Timer Day Limit Alarm := { t with clock := true }

/-- The timer is not paused, and is armed only with registers that are on and with a clock. -/
structure Settled : Prop where
  /-- Nothing is paused. -/
  running : t.paused = false
  /-- An armed timer is on and has a clock. -/
  backed : t.armed = true → t.registers.isSome = true ∧ t.clock = true

/-- Storing settles the timer. -/
theorem settled_store (registers : Registers Day Limit Alarm) : (t.store registers).Settled :=
  ⟨rfl, fun armed => Bool.and_eq_true_iff.mp armed⟩

/-- Setting the clock keeps it settled. -/
theorem Settled.seed {t : Timer Day Limit Alarm} (settled : t.Settled) : t.seed.Settled :=
  ⟨settled.running, fun armed => ⟨(settled.backed armed).1, rfl⟩⟩

end Timer

end PctlManager.Spec
