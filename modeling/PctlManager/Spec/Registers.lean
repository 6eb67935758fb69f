import Mathlib.Data.Fintype.Basic
import Mathlib.Data.Fintype.Pi

/-!
# Three registers with an off state

What the play timer is for: a limit for each day, an alarm for each day, and a mode, which can
be set independently of each other. A configuration without any limit or alarm is not stored
at all: the timer is off, and forgets its mode. The types of days, limits and alarms are
arbitrary; `Registers` carries the fact that an active timer has something configured.
-/

namespace PctlManager.Spec

/-- The values of the three registers. -/
@[ext] structure Config (Day Limit Alarm : Type) where
  /-- The limit of each day. -/
  limits : Day → Option Limit
  /-- The alarm of each day. -/
  alarms : Day → Option Alarm
  /-- Suspend the software when time is up, instead of notifying only. -/
  suspend : Bool

variable {Day Limit Alarm : Type}

/-- Some day has a limit or an alarm. -/
def Config.Configured (c : Config Day Limit Alarm) : Prop :=
  ∃ d, (c.limits d).isSome ∨ (c.alarms d).isSome

instance [Fintype Day] (c : Config Day Limit Alarm) : Decidable c.Configured :=
  inferInstanceAs (Decidable (∃ _, _))

/-- The registers of a timer: off, or three values with something configured. -/
abbrev Registers (Day Limit Alarm : Type) : Type :=
  Option { c : Config Day Limit Alarm // c.Configured }

/-- What a timer that is off starts from: nothing configured, and suspending. -/
def Config.initial : Config Day Limit Alarm := ⟨fun _ => none, fun _ => none, true⟩

/-- The values that the next change starts from. -/
def Registers.base : Registers Day Limit Alarm → Config Day Limit Alarm
  | none => .initial
  | some c => c.val

/-- Nothing configured means no limit and no alarm on any day. -/
theorem Config.not_configured_iff (c : Config Day Limit Alarm) :
    ¬c.Configured ↔ c.limits = (fun _ => none) ∧ c.alarms = fun _ => none := by
  simp [Config.Configured, funext_iff, forall_and]

variable [Fintype Day]

/-- Store the values; without anything configured the timer goes off. -/
def Config.settle (c : Config Day Limit Alarm) : Registers Day Limit Alarm :=
  if configured : c.Configured then some ⟨c, configured⟩ else none

/-- Replace every day's limit. -/
def Registers.setLimits (limits : Day → Option Limit) (r : Registers Day Limit Alarm) :
    Registers Day Limit Alarm := { r.base with limits }.settle

/-- Replace every day's alarm. -/
def Registers.setAlarms (alarms : Day → Option Alarm) (r : Registers Day Limit Alarm) :
    Registers Day Limit Alarm := { r.base with alarms }.settle

/-- Replace the mode. -/
def Registers.setSuspend (suspend : Bool) (r : Registers Day Limit Alarm) :
    Registers Day Limit Alarm := { r.base with suspend }.settle

/-- Stored values are what the next change starts from. -/
theorem Config.base_settle {c : Config Day Limit Alarm} (configured : c.Configured) :
    c.settle.base = c := by
  simp [Config.settle, configured, Registers.base]

/-- Storing values keeps every day's limit and alarm, even when the timer goes off. -/
theorem Config.days_settle (c : Config Day Limit Alarm) :
    c.settle.base.limits = c.limits ∧ c.settle.base.alarms = c.alarms := by
  by_cases configured : c.Configured
  · rw [c.base_settle configured]
    exact ⟨rfl, rfl⟩
  · obtain ⟨limits, alarms⟩ := c.not_configured_iff.mp configured
    simp [Config.settle, configured, Registers.base, Config.initial, limits, alarms]

/-- Storing values keeps the mode, unless the timer goes off. -/
theorem Config.suspend_settle {c : Config Day Limit Alarm} (on : c.settle ≠ none) :
    c.settle.base.suspend = c.suspend := by
  have configured : c.Configured := by
    by_contra off
    exact on (dif_neg off)
  rw [c.base_settle configured]

/-- Replacing the limits replaces exactly them, and keeps every day's alarm. -/
theorem Registers.days_setLimits (limits : Day → Option Limit)
    (r : Registers Day Limit Alarm) :
    (r.setLimits limits).base.limits = limits ∧
      (r.setLimits limits).base.alarms = r.base.alarms :=
  Config.days_settle _

/-- Replacing the alarms replaces exactly them, and keeps every day's limit. -/
theorem Registers.days_setAlarms (alarms : Day → Option Alarm)
    (r : Registers Day Limit Alarm) :
    (r.setAlarms alarms).base.limits = r.base.limits ∧
      (r.setAlarms alarms).base.alarms = alarms :=
  Config.days_settle _

/-- Replacing the mode keeps every day's limit and alarm. -/
theorem Registers.days_setSuspend (suspend : Bool) (r : Registers Day Limit Alarm) :
    (r.setSuspend suspend).base.limits = r.base.limits ∧
      (r.setSuspend suspend).base.alarms = r.base.alarms :=
  Config.days_settle _

/-- Replacing the mode neither turns the timer on nor off. -/
theorem Registers.setSuspend_eq_none_iff (suspend : Bool) (r : Registers Day Limit Alarm) :
    r.setSuspend suspend = none ↔ r = none := by
  cases r with
  | none =>
    have off : ¬({ Config.initial with suspend } : Config Day Limit Alarm).Configured := by
      simp [Config.Configured, Config.initial]
    simp [setSuspend, base, Config.settle, off]
  | some c =>
    have on : ({ c.val with suspend } : Config Day Limit Alarm).Configured := c.property
    simp [setSuspend, base, Config.settle, on]

/-! ## What every limit and every alarm satisfies -/

/-- Every limit and every alarm of the registers satisfies its property. -/
def Registers.All (P : Limit → Prop) (Q : Alarm → Prop) (r : Registers Day Limit Alarm) : Prop :=
  ∀ d, (∀ limit ∈ r.base.limits d, P limit) ∧ ∀ alarm ∈ r.base.alarms d, Q alarm

section All

variable {P : Limit → Prop} {Q : Alarm → Prop} {r : Registers Day Limit Alarm}

/-- Replaced limits have to satisfy it. -/
theorem Registers.All.setLimits (all : r.All P Q) {limits : Day → Option Limit}
    (good : ∀ d, ∀ limit ∈ limits d, P limit) : (r.setLimits limits).All P Q := by
  intro d
  obtain ⟨replaced, kept⟩ := r.days_setLimits limits
  rw [replaced, kept]
  exact ⟨good d, (all d).2⟩

/-- Replaced alarms have to satisfy it. -/
theorem Registers.All.setAlarms (all : r.All P Q) {alarms : Day → Option Alarm}
    (good : ∀ d, ∀ alarm ∈ alarms d, Q alarm) : (r.setAlarms alarms).All P Q := by
  intro d
  obtain ⟨kept, replaced⟩ := r.days_setAlarms alarms
  rw [kept, replaced]
  exact ⟨(all d).1, good d⟩

/-- Replacing the mode changes nothing about it. -/
theorem Registers.All.setSuspend (all : r.All P Q) (suspend : Bool) :
    (r.setSuspend suspend).All P Q := by
  intro d
  obtain ⟨limits, alarms⟩ := r.days_setSuspend suspend
  rw [limits, alarms]
  exact all d

end All

end PctlManager.Spec
