import PctlManager.Service

/-!
# The network clock

`clock_ops.c`: the play timer only counts down once the console's NetworkSystemClock is valid,
so the tool offers to set it from the UserSystemClock. The answer of the time service to a
request that sets a clock is a parameter.
-/

namespace PctlManager

/-- `ClockStatus` — whether the two clocks can be read, and what they show. -/
structure ClockStatus where
  /-- UserSystemClock readable. -/
  userOk : Bool
  /-- POSIX seconds. -/
  user : UInt64
  /-- NetworkSystemClock readable; false when it was never set. -/
  networkOk : Bool
  /-- POSIX seconds. -/
  network : UInt64
deriving DecidableEq

/-- `timeGetCurrentTime` — a clock that cannot be read leaves the zero of the caller. -/
def timeGetCurrentTime (type : TimeType) : PctlM (Reply UInt64) := do
  let w ← get
  let answer := w.console.clock type
  pure ⟨answer.1, if rSucceeded answer.1 then answer.2 else 0⟩

/-- `timeSetCurrentTime` — a clock that was set can be read. -/
def timeSetCurrentTime (answer : Result) (type : TimeType) (now : UInt64) : PctlM Result := do
  if rSucceeded answer then
    modify fun w => { w with console.clock := Function.update w.console.clock type (0, now) }
  else pure ()
  pure answer

/-- `clock_status`. -/
def clockStatus : PctlM ClockStatus := do
  let user ← timeGetCurrentTime .userSystemClock
  let network ← timeGetCurrentTime .networkSystemClock
  pure ⟨rSucceeded user.rc, user.out, rSucceeded network.rc, network.out⟩

/-- The log line of a seeding. -/
def seedLine (now : UInt64) (rc : Result) : Text :=
  "seed NetworkSystemClock from UserSystemClock (".toList ++ decimal now.toNat ++
    ") rc=".toList ++ hexResult rc

/-- `clock_seed_network_from_user`. -/
def clockSeedNetworkFromUser (answer : Result) : PctlM Result := do
  let now ← timeGetCurrentTime .userSystemClock
  let rc ← if rSucceeded now.rc then timeSetCurrentTime answer .networkSystemClock now.out
    else pure now.rc
  pctlLogf (seedLine now.out rc)
  pure rc

end PctlManager
