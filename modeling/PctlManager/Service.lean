import PctlManager.Settings
import PctlManager.Logic.Stateful
import Mathlib.Data.Stream.Defs
import Mathlib.Logic.Function.Basic

/-!
# libnx and the pctl sysmodule

What the tool runs on: libnx's reference-counted pctl session, the commands of
`IParentalControlService` and what the console answers to them. The console's own decisions
are parameters (`Sysmodule`), and so is every failure: a world carries, for each command and
for `pctlInitialize`, the endless list of results its coming calls are going to fail with,
where zero means that the call goes through. A call that fails changes nothing on the console.
-/

namespace PctlManager

/-- `Result` — zero is success, every other code is a failure. -/
abbrev Result := UInt32

/-- `R_SUCCEEDED`. -/
abbrev rSucceeded (rc : Result) : Prop := rc = 0

/-- `R_FAILED`. -/
abbrev rFailed (rc : Result) : Prop := rc ≠ 0

/-- `MAKERESULT` — nine bits of module below thirteen bits of description. -/
def makeResult (owner description : UInt32) : Result :=
  (owner &&& (0x1FF : UInt32)) ||| ((description &&& (0x1FFF : UInt32)) <<< (9 : UInt32))

/-- `Module_Libnx`. -/
def moduleLibnx : UInt32 := 345

/-- `LibnxError_NotFound`. -/
def libnxErrorNotFound : UInt32 := 9

/-- `LibnxError_IncompatSysVer`. -/
def libnxErrorIncompatSysVer : UInt32 := 37

/-- The kernel's result for a request on a closed session: invalid handle. -/
def invalidHandle : Result := makeResult 1 114

/-- The commands of `IParentalControlService` that the tool sends. -/
inductive Command
  | isRestrictionTemporaryUnlocked
  | revertRestrictionTemporaryUnlocked
  | isRestrictionEnabled
  | getSafetyLevel
  | deleteSettings
  | unlockRestrictionTemporarily
  | getPinCodeLength
  | getPinCode
  | isPlayTimerEnabled
  | getPlayTimerRemainingTime
  | isRestrictedByPlayTimer
  | isPlayTimerAlarmDisabled
  | getPlayTimerRemainingTimeDisplayInfo
  | deletePairing
  | getPlayTimerSpentTimeForTest
  | isBedtimeAlarmEnabled
  | getBedtimeAlarmTimeHour
  | getBedtimeAlarmTimeMinute
  | getBedtimeAlarmResetTimeHour
  | getBedtimeAlarmResetTimeMinute
  | getPlayTimerSettings
  | setPlayTimerSettingsForDebug
deriving DecidableEq

/-- The command table at the top of the service layer. -/
def Command.id : Command → Nat
  | .isRestrictionTemporaryUnlocked => 1006
  | .revertRestrictionTemporaryUnlocked => 1007
  | .isRestrictionEnabled => 1031
  | .getSafetyLevel => 1032
  | .deleteSettings => 1043
  | .unlockRestrictionTemporarily => 1201
  | .getPinCodeLength => 1206
  | .getPinCode => 1208
  | .isPlayTimerEnabled => 1453
  | .getPlayTimerRemainingTime => 1454
  | .isRestrictedByPlayTimer => 1455
  | .isPlayTimerAlarmDisabled => 1458
  | .getPlayTimerRemainingTimeDisplayInfo => 1459
  | .deletePairing => 1941
  | .getPlayTimerSpentTimeForTest => 1952
  | .isBedtimeAlarmEnabled => 1954
  | .getBedtimeAlarmTimeHour => 1956
  | .getBedtimeAlarmTimeMinute => 1957
  | .getBedtimeAlarmResetTimeHour => 1958
  | .getBedtimeAlarmResetTimeMinute => 1959
  | .getPlayTimerSettings => 145601
  | .setPlayTimerSettingsForDebug => 195101

/-- `TimeType` — the system clocks the tool reads. -/
inductive TimeType
  | userSystemClock
  | networkSystemClock
  | localSystemClock
deriving DecidableEq

/-- What the console answers about the time played today. -/
structure TimerAnswers where
  /-- 1455. -/
  restrictedByPlayTimer : Bool
  /-- 1454. -/
  remainingTime : UInt64
  /-- 1458. -/
  playTimerAlarmDisabled : Bool
  /-- 1952. -/
  spentTime : UInt64
  /-- 1459, 0x20 bytes. -/
  remainingTimeDisplayInfo : List UInt8

/-- What the console holds, as its services answer it. -/
structure Console extends TimerAnswers where
  /-- 1032. -/
  safetyLevel : UInt32
  /-- 1206; zero when no PIN is registered. -/
  pinLength : UInt32
  /-- 1208: the length it reports and the bytes it puts into the buffer. -/
  pinCode : UInt32 × List UInt8
  /-- 1031. -/
  restrictionEnabled : Bool
  /-- 1006: parental controls are paused. -/
  temporarilyUnlocked : Bool
  /-- 145601 and 195101. -/
  stored : PtSettings
  /-- `timeGetCurrentTime`: a clock that was never set answers with a failure. -/
  clock : TimeType → Result × UInt64

/-- The decisions of the sysmodule that its documentation leaves to the firmware. -/
structure Sysmodule where
  /-- 1453, from the stored settings and the temporary unlock. -/
  isPlayTimerEnabled : PtSettings → Bool → Bool
  /-- The `enabled` byte that a 195101 write re-derives. -/
  rearm : Console → PtSettings → UInt8
  /-- The verdict of 1201 on a PIN buffer. -/
  checkPin : Console → List UInt8 → Result
  /-- What 1007 leaves of the temporary unlock. -/
  revertTemporaryUnlock : Console → Bool
  /-- The answers once the state of the timer is derived anew. -/
  timerAnswers : Console → TimerAnswers
  /-- 1954 and 1956 to 1959: the alarm in force. -/
  bedtimeAlarm : Console → PtBedtime
  /-- 1043. -/
  deleteSettings : Console → Console
  /-- 1941. -/
  deletePairing : Console → Console

namespace Sysmodule

variable (sys : Sysmodule) (c : Console)

/-- The console with its answers about the timer derived anew. -/
def rederived : Console := { c with toTimerAnswers := sys.timerAnswers c }

/-- What a 1201 leaves that was accepted. -/
def unlocked : Console := sys.rederived { c with temporarilyUnlocked := true }

/-- What 1007 leaves. -/
def reverted : Console :=
  sys.rederived { c with temporarilyUnlocked := sys.revertTemporaryUnlock c }

/-- What 195101 leaves: the settings with `enabled` re-derived. -/
def rearmed (s : PtSettings) : Console :=
  sys.rederived { c with stored := { s with enabled := sys.rearm c s } }

end Sysmodule

/-- libnx's guard of the shared session: a count, and a session exactly while it is positive. -/
structure ServiceGuard where
  /-- References taken by `pctlInitialize` and not yet dropped. -/
  refCount : Nat
  /-- Handle of the open session. -/
  session : Option Nat
  /-- Sessions opened so far, which is the next handle. -/
  opened : Nat
  /-- A session is open exactly while a reference is held. -/
  held : session.isSome ↔ 0 < refCount
  /-- Every handle is older than the next one. -/
  older : ∀ handle ∈ session, handle < opened

/-- The guard while nobody holds a reference. -/
def ServiceGuard.closed (opened : Nat) : ServiceGuard where
  refCount := 0
  session := none
  opened := opened
  held := by simp
  older := by simp

/-- `pctlInitialize` on the guard: open only at zero, undo the reference on failure. -/
def ServiceGuard.acquire (g : ServiceGuard) (rc : Result) : Result × ServiceGuard :=
  if free : g.refCount = 0 then
    if rSucceeded rc then (0, ⟨1, some g.opened, g.opened + 1, by simp, by simp⟩) else (rc, g)
  else (0, { g with
    refCount := g.refCount + 1
    held := g.held.trans ⟨fun _ => Nat.succ_pos _, fun _ => Nat.pos_of_ne_zero free⟩ })

/-- `pctlExit` on the guard: nothing at zero, close when the last reference goes. -/
def ServiceGuard.release (g : ServiceGuard) : ServiceGuard :=
  if last : g.refCount ≤ 1 then .closed g.opened
  else { g with
    refCount := g.refCount - 1
    held := g.held.trans ⟨fun _ => by omega, fun _ => by omega⟩ }

/-- Dropping a reference lowers a positive count by one. -/
@[simp] theorem ServiceGuard.refCount_release (g : ServiceGuard) :
    g.release.refCount = g.refCount - 1 := by
  unfold ServiceGuard.release
  split
  · rename_i last
    exact (Nat.sub_eq_zero_of_le last).symm
  · rfl

/-- Taking a reference raises the count by one, unless the session could not be opened. -/
@[simp] theorem ServiceGuard.refCount_acquire (g : ServiceGuard) (rc : Result) :
    (g.acquire rc).2.refCount =
      if g.refCount = 0 ∧ rFailed rc then 0 else g.refCount + 1 := by
  unfold ServiceGuard.acquire
  split
  · rename_i free
    split
    · rename_i opened
      simp [free, opened]
    · rename_i failed
      simp [free, failed]
  · rename_i taken
    simp [taken]

/-- What libnx is asked for, in order. -/
inductive Event
  | acquire (rc : Result)
  | release
  | dispatch (command : Command) (input : List UInt8) (rc : Result)
  | passcodeApplet (rc : Result)
deriving DecidableEq

/-- The failures to come; zero lets a call through. -/
structure Faults where
  /-- Results of the coming attempts to open the session. -/
  acquire : Stream' Result
  /-- Results of the coming requests, command by command. -/
  dispatch : Command → Stream' Result
  /-- What the passcode applet is going to return and leave. -/
  passcode : Stream' (Result × (Console → Console))
  /-- Whether `fopen` is going to open the log file. -/
  fopen : Stream' Bool

/-- The console, libnx's session and the failures to come, with a record of what was asked. -/
structure World where
  /-- `hosversionGet`. -/
  hosversion : UInt32
  /-- The shared pctl session. -/
  guard : ServiceGuard
  /-- The console behind it. -/
  console : Console
  /-- How its sysmodule decides. -/
  sys : Sysmodule
  /-- The failures to come. -/
  faults : Faults
  /-- Everything libnx was asked for, latest first. -/
  trace : List Event
  /-- The lines of the log file without their timestamps, latest first. -/
  log : List Text

/-- A computation of the service layer. -/
abbrev PctlM := StateM World

/-- A result code with the value that came with it. -/
structure Reply (α : Type) where
  /-- The result code. -/
  rc : Result
  /-- The output, or what was in its place before a failed call. -/
  out : α

/-- `HOSVER_MAJOR`. -/
def hosverMajor (version : UInt32) : UInt32 := (version >>> 16) &&& 0xFF

/-- `HOSVER_MINOR`. -/
def hosverMinor (version : UInt32) : UInt32 := (version >>> 8) &&& 0xFF

/-- `HOSVER_MICRO`. -/
def hosverMicro (version : UInt32) : UInt32 := version &&& 0xFF

/-- `MAKEHOSVERSION`. -/
def makeHosversion (major minor micro : UInt32) : UInt32 :=
  micro ||| (minor <<< 8) ||| (major <<< 16)

/-- `hosversionAtLeast`. -/
def World.hosversionAtLeast (w : World) (major minor micro : UInt32) : Bool :=
  makeHosversion major minor micro ≤ w.hosversion

/-- One request of a command uses up the first of its results. -/
def Faults.dispatched (f : Faults) (command : Command) : Faults :=
  { f with dispatch := Function.update f.dispatch command (f.dispatch command).tail }

/-- The result of a request that the sysmodule would answer with `served`: a closed session
fails, then a failure on the way, then the sysmodule's own answer. -/
def World.verdict (w : World) (command : Command) (served : Result) : Result :=
  if w.guard.session.isNone then invalidHandle
  else if rFailed (w.faults.dispatch command).head then (w.faults.dispatch command).head
  else served

/-- `pctlInitialize`. -/
def pctlInitialize : PctlM Result := fun w =>
  let opened := w.guard.acquire w.faults.acquire.head
  (opened.1, { w with
    guard := opened.2
    faults := { w.faults with acquire := w.faults.acquire.tail }
    trace := .acquire opened.1 :: w.trace })

/-- `pctlExit`. -/
def pctlExit : PctlM Unit :=
  modify fun w => { w with guard := w.guard.release, trace := .release :: w.trace }

/-- `pctlauthRegisterPasscode` — the system applet; it uses a session of its own. -/
def pctlauthRegisterPasscode : PctlM Result := fun w =>
  let outcome := w.faults.passcode.head
  (outcome.1, { w with
    console := outcome.2 w.console
    faults := { w.faults with passcode := w.faults.passcode.tail }
    trace := .passcodeApplet outcome.1 :: w.trace })

/-- `serviceDispatchOut` — a query: `out` holds `initial` unless the request succeeds. -/
def serviceDispatchOut {α : Type} (command : Command) (initial : α)
    (answer : Sysmodule → Console → α) : PctlM (Reply α) := fun w =>
  let rc := w.verdict command 0
  (⟨rc, if rSucceeded rc then answer w.sys w.console else initial⟩, { w with
    faults := w.faults.dispatched command
    trace := .dispatch command [] rc :: w.trace })

/-- `serviceDispatchIn` — a request with an input, which may change the console when it
succeeds. -/
def serviceDispatchIn (command : Command) (input : List UInt8)
    (perform : Sysmodule → Console → Result × Console) : PctlM Result := fun w =>
  let served := perform w.sys w.console
  let rc := w.verdict command served.1
  (rc, { w with
    console := if rSucceeded rc then served.2 else w.console
    faults := w.faults.dispatched command
    trace := .dispatch command input rc :: w.trace })

/-- `serviceDispatch` — a request without input or output. -/
def serviceDispatch (command : Command) (perform : Sysmodule → Console → Result × Console) :
    PctlM Result := serviceDispatchIn command [] perform

/-- `pctl_logf` — append a line to the log file, or nothing if the file does not open. -/
def pctlLogf (line : Text) : PctlM Unit := modify fun w => { w with
  log := if w.faults.fopen.head then line :: w.log else w.log
  faults := { w.faults with fopen := w.faults.fopen.tail } }

end PctlManager
