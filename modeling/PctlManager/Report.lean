import PctlManager.PlayTimer

/-!
# The diagnostic report

`pctl_play_timer_dump`: a read-only report of the console written into the caller's buffer.
The buffer is a range of a memory of characters, and `rep` moves a cursor through it with
`vsnprintf`, which returns the length of the whole text even when only a part of it fits.
-/

namespace PctlManager

open Stateful

/-- The memory with the cursor of the report and the end of its buffer. -/
structure Report where
  /-- The character at each address. -/
  memory : Nat → Char
  /-- The cursor `p`. -/
  p : Nat
  /-- The address behind the buffer. -/
  e : Nat

/-- `vsnprintf` of a formatted text into `size` characters: the part that fits with a
terminator, and the length of the whole text. -/
def vsnprintf (memory : Nat → Char) (start size : Nat) (text : Text) : (Nat → Char) × Int :=
  let kept := text.take (size - 1) ++ ['\x00']
  (fun address =>
    if size ≠ 0 ∧ start ≤ address then kept.getD (address - start) (memory address)
    else memory address,
    text.length)

/-- `rep` — append a text at the cursor, which stops at the end of the buffer. -/
def rep (text : Text) : StateM Report Unit := modify fun r =>
  if r.p ≥ r.e then r
  else
    let printed := vsnprintf r.memory r.p (r.e - r.p) text
    let moved := if printed.2 > 0 then r.p + printed.2.toNat else r.p
    { r with memory := printed.1, p := if moved > r.e then r.e else moved }

/-- `struct tm` of a time in UTC. -/
structure Tm where
  /-- Years since 1900. -/
  year : Int
  /-- Months since January. -/
  mon : Int
  /-- The day of the month. -/
  mday : Int
  /-- The hour. -/
  hour : Int
  /-- The minute. -/
  min : Int
  /-- The second. -/
  sec : Int

/-- `gmtime` — the Gregorian calendar in UTC, counted in eras of four hundred years that
begin in March; no result when the year does not fit an `int`. -/
def gmtime (t : Int) : Option Tm :=
  let z := t / 86400 + 719468
  let era := z / 146097
  let doe := z % 146097
  let yoe := (doe - doe / 1460 + doe / 36524 - doe / 146096) / 365
  let doy := doe - (365 * yoe + yoe / 4 - yoe / 100)
  let mp := (5 * doy + 2) / 153
  let month := if mp < 10 then mp + 3 else mp - 9
  let year := yoe + era * 400 + if month ≤ 2 then 1 else 0
  let secs := t % 86400
  if -2147481748 ≤ year ∧ year ≤ 2147485547 then
    some ⟨year - 1900, month - 1, doy - (153 * mp + 2) / 5 + 1, secs / 3600, secs / 60 % 60,
      secs % 60⟩
  else none

/-- `(time_t)ts`. -/
def timeOfTimestamp (ts : UInt64) : Int := ts.toInt64.toInt

/-- The state of a running dump. -/
structure Dump where
  /-- The console and the session. -/
  world : World
  /-- The report so far. -/
  report : Report

/-- The service layer below a running dump. -/
def Dump.worldPart : Part Dump World where
  view d := d.world
  update d world := { d with world }
  view_update _ _ := rfl

/-- The report of a running dump. -/
def Dump.reportPart : Part Dump Report where
  view d := d.report
  update d report := { d with report }
  view_update _ _ := rfl

/-- A computation of the dump. -/
abbrev DumpM := StateM Dump

/-- A call of the service layer from the dump. -/
def ask {α : Type} (m : PctlM α) : DumpM α := zoom Dump.worldPart m

/-- `rep(&p, e, ...)` in the dump. -/
def say (text : Text) : DumpM Unit := zoom Dump.reportPart (rep text)

/-- `true`, `false`, or a dash after a failed query. -/
def flagText (reply : Reply Bool) : Text :=
  if rSucceeded reply.rc then (if reply.out then "true".toList else "false".toList)
  else "-".toList

/-- The line of a query with a boolean answer. -/
def dumpFlag (title : Text) (command : Command) (answer : Sysmodule → Console → Bool) :
    DumpM Unit := do
  let r ← ask (serviceDispatchOut command false answer)
  say (title ++ ": rc=".toList ++ hexResult r.rc ++ "  ".toList ++ flagText r ++ "\n".toList)

/-- `tm->tm_year + 1900` — a sum that no `int` holds wraps around. -/
def Tm.fullYear (tm : Tm) : Int := (tm.year + 1900).bmod (2 ^ 32)

/-- `rep_clock`. -/
def repClock (name : Text) (type : TimeType) : DumpM Unit := do
  let d ← get
  let r := (d.world.console.clock type).1
  let ts := if rSucceeded r then (d.world.console.clock type).2 else 0
  say (padRight 22 name ++ ": rc=".toList ++ hexResult r)
  if rSucceeded r then
    match gmtime (timeOfTimestamp ts) with
    | some tm =>
      say ("  ".toList ++ signedZero 4 tm.fullYear ++ "-".toList ++ signedZero 2 (tm.mon + 1) ++
        "-".toList ++ signedZero 2 tm.mday ++ " ".toList ++ signedZero 2 tm.hour ++
        ":".toList ++ signedZero 2 tm.min ++ ":".toList ++ signedZero 2 tm.sec ++
        " UTC".toList)
    | none => pure ()
  else pure ()
  say "\n".toList

/-- The header of the dump: firmware and clocks. -/
def dumpHeader : DumpM Unit := do
  let d ← get
  let hv := d.world.hosversion
  say "=== Pctl Manager diagnostic dump (read-only) ===\n".toList
  say ("firmware ".toList ++ decimal (hosverMajor hv).toNat ++ ".".toList ++
    decimal (hosverMinor hv).toNat ++ ".".toList ++ decimal (hosverMicro hv).toNat ++
    "   play-timer commands supported: ".toList ++
    (if pctlFwPlayTimerSupported d.world then "yes".toList else "NO (needs 21.0.0+)".toList) ++
    "\n".toList)
  repClock "UserSystemClock".toList .userSystemClock
  repClock "NetworkSystemClock".toList .networkSystemClock
  repClock "LocalSystemClock".toList .localSystemClock

/-- One byte of the masked PIN buffer: a digit shows as `##`. -/
def pinByteText (byte : UInt8) : Text :=
  if 0x30 ≤ byte ∧ byte ≤ 0x39 then "## ".toList else hexByte byte ++ " ".toList

/-- The restriction state and the masked PIN. -/
def dumpRestriction : DumpM Unit := do
  dumpFlag "\n1031 IsRestrictionEnabled          ".toList .isRestrictionEnabled
    fun _ c => c.restrictionEnabled
  dumpFlag "1006 IsRestrictionTemporaryUnlocked".toList .isRestrictionTemporaryUnlocked
    fun _ c => c.temporarilyUnlocked
  let len ← ask (serviceDispatchOut .getPinCodeLength 0 fun _ c => c.pinLength)
  say ("1206 GetPinCodeLength              : rc=".toList ++ hexResult len.rc ++
    "  len=".toList ++ decimal len.out.toNat ++ "\n".toList)
  let _ ← ask pctlOpsReinit
  let untouched := List.replicate 0x10 (0xCC : UInt8)
  let pin ← ask (serviceDispatchOut .getPinCode (0, untouched) fun _ c =>
    (c.pinCode.1, fillBuffer untouched c.pinCode.2))
  say ("1208 GetPinCode                    : rc=".toList ++ hexResult pin.rc ++
    "  ret=".toList ++ decimal pin.out.1.toNat ++
    "   (CC == untouched, ## == ASCII digit)\n ".toList)
  pin.out.2.forM fun byte => say (pinByteText byte)
  say "\n".toList

/-- The play-timer queries. -/
def dumpTimer : DumpM Unit := do
  let _ ← ask pctlOpsReinit
  dumpFlag "\n1453 IsPlayTimerEnabled       ".toList .isPlayTimerEnabled
    fun sys c => sys.isPlayTimerEnabled c.stored c.temporarilyUnlocked
  dumpFlag "1455 IsRestrictedByPlayTimer  ".toList .isRestrictedByPlayTimer
    fun _ c => c.restrictedByPlayTimer
  dumpFlag "1458 IsPlayTimerAlarmDisabled ".toList .isPlayTimerAlarmDisabled
    fun _ c => c.playTimerAlarmDisabled
  let v ← ask (serviceDispatchOut .getPlayTimerRemainingTime 0 fun _ c => c.remainingTime)
  say ("1454 GetPlayTimerRemainingTime: rc=".toList ++ hexResult v.rc ++ "  0x".toList ++
    hexZero 16 v.out.toNat)
  if rSucceeded v.rc ∧ v.out ≠ 0 then
    say ("  (~".toList ++ decimal (v.out.toNat / 60000000000) ++ " min if ns)".toList)
  else pure ()
  say "\n".toList
  let _ ← ask pctlOpsReinit
  let spent ← ask (serviceDispatchOut .getPlayTimerSpentTimeForTest 0 fun _ c => c.spentTime)
  say ("1952 GetPlayTimerSpentTimeForTest: rc=".toList ++ hexResult spent.rc ++ "  0x".toList ++
    hexZero 16 spent.out.toNat ++ "\n".toList)

/-- A raw buffer, sixteen bytes to the line. -/
def dumpBytes (bytes : List UInt8) : DumpM Unit :=
  bytes.zipIdx.forM fun entry => do
    say (hexByte entry.1 ++ " ".toList)
    if entry.2 % 16 = 15 then say "\n".toList else pure ()

/-- The decoded line of one slot. -/
def slotLine (name : Text) (d : PtDaySetting) : Text :=
  padRight 5 name ++ "  ".toList ++ decimalWide 3 d.bedtimeEnabled.toNat ++ "  ".toList ++
    decimalZero 2 d.bedtimeHour.toNat ++ ":".toList ++ decimalZero 2 d.bedtimeMinute.toNat ++
    "  ".toList ++ decimalZero 2 d.bedtimeResetHour.toNat ++ ":".toList ++
    decimalZero 2 d.bedtimeResetMinute.toNat ++ "  ".toList ++
    decimalWide 5 d.limitEnabled.toNat ++ "  ".toList ++ decimalWide 7 d.limitMinutes.toNat ++
    "\n".toList

/-- The names of the weekly slots. -/
def slotNames : List Text :=
  ["Sun".toList, "Mon".toList, "Tue".toList, "Wed".toList, "Thu".toList, "Fri".toList,
    "Sat".toList]

/-- The stored settings: raw bytes and their decoding. -/
def dumpSettings : DumpM Unit := do
  let _ ← ask pctlOpsReinit
  let raw ← ask (serviceDispatchOut .getPlayTimerSettings none fun _ c => some c.stored)
  say ("\n145601 GetPlayTimerSettings: rc=".toList ++ hexResult raw.rc ++
    "   (0x44 bytes; CC == server left it)\n".toList)
  dumpBytes ((raw.out.map PtSettings.bytes).getD (List.replicate 0x44 0xCC))
  say "\n".toList
  match raw.out with
  | none => pure ()
  | some s =>
    say ("header: enabled=".toList ++ decimal s.enabled.toNat ++ " restrictionMode=".toList ++
      decimal s.restrictionMode.toNat ++ " (".toList ++
      (if s.restrictionMode ≠ 0 then "FORCED_TERMINATION".toList else "ALARM".toList) ++
      ") timerMode=".toList ++ decimal s.weekUsed.toNat ++ " (".toList ++
      (if s.weekUsed ≠ 0 then "EACH_DAY_OF_THE_WEEK".toList else "DAILY".toList) ++
      ") reserved=".toList ++ decimal s.reserved.toNat ++ "\n".toList)
    say "slot   bed  time   reset  limit  minutes\n".toList
    say (slotLine "daily".toList s.daily)
    (slotNames.zip (List.ofFn s.weekly)).forM fun slot => say (slotLine slot.1 slot.2)

/-- One of the four bedtime getters, on a session of its own. -/
def dumpBedtimeGetter (command : Command) (name : Text) (answer : PtBedtime → UInt8) :
    DumpM Unit := do
  let _ ← ask pctlOpsReinit
  let v ← ask (serviceDispatchOut command 0xCC fun sys c => answer (sys.bedtimeAlarm c))
  say (decimal command.id ++ " ".toList ++ padRight 30 name ++ ": rc=".toList ++
    hexResult v.rc ++ "  ".toList ++ decimal v.out.toNat ++ "\n".toList)

/-- The bedtime getters and the display info. -/
def dumpBedtime : DumpM Unit := do
  let _ ← ask pctlOpsReinit
  dumpFlag "\n1954 IsBedtimeAlarmEnabled         ".toList .isBedtimeAlarmEnabled
    fun sys c => (sys.bedtimeAlarm c).enabled
  dumpBedtimeGetter .getBedtimeAlarmTimeHour "GetBedtimeAlarmTimeHour".toList (·.hour)
  dumpBedtimeGetter .getBedtimeAlarmTimeMinute "GetBedtimeAlarmTimeMinute".toList (·.minute)
  dumpBedtimeGetter .getBedtimeAlarmResetTimeHour "GetBedtimeAlarmResetTimeHour".toList
    (·.resetHour)
  dumpBedtimeGetter .getBedtimeAlarmResetTimeMinute "GetBedtimeAlarmResetTimeMinute".toList
    (·.resetMinute)
  let _ ← ask pctlOpsReinit
  let info ← ask (serviceDispatchOut .getPlayTimerRemainingTimeDisplayInfo
    (List.replicate 0x20 (0xCC : UInt8)) fun _ c => c.remainingTimeDisplayInfo)
  say ("\n1459 GetPlayTimerRemainingTimeDisplayInfo: rc=".toList ++ hexResult info.rc ++
    "  (0x20 bytes; CC == server left it)\n".toList)
  if rSucceeded info.rc then dumpBytes info.out else pure ()
  say "\n".toList

/-- `pctl_play_timer_dump` into the buffer of `bufsz` characters at `buf`. -/
def pctlPlayTimerDump (buf bufsz : Nat) : DumpM Unit :=
  if bufsz = 0 then pure ()
  else do
    modify fun d => { d with report :=
      { memory := Function.update d.report.memory buf '\x00', p := buf, e := buf + bufsz } }
    dumpHeader
    let ir ← ask pctlOpsReinit
    if rFailed ir then say ("pctlInitialize failed: ".toList ++ hexResult ir ++ "\n".toList)
    else
      dumpRestriction
      let d ← get
      if pctlFwPlayTimerSupported d.world then
        dumpTimer
        dumpSettings
        dumpBedtime
      else say "\n(play-timer section skipped: firmware too old)\n".toList

end PctlManager
