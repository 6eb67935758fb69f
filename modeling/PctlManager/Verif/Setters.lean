import PctlManager.Verif.Documented
import PctlManager.Spec.Registers
import PctlManager.Logic.Runs
import PctlManager.Logic.Sentinel

/-!
# The setters refine three registers

`registersOf` reads the stored settings as the registers of `Spec.Registers`: a limit for each
day, an alarm for each day and the mode, or off. Each setter commutes with it, whatever form
the settings are stored in, so every run of successful setters is a run of register writes
(`setters_refine_registers`). A setter that fails leaves the stored settings alone, and one
that succeeds wrote what it derived from the settings it read (`setter_atomic`).
-/

namespace PctlManager

open Stateful Spec

/-! ## The abstraction -/

/-- The four times of an alarm. -/
structure Alarm where
  /-- Hour of the alarm. -/
  hour : UInt8
  /-- Minute of the alarm. -/
  minute : UInt8
  /-- Hour at which the restriction lifts. -/
  resetHour : UInt8
  /-- Minute at which the restriction lifts. -/
  resetMinute : UInt8
deriving DecidableEq

/-- The limit of a slot. -/
def limitOf (d : PtDaySetting) : Option UInt16 :=
  if d.limitEnabled ≠ 0 then some d.limitMinutes else none

/-- The alarm of a slot. -/
def alarmOf (d : PtDaySetting) : Option Alarm :=
  if d.bedtimeEnabled ≠ 0 then
    some ⟨d.bedtimeHour, d.bedtimeMinute, d.bedtimeResetHour, d.bedtimeResetMinute⟩
  else none

/-- The alarm that the UI asks for. -/
def PtBedtime.alarm (b : PtBedtime) : Option Alarm :=
  if b.enabled then some ⟨b.hour, b.minute, b.resetHour, b.resetMinute⟩ else none

/-- What the stored settings say about every day, through the slots that are in force. -/
def configOf (s : PtSettings) : Config Day UInt16 Alarm where
  limits n := limitOf (daySlot s n)
  alarms n := alarmOf (daySlot s n)
  suspend := s.restrictionMode != 0

/-- The registers that the stored settings stand for. -/
def registersOf (s : PtSettings) : Registers Day UInt16 Alarm := (configOf s).settle

/-- A slot has a limit exactly when its flag is set. -/
theorem limitOf_isSome (d : PtDaySetting) : (limitOf d).isSome ↔ d.limitEnabled ≠ 0 := by
  simp [limitOf]

/-- A slot has an alarm exactly when its flag is set. -/
theorem alarmOf_isSome (d : PtDaySetting) : (alarmOf d).isSome ↔ d.bedtimeEnabled ≠ 0 := by
  simp [alarmOf]

/-- The code and the registers agree on when something is configured. -/
theorem configured_configOf (s : PtSettings) :
    (configOf s).Configured ↔ settingsConfigured s = true := by
  rw [settingsConfigured_iff]
  exact exists_congr fun n => or_congr (limitOf_isSome _) (alarmOf_isSome _)

/-- The registers do not see the byte that pctl re-derives. -/
theorem registersOf_enabled (s : PtSettings) (e : UInt8) :
    registersOf { s with enabled := e } = registersOf s := rfl

/-- The registers keep every day's alarm, also when they are off. -/
theorem alarms_registersOf (s : PtSettings) (n : Day) :
    (registersOf s).base.alarms n = alarmOf (daySlot s n) :=
  congrFun (configOf s).days_settle.2 n

/-- Configured settings are on. -/
theorem registersOf_of_configured {s : PtSettings} (configured : settingsConfigured s = true) :
    (registersOf s).base = configOf s :=
  Config.base_settle ((configured_configOf s).mpr configured)

/-- Settings without anything configured are off. -/
theorem registersOf_of_not_configured {s : PtSettings} (off : ¬settingsConfigured s = true) :
    registersOf s = none := dif_neg (mt (configured_configOf s).mp off)

/-- The registers keep every day's limit, also when they are off. -/
theorem limits_registersOf (s : PtSettings) (n : Day) :
    (registersOf s).base.limits n = limitOf (daySlot s n) :=
  congrFun (configOf s).days_settle.1 n

/-- The registers are off exactly when nothing is configured. -/
theorem registersOf_eq_none_iff (s : PtSettings) :
    registersOf s = none ↔ ¬settingsConfigured s = true := by
  constructor
  · intro off configured
    have present := (configured_configOf s).mpr configured
    have on : registersOf s = some ⟨configOf s, present⟩ := dif_pos present
    exact Option.some_ne_none _ (on.symm.trans off)
  · exact registersOf_of_not_configured

/-! ## Patching -/

/-- What `begin_patch` hands out is in weekly mode. -/
theorem weekUsed_patchForm (s : PtSettings) : (patchForm s).weekUsed ≠ 0 := by
  unfold patchForm
  split
  · exact (by decide : (1 : UInt8) ≠ 0)
  · split
    · exact (by decide : (1 : UInt8) ≠ 0)
    · assumption

/-- What `begin_patch` hands out holds the values that the registers start from: the defaults
when the timer is off, and every day's own slot otherwise. -/
theorem configOf_patchForm (s : PtSettings) : configOf (patchForm s) = (registersOf s).base := by
  unfold patchForm
  split
  · rename_i off
    rw [registersOf_of_not_configured off]
    rfl
  · rename_i configured
    rw [registersOf_of_configured (not_not.mp configured)]
    split
    · rename_i daily
      simp [configOf, daySlot, daily]
    · rfl

/-- What `finish_patch` writes stands for the same registers. -/
theorem registersOf_finishForm (s : PtSettings) : registersOf (finishForm s) = registersOf s := by
  unfold finishForm
  split
  · exact registersOf_enabled s 1
  · rename_i off
    rw [registersOf_of_not_configured off]
    exact registersOf_of_not_configured (by decide)

/-- The limit loop replaces the limits. -/
theorem configOf_editDays (daysMin : Day → UInt16) {s : PtSettings}
    (weekly : s.weekUsed ≠ 0) : configOf (editDays daysMin s) =
      { configOf s with limits := fun n => Sentinel.decode ptDayNoLimit (daysMin n) } := by
  unfold configOf editDays daySlot
  simp only [weekly, ne_eq, not_false_eq_true, ↓reduceIte, Config.mk.injEq, and_true]
  refine ⟨funext fun n => ?_, rfl⟩
  by_cases none : daysMin n = ptDayNoLimit
  · simp [limitOf, none]
  · simp [limitOf, none, Sentinel.decode]

/-- The alarm loop replaces the alarms. -/
theorem configOf_editBedtime (bed : PtBedtime) {s : PtSettings} (weekly : s.weekUsed ≠ 0) :
    configOf (editBedtime bed s) = { configOf s with alarms := fun _ => bed.alarm } := by
  unfold configOf editBedtime daySlot
  simp only [weekly, ne_eq, not_false_eq_true, ↓reduceIte, Config.mk.injEq, and_true]
  refine ⟨rfl, funext fun n => ?_⟩
  cases on : bed.enabled <;> simp [alarmOf, PtBedtime.alarm, on]

/-- The mode assignment replaces the mode. -/
theorem configOf_editMode (mode : UInt8) (s : PtSettings) :
    configOf (editMode mode s) = { configOf s with suspend := mode != 0 } := by
  by_cases alarm : mode = 0
  · simp [configOf, editMode, daySlot, alarm, ptModeAlarm]
  · simp [configOf, editMode, daySlot, alarm, ptModeSuspend]

/-! ## The five setters -/

/-- A call of one of the setters with its argument. -/
inductive SetterCall
  | setDays (daysMin : Day → UInt16)
  | setUniform (minutes : UInt16)
  | clear
  | setBedtime (bed : PtBedtime)
  | setMode (restrictionMode : UInt8)

/-- The call itself. -/
def SetterCall.perform : SetterCall → PctlM Result
  | .setDays daysMin => pctlPlayTimerSetDays daysMin
  | .setUniform minutes => pctlPlayTimerSetUniform minutes
  | .clear => pctlPlayTimerClear
  | .setBedtime bed => pctlPlayTimerSetBedtime bed
  | .setMode mode => pctlPlayTimerSetMode mode

/-- The edit between the two halves of the patch. -/
def SetterCall.edit : SetterCall → PtSettings → PtSettings
  | .setDays daysMin => editDays daysMin
  | .setUniform minutes => editDays fun _ => minutes
  | .clear => editDays fun _ => ptDayNoLimit
  | .setBedtime bed => editBedtime bed
  | .setMode mode => editMode mode

/-- The register write that the call stands for. -/
def SetterCall.spec (r : Registers Day UInt16 Alarm) : SetterCall → Registers Day UInt16 Alarm
  | .setDays daysMin => r.setLimits fun n => Sentinel.decode ptDayNoLimit (daysMin n)
  | .setUniform minutes => r.setLimits fun _ => Sentinel.decode ptDayNoLimit minutes
  | .clear => r.setLimits fun _ => none
  | .setBedtime bed => r.setAlarms fun _ => bed.alarm
  | .setMode mode => r.setSuspend (mode != 0)

/-- What the call stores, from what was stored. -/
def SetterCall.written (call : SetterCall) (s : PtSettings) : PtSettings :=
  finishForm (call.edit (patchForm s))

/-- Every setter is a patch. -/
theorem SetterCall.perform_eq (call : SetterCall) : call.perform = patchSettings call.edit := by
  cases call <;> rfl

/-- Every setter sends 195101 only. -/
theorem SetterCall.built (call : SetterCall) :
    Built (· = .setPlayTimerSettingsForDebug) call.perform := by
  rw [call.perform_eq]
  exact built_patchSettings _

/-- The registers of what a call writes are the register write on what was stored. -/
theorem SetterCall.registersOf_written (call : SetterCall) (s : PtSettings) :
    registersOf (call.written s) = call.spec (registersOf s) := by
  have weekly := weekUsed_patchForm s
  rw [SetterCall.written, registersOf_finishForm]
  unfold registersOf
  cases call with
  | setDays daysMin => rw [edit, configOf_editDays daysMin weekly, configOf_patchForm]; rfl
  | setUniform minutes => rw [edit, configOf_editDays _ weekly, configOf_patchForm]; rfl
  | clear =>
    rw [edit, configOf_editDays _ weekly, configOf_patchForm]
    simp only [Sentinel.decode_reserved]
    rfl
  | setBedtime bed => rw [edit, configOf_editBedtime bed weekly, configOf_patchForm]; rfl
  | setMode mode => rw [edit, configOf_editMode, configOf_patchForm]; rfl

/-! ## Reading and writing back -/

section Patch

variable (s : PtSettings) (edit : PtSettings → PtSettings) (w : World)

/-- pctl answers every write with success. -/
@[simp] theorem setPlayTimerSettingsForDebug_rc (sys : Sysmodule) (c : Console) :
    (setPlayTimerSettingsForDebug s sys c).1 = 0 := rfl

/-- Writing the settings succeeds exactly when 195101 gets through on the fresh session. -/
theorem result_writeSettings : result (writeSettings s) w = 0 ↔
    pctlFwPlayTimerSupported w = true ∧ w.Reaches 1 .setPlayTimerSettingsForDebug 0 := by
  unfold writeSettings
  simp only [result_bind, result_get, after_get, result_ite, result_pure]
  split
  · rename_i supported
    simp [supported]
  · rename_i unsupported
    simp [unsupported, show ptUnsupported ≠ 0 by decide]

/-- A write that succeeds is left to pctl, and one that fails changes nothing. -/
theorem console_writeSettings : (after (writeSettings s) w).console =
    if pctlFwPlayTimerSupported w = true ∧ w.Reaches 1 .setPlayTimerSettingsForDebug 0 then
      (setPlayTimerSettingsForDebug s w.sys w.console).2
    else w.console := by
  unfold writeSettings
  simp only [after_bind, result_get, after_get, after_ite, after_pure]
  split
  · rename_i supported
    simp [supported]
  · rename_i unsupported
    simp [unsupported]

/-- What libnx is asked for when the settings are read. -/
theorem trace_readSettings (supported : pctlFwPlayTimerSupported w = true) :
    (after readSettings w).trace =
      .dispatch .getPlayTimerSettings [] (result readSettings w).rc ::
        .acquire (result pctlOpsReinit w) :: .release :: w.trace := by
  unfold readSettings
  simp only [result_bind, after_bind, result_get, after_get, supported, ↓reduceIte]
  rfl

/-- What libnx is asked for when the settings are written. -/
theorem trace_writeSettings (supported : pctlFwPlayTimerSupported w = true) :
    (after (writeSettings s) w).trace =
      .dispatch .setPlayTimerSettingsForDebug s.bytes (result (writeSettings s) w) ::
        .acquire (result pctlOpsReinit w) :: .release :: w.trace := by
  unfold writeSettings
  simp only [result_bind, after_bind, result_get, after_get, supported, ↓reduceIte, result_pure,
    after_pure]
  rfl

/-- On old firmware a patch is refused before anything is asked for. -/
theorem patchSettings_of_unsupported (unsupported : ¬pctlFwPlayTimerSupported w = true) :
    result (patchSettings edit) w = ptUnsupported ∧ after (patchSettings edit) w = w := by
  simp [patchSettings, beginPatch, readSettings, unsupported, show ptUnsupported ≠ 0 by decide]

/-- A patch whose read failed returns the failure, and does nothing else. -/
theorem patchSettings_of_unread (failed : (result readSettings w).rc ≠ 0) :
    result (patchSettings edit) w = (result readSettings w).rc ∧
      after (patchSettings edit) w = after readSettings w := by
  simp [patchSettings, beginPatch, failed]

/-- A patch whose read succeeded writes what it derives from the settings it read. -/
theorem patchSettings_of_read (succeeded : (result readSettings w).rc = 0) :
    result (patchSettings edit) w = result (writeSettings
        (finishForm (edit (patchForm w.console.stored)))) (after readSettings w) ∧
      after (patchSettings edit) w = after (writeSettings
        (finishForm (edit (patchForm w.console.stored)))) (after readSettings w) := by
  have read := out_readSettings w succeeded
  simp [patchSettings, beginPatch, finishPatch, succeeded, read]

/-- A patch succeeds exactly when its read and its write get through, each on a session of its
own. -/
theorem result_patchSettings : result (patchSettings edit) w = 0 ↔
    pctlFwPlayTimerSupported w = true ∧ w.Reaches 1 .getPlayTimerSettings 0 ∧
      w.Reaches 2 .setPlayTimerSettingsForDebug 0 := by
  by_cases supported : pctlFwPlayTimerSupported w = true
  · by_cases read : (result readSettings w).rc = 0
    · rw [(patchSettings_of_read edit w read).1, result_writeSettings,
        built_readSettings.supported, reaches_readSettings _ supported]
      simp [supported, ((rc_readSettings w).mp read).2]
    · rw [(patchSettings_of_unread edit w read).1]
      have unread := mt (rc_readSettings w).mpr read
      simp only [supported, true_and] at unread
      simp [read, unread]
  · rw [(patchSettings_of_unsupported edit w supported).1]
    simp [supported, show ptUnsupported ≠ 0 by decide]

/-- A patch that succeeds leaves its settings to pctl, and one that fails changes nothing. -/
theorem console_patchSettings : (after (patchSettings edit) w).console =
    if result (patchSettings edit) w = 0 then
      (setPlayTimerSettingsForDebug (finishForm (edit (patchForm w.console.stored)))
        w.sys w.console).2
    else w.console := by
  by_cases supported : pctlFwPlayTimerSupported w = true
  · by_cases read : (result readSettings w).rc = 0
    · obtain ⟨returned, left⟩ := patchSettings_of_read edit w read
      simp only [left, returned, console_writeSettings, result_writeSettings,
        built_readSettings.console, built_readSettings.sys]
    · obtain ⟨returned, left⟩ := patchSettings_of_unread edit w read
      rw [returned, left, built_readSettings.console, if_neg read]
  · obtain ⟨returned, left⟩ := patchSettings_of_unsupported edit w supported
    rw [returned, left, if_neg (by decide)]

/-- What libnx is asked for by a patch that reads and writes. -/
theorem trace_of_read (supported : pctlFwPlayTimerSupported w = true)
    (succeeded : (result readSettings w).rc = 0) : ∃ opened reopened,
    (after (patchSettings edit) w).trace =
      [.dispatch .setPlayTimerSettingsForDebug
          (finishForm (edit (patchForm w.console.stored))).bytes (result (patchSettings edit) w),
        .acquire reopened, .release, .dispatch .getPlayTimerSettings [] 0, .acquire opened,
        .release] ++ w.trace := by
  obtain ⟨returned, left⟩ := patchSettings_of_read edit w succeeded
  have still : pctlFwPlayTimerSupported (after readSettings w) = true := by
    rw [built_readSettings.supported, supported]
  rw [left, trace_writeSettings _ _ still, trace_readSettings w supported, succeeded, returned]
  exact ⟨_, _, rfl⟩

/-- What libnx is asked for by a patch that cannot read. -/
theorem trace_of_unread (supported : pctlFwPlayTimerSupported w = true)
    (failed : (result readSettings w).rc ≠ 0) : ∃ opened,
    (after (patchSettings edit) w).trace =
      [.dispatch .getPlayTimerSettings [] (result (patchSettings edit) w), .acquire opened,
        .release] ++ w.trace := by
  obtain ⟨returned, left⟩ := patchSettings_of_unread edit w failed
  rw [left, trace_readSettings w supported, returned]
  exact ⟨_, rfl⟩

end Patch

/-! ## Runs of setters -/

/-- The call as a reaction of the world. -/
def SetterCall.step (w : World) (call : SetterCall) : World := after call.perform w

/-- The call returns success. -/
def SetterCall.Succeeds (w : World) (call : SetterCall) : Prop := result call.perform w = 0

instance (w : World) (call : SetterCall) : Decidable (call.Succeeds w) :=
  inferInstanceAs (Decidable (_ = _))

/-- A successful call on a console with a PIN stores what it derives from what was stored,
but for the flag that pctl re-derives. -/
theorem SetterCall.stored_step (call : SetterCall) (w : World)
    (registered : w.console.pinLength ≠ 0) (succeeded : call.Succeeds w) :
    (SetterCall.step w call).console =
      w.sys.rearmed w.console (call.written w.console.stored) := by
  unfold Succeeds at succeeded
  unfold SetterCall.step
  rw [call.perform_eq] at succeeded ⊢
  rw [console_patchSettings, if_pos succeeded]
  exact if_neg registered

/-- Without a PIN pctl drops the write, and a call changes nothing. -/
theorem SetterCall.console_step_without_pin (call : SetterCall) (w : World)
    (none : w.console.pinLength = 0) : (SetterCall.step w call).console = w.console := by
  unfold SetterCall.step
  rw [call.perform_eq, console_patchSettings]
  split
  · exact if_pos none
  · rfl

/-- A call leaves a temporary unlock as it is. -/
theorem SetterCall.temporarilyUnlocked_step (call : SetterCall) (w : World) :
    (after call.perform w).console.temporarilyUnlocked = w.console.temporarilyUnlocked := by
  rw [call.perform_eq, console_patchSettings]
  unfold setPlayTimerSettingsForDebug
  split
  · split <;> rfl
  · rfl

/-- A successful call on a console with a PIN is the register write, and keeps the PIN. -/
theorem SetterCall.step_refines (call : SetterCall) (w : World)
    (registered : w.console.pinLength ≠ 0) (succeeded : call.Succeeds w) :
    registersOf (SetterCall.step w call).console.stored =
        call.spec (registersOf w.console.stored) ∧
      (SetterCall.step w call).console.pinLength ≠ 0 := by
  rw [call.stored_step w registered succeeded]
  refine ⟨?_, registered⟩
  rw [Sysmodule.stored_rearmed, registersOf_enabled, call.registersOf_written]

/-- Whatever becomes of a call, the registers are as they were or the register write. -/
theorem SetterCall.registersOf_step_cases (call : SetterCall) (w : World) :
    (SetterCall.step w call).console.stored = w.console.stored ∨
      call.Succeeds w ∧ registersOf (SetterCall.step w call).console.stored =
        call.spec (registersOf w.console.stored) := by
  by_cases registered : w.console.pinLength = 0
  · left
    rw [call.console_step_without_pin w registered]
  · by_cases succeeded : call.Succeeds w
    · right
      exact ⟨succeeded, (call.step_refines w registered succeeded).1⟩
    · left
      unfold Succeeds at succeeded
      unfold SetterCall.step
      rw [call.perform_eq] at succeeded ⊢
      rw [console_patchSettings, if_neg succeeded]

/-- A run of successful setters is the run of the register writes. -/
theorem SetterCall.run_refines {w : World} (registered : w.console.pinLength ≠ 0)
    {calls : List SetterCall} (successful : Runs.Along step Succeeds w calls) :
    registersOf (Runs.run step w calls).console.stored =
      Runs.run spec (registersOf w.console.stored) calls := by
  have kept : ∀ w (call : SetterCall), call.Succeeds w → w.console.pinLength ≠ 0 →
      (step w call).console.pinLength ≠ 0 :=
    fun w call succeeded registered => (call.step_refines w registered succeeded).2
  have commutes : ∀ w (call : SetterCall), call.Succeeds w → w.console.pinLength ≠ 0 →
      registersOf (step w call).console.stored = call.spec (registersOf w.console.stored) :=
    fun w call succeeded registered => (call.step_refines w registered succeeded).1
  exact Runs.run_simulates (fun w : World => w.console.pinLength ≠ 0)
    (fun w : World => registersOf w.console.stored) kept commutes calls w successful registered

/-- After every call of a run of successful setters, on a console with a PIN, the registers are
the register write on what they were before it; so the whole run is the run of the register
writes. -/
theorem setters_refine_registers (w : World) (calls : List SetterCall)
    (registered : w.console.pinLength ≠ 0)
    (successful : Runs.Along SetterCall.step SetterCall.Succeeds w calls) :
    (∀ prior call later, calls = prior ++ call :: later →
      registersOf (Runs.run SetterCall.step w (prior ++ [call])).console.stored =
        call.spec (registersOf (Runs.run SetterCall.step w prior).console.stored)) ∧
    registersOf (Runs.run SetterCall.step w calls).console.stored =
      Runs.run SetterCall.spec (registersOf w.console.stored) calls := by
  refine ⟨?_, SetterCall.run_refines registered successful⟩
  intro prior call later split
  rw [split, List.append_cons, Runs.along_append] at successful
  have through := successful.1
  have before := ((Runs.along_append _ _ _).mp through).1
  rw [SetterCall.run_refines registered through, SetterCall.run_refines registered before,
    Runs.run_append]
  rfl

/-- From a limit of 60 minutes on every day that only notifies, no limit on Sunday and 90 minutes
on the other days are set, and then an alarm: all three registers are as the calls say. -/
theorem setters_refine_registers_sample :
    let r := registersOf (Runs.run SetterCall.step (.launched (.sample (.everyDay 60) false) .none)
      [.setDays fun d => if d = Day.sunday then ptDayNoLimit else 90,
        .setBedtime ⟨true, 21, 0, 6, 0⟩]).console.stored
    (∀ d, r.base.limits d = if d = Day.sunday then none else some 90) ∧
      (∀ d, r.base.alarms d = some ⟨21, 0, 6, 0⟩) ∧ r.base.suspend = false := by
  intro r
  have refined := (setters_refine_registers (.launched (.sample (.everyDay 60) false) .none)
    [.setDays fun d => if d = Day.sunday then ptDayNoLimit else 90,
      .setBedtime ⟨true, 21, 0, 6, 0⟩] (by decide) ⟨by decide, by decide, trivial⟩).2
  change r = _ at refined
  rw [refined]
  decide

/-! ## Atomicity -/

/-- The event is a 195101. -/
def Event.isWrite : Event → Bool
  | .dispatch .setPlayTimerSettingsForDebug _ _ => true
  | _ => false

/-- What a setter's call asked libnx for, latest first, shows an atomic change. -/
structure SetterCall.Atomic (call : SetterCall) (w : World) (asked : List Event) : Prop where
  /-- At most one write is sent. -/
  once : asked.countP Event.isWrite ≤ 1
  /-- A write follows a read that succeeded, and sends what the call derives from it. -/
  derived : ∀ input rc earlier,
    .dispatch .setPlayTimerSettingsForDebug input rc :: earlier <:+ asked →
      .dispatch .getPlayTimerSettings [] 0 ∈ earlier ∧
        input = (call.written w.console.stored).bytes
  /-- The call returns success exactly when its write succeeded. -/
  success : result call.perform w = 0 ↔
    ∃ input, .dispatch .setPlayTimerSettingsForDebug input 0 ∈ asked
  /-- A call that fails leaves the stored bytes alone. -/
  failure : result call.perform w ≠ 0 →
    (after call.perform w).console.stored.bytes = w.console.stored.bytes
  /-- On old firmware nothing is asked for, and nothing changes. -/
  unsupported : pctlFwPlayTimerSupported w = false →
    asked = [] ∧ after call.perform w = w

/-- Every setter is atomic, whatever is stored and whatever fails. -/
theorem setter_atomic (call : SetterCall) (w : World) : ∃ asked : List Event,
    (after call.perform w).trace = asked ++ w.trace ∧ call.Atomic w asked := by
  have failure : result call.perform w ≠ 0 →
      (after call.perform w).console.stored.bytes = w.console.stored.bytes := by
    rw [call.perform_eq]
    intro failed
    rw [console_patchSettings, if_neg failed]
  by_cases supported : pctlFwPlayTimerSupported w = true
  · by_cases read : (result readSettings w).rc = 0
    · obtain ⟨opened, reopened, asked⟩ := trace_of_read call.edit w supported read
      rw [← call.perform_eq] at asked
      refine ⟨[_, _, _, _, _, _], asked, ⟨?_, ?_, ?_, failure, by simp [supported]⟩⟩
      · simp [List.countP_cons, Event.isWrite]
      · intro input rc earlier suffix
        simp only [List.suffix_cons_iff, List.suffix_nil, List.cons.injEq, reduceCtorEq, false_and,
          Event.dispatch.injEq, true_and, or_false] at suffix
        obtain ⟨⟨rfl, rfl⟩, rfl⟩ := suffix
        exact ⟨by simp, rfl⟩
      · simp [eq_comm]
    · obtain ⟨opened, asked⟩ := trace_of_unread call.edit w supported read
      have failed : result (patchSettings call.edit) w ≠ 0 := by
        rw [(patchSettings_of_unread call.edit w read).1]
        exact read
      rw [← call.perform_eq] at asked failed
      refine ⟨[_, _, _], asked, ⟨?_, ?_, ?_, failure, by simp [supported]⟩⟩
      · simp [Event.isWrite]
      · intro input rc earlier suffix
        simp [List.suffix_cons_iff] at suffix
      · simp [failed]
  · obtain ⟨returned, left⟩ := patchSettings_of_unsupported call.edit w supported
    rw [← call.perform_eq] at returned left
    refine ⟨[], by rw [left, List.nil_append], ?_, ?_, ?_, failure, fun _ => ⟨rfl, left⟩⟩
    · simp
    · intro input rc earlier suffix
      simp at suffix
    · simp [returned, show ptUnsupported ≠ 0 by decide]

end PctlManager
