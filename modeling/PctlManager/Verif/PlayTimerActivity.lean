import PctlManager.PlayTimerActivity
import PctlManager.Verif.Promises
import PctlManager.Verif.Bedtime

/-!
# The play-timer screen and the service layer

The screen decides on a snapshot what the service layer decides on the stored settings: whether
anything is configured, and which mode the next write is going to keep. The snapshot does not
show a limit of 65535 minutes, and this is the one case in which they disagree
(`mode_agrees_iff`).
-/

namespace PctlManager

open Stateful Spec

/-! ## Configured, on the screen and below -/

/-- Some day has a limit, every limit is 65535 minutes long, and no day has an alarm. -/
def PtSettings.OnlyLongest (s : PtSettings) : Prop :=
  (∃ n, limitOf (daySlot s n) ≠ none) ∧
    ∀ n, alarmOf (daySlot s n) = none ∧
      (limitOf (daySlot s n) = none ∨ limitOf (daySlot s n) = some ptDayNoLimit)

instance (s : PtSettings) : Decidable s.OnlyLongest := inferInstanceAs (Decidable (_ ∧ _))

/-- `settings_configured` finds a limit or an alarm. -/
theorem settingsConfigured_iff_day (s : PtSettings) : settingsConfigured s = true ↔
    ∃ n, limitOf (daySlot s n) ≠ none ∨ alarmOf (daySlot s n) ≠ none := by
  rw [settingsConfigured_iff]
  refine exists_congr fun n => or_congr ?_ ?_
  · rw [← limitOf_isSome, Option.isSome_iff_ne_none]
  · rw [← alarmOf_isSome, Option.isSome_iff_ne_none]

/-- `is_configured` finds an alarm, or a limit that the snapshot shows. -/
theorem isConfigured_iff (s : PtSettings) (out : PtState) :
    isConfigured (out.ofSettings s) = true ↔
      (∃ n, alarmOf (daySlot s n) ≠ none) ∨
        ∃ n, limitOf (daySlot s n) ≠ none ∧ limitOf (daySlot s n) ≠ some ptDayNoLimit := by
  have alarm : (out.ofSettings s).bedtime.enabled = true ↔ ∃ n, alarmOf (daySlot s n) ≠ none := by
    rw [← alarmOf_bedDay_isSome, ← Option.isSome_iff_ne_none, alarmOf_isSome, bedtime_ofSettings]
    simp [decodeBedtime]
  have limit : ∀ n, (out.ofSettings s).dayMin n ≠ ptDayNoLimit ↔
      limitOf (daySlot s n) ≠ none ∧ limitOf (daySlot s n) ≠ some ptDayNoLimit := by
    intro n
    rw [dayMin_ofSettings, Ne, Sentinel.encode_eq_reserved_iff, not_or]
  unfold isConfigured
  rw [Bool.or_eq_true, alarm]
  simp [limit]

/-- The screen misses a configuration exactly when it has nothing but longest limits. -/
theorem isConfigured_eq_iff (s : PtSettings) (out : PtState) :
    isConfigured (out.ofSettings s) = settingsConfigured s ↔ ¬s.OnlyLongest := by
  rw [Bool.eq_iff_iff, isConfigured_iff, settingsConfigured_iff_day]
  constructor
  · rintro agree ⟨⟨n, limited⟩, only⟩
    rcases agree.mpr ⟨n, .inl limited⟩ with ⟨m, alarm⟩ | ⟨m, some, shown⟩
    · exact alarm (only m).1
    · exact (only m).2.elim some shown
  · intro other
    constructor
    · rintro (⟨n, alarm⟩ | ⟨n, limited, -⟩)
      · exact ⟨n, .inr alarm⟩
      · exact ⟨n, .inl limited⟩
    · rintro ⟨n, limited | alarm⟩
      · by_contra missed
        rw [not_or, not_exists, not_exists] at missed
        refine other ⟨⟨n, limited⟩, fun m => ⟨not_not.mp (missed.1 m), ?_⟩⟩
        by_contra shown
        exact missed.2 m (not_or.mp shown)
      · exact .inl ⟨n, alarm⟩

/-! ## The mode on the screen -/

/-- How the screen names a stored mode. -/
def modeText (mode : UInt8) : Text := if mode = ptModeAlarm then modeAlarmText else modeSuspendText

/-- The name says whether the mode of the registers suspends. -/
theorem modeText_eq (s : PtSettings) :
    modeText s.restrictionMode =
      if (configOf s).suspend then modeSuspendText else modeAlarmText := by
  unfold modeText configOf ptModeAlarm
  by_cases alarm : s.restrictionMode = 0
  · simp [alarm]
  · simp [alarm]

/-- The mode cell opens its dialog if the snapshot shows something configured. -/
theorem popups_pressMode (screen : PlayTimerActivity) :
    (after PlayTimerActivity.pressMode screen).popups =
      (if isConfigured (result pctlPlayTimerQuery screen.app.world) = false then Popup.needLimit
        else Popup.mode) :: screen.popups := by
  unfold PlayTimerActivity.pressMode
  simp only [onApp, pctl, popup, after_bind, result_zoom, after_zoom, after_ite, after_modify,
    PlayTimerActivity.appPart, App.worldPart]
  split <;> rfl

/-- The detail text after a refresh, by the snapshot that follows the header's. -/
theorem detailText_refreshAll (screen : PlayTimerActivity) :
    (after PlayTimerActivity.refreshAll screen).detailText =
      let pt := result pctlPlayTimerQuery (after pctlPlayTimerQuery screen.app.world)
      if isConfigured pt = true ∧ pt.restrictionMode = ptModeAlarm then modeAlarmText
      else modeSuspendText := rfl

/-- Unless only longest limits are set, the screen shows the mode that the registers start the
next write from. -/
theorem detailText_of_configured {screen : PlayTimerActivity}
    (refreshed : (after pctlPlayTimerQuery screen.app.world).Reads)
    (shown : ¬screen.app.world.console.stored.OnlyLongest) :
    (after PlayTimerActivity.refreshAll screen).detailText =
      if (registersOf screen.app.world.console.stored).base.suspend then modeSuspendText
      else modeAlarmText := by
  obtain ⟨out, read⟩ := snapshot_of_reads refreshed
  rw [built_pctlPlayTimerQuery.console] at read
  have agree := (isConfigured_eq_iff screen.app.world.console.stored out).mpr shown
  rw [detailText_refreshAll, read]
  change (if isConfigured (out.ofSettings screen.app.world.console.stored) = true ∧
    screen.app.world.console.stored.restrictionMode = ptModeAlarm then _ else _) = _
  rw [agree]
  by_cases configured : settingsConfigured screen.app.world.console.stored = true
  · rw [registersOf_of_configured configured, ← modeText_eq]
    unfold modeText
    simp only [configured, true_and]
  · rw [registersOf_of_not_configured configured, if_neg fun both => configured both.1]
    rfl

/-- Setting the limits or the alarm keeps the mode of the registers, unless they go off. -/
theorem SetterCall.suspend_spec {call : SetterCall} (other : ∀ mode, call ≠ .setMode mode)
    {r : Registers Day UInt16 Alarm} (on : call.spec r ≠ none) :
    (call.spec r).base.suspend = r.base.suspend := by
  cases call with
  | setDays daysMin => exact Config.suspend_settle on
  | setUniform minutes => exact Config.suspend_settle on
  | clear => exact Config.suspend_settle on
  | setBedtime bed => exact Config.suspend_settle on
  | setMode mode => exact absurd rfl (other mode)

/-- The mode stored after such a call that leaves something configured is the one that the
registers started from. -/
theorem SetterCall.restrictionMode_step {call : SetterCall} (other : ∀ mode, call ≠ .setMode mode)
    (w : World)
    (configured : settingsConfigured (SetterCall.step w call).console.stored = true) :
    modeText (SetterCall.step w call).console.stored.restrictionMode =
      if (registersOf w.console.stored).base.suspend then modeSuspendText else modeAlarmText := by
  have base := registersOf_of_configured configured
  rw [modeText_eq, ← base]
  rcases call.registersOf_step_cases w with unchanged | ⟨-, written⟩
  · rw [unchanged]
  · have on : call.spec (registersOf w.console.stored) ≠ none := by
      rw [← written, Ne, registersOf_eq_none_iff, not_not]
      exact configured
    rw [written, call.suspend_spec other on]

/-- The mode setter writes zeros exactly when nothing is configured. -/
theorem written_setMode_eq_zero (mode : UInt8) (s : PtSettings) :
    (SetterCall.setMode mode).written s = .zero ↔ ¬settingsConfigured s = true := by
  have same : settingsConfigured ((SetterCall.setMode mode).written s) = settingsConfigured s := by
    have registers := (SetterCall.setMode mode).registersOf_written s
    have kept := Registers.setSuspend_eq_none_iff (mode != 0) (registersOf s)
    rw [Bool.eq_iff_iff, ← not_iff_not, ← registersOf_eq_none_iff, ← registersOf_eq_none_iff,
      registers]
    exact kept
  constructor
  · intro zero configured
    rw [zero, configured] at same
    exact absurd same (by decide)
  · intro off
    rw [← same] at off
    have given : ¬settingsConfigured (editMode mode (patchForm s)) = true := by
      intro configured
      apply off
      change settingsConfigured (finishForm (editMode mode (patchForm s))) = true
      unfold finishForm
      rw [if_pos configured]
      exact configured
    exact if_neg given

/-- The screen and the service layer agree about the stored settings. -/
structure PlayTimerActivity.Agrees (screen : PlayTimerActivity) : Prop where
  /-- They agree on whether something is configured. -/
  configured : isConfigured (result pctlPlayTimerQuery screen.app.world) =
    settingsConfigured screen.app.world.console.stored
  /-- The mode cell is refused exactly when the mode setter would write zeros. -/
  refused : ∀ mode, (after pressMode screen).popups = .needLimit :: screen.popups ↔
    (SetterCall.setMode mode).written screen.app.world.console.stored = .zero
  /-- The mode shown is the one stored after any setting of the limits or the alarm that
  succeeds on these settings and leaves something configured. -/
  shown : ∀ (call : SetterCall) (later : World), (∀ mode, call ≠ .setMode mode) →
    later.console.stored = screen.app.world.console.stored → call.Succeeds later →
    settingsConfigured (SetterCall.step later call).console.stored = true →
      (after refreshAll screen).detailText =
        modeText (SetterCall.step later call).console.stored.restrictionMode

/-- When the settings were read, by the mode cell and by the refresh, the screen and the service
layer agree exactly when it is not the case that there are limits, that all of them are 65535
minutes long, and that there is no alarm. -/
theorem mode_agrees_iff (screen : PlayTimerActivity)
    (reads : screen.app.world.Reads)
    (refreshed : (after pctlPlayTimerQuery screen.app.world).Reads) :
    screen.Agrees ↔ ¬screen.app.world.console.stored.OnlyLongest := by
  obtain ⟨out, read⟩ := snapshot_of_reads reads
  have agree := isConfigured_eq_iff screen.app.world.console.stored out
  rw [← read] at agree
  constructor
  · intro agrees
    exact agree.mp agrees.configured
  · intro visible
    have same := agree.mpr visible
    refine ⟨same, ?_, ?_⟩
    · intro mode
      rw [written_setMode_eq_zero, popups_pressMode, same]
      by_cases configured : settingsConfigured screen.app.world.console.stored = true
      · simp [configured]
      · simp [configured]
    · intro call later other stored _ configured
      rw [detailText_of_configured refreshed visible, call.restrictionMode_step other later
        configured, stored]

/-- The screen over a console with these stored settings, where nothing fails. -/
def PlayTimerActivity.over (stored : PtSettings) : PlayTimerActivity :=
  { app := .enter (.launched (.sample stored false) .none), header := .initial, detailText := [],
    popups := [] }

/-- With an alarm on school nights, which only notifies, the screen and the service layer
agree. -/
theorem mode_agrees_sample :
    (PlayTimerActivity.over .schoolNights).Agrees :=
  (mode_agrees_iff (.over .schoolNights) (by decide) (by decide)).mpr (by decide)

/-- With limits of 65535 minutes that only notify, the mode cell is refused although something
is configured and the mode setter would keep it, and the mode shown is not the one that a new
limit keeps. -/
theorem mode_disagrees_longest :
    let screen := PlayTimerActivity.over (.everyDay 0xFFFF)
    let later := SetterCall.step screen.app.world (.setUniform 60)
    screen.app.world.Reads ∧
      isConfigured (result pctlPlayTimerQuery screen.app.world) = false ∧
      settingsConfigured screen.app.world.console.stored = true ∧
      (after PlayTimerActivity.pressMode screen).popups = [.needLimit] ∧
      (SetterCall.setMode 0).written screen.app.world.console.stored ≠ .zero ∧
      (after PlayTimerActivity.refreshAll screen).detailText = modeSuspendText ∧
      (SetterCall.setUniform 60).Succeeds screen.app.world ∧
      settingsConfigured later.console.stored = true ∧
      later.console.stored.restrictionMode = ptModeAlarm := by
  decide

end PctlManager
