import PctlManager.Verif.Bedtime

/-!
# Writes read back

The setters rewrite the stored form: a DAILY configuration is spread over the week, an empty one
starts from the defaults, and one that becomes empty is stored as zeros. The query decodes each
of these forms, so what a setter wrote is what the next query reports, and the other fields of
the report are as they were (`setter_reads_back`).
-/

namespace PctlManager

open Stateful Spec

/-! ## Slots of the rewritten settings -/

/-- What `begin_patch` hands out of configured settings has the slots in force. -/
theorem daySlot_patchForm {s : PtSettings} (configured : settingsConfigured s = true) (n : Day) :
    daySlot (patchForm s) n = daySlot s n := by
  unfold patchForm
  rw [if_neg (not_not.mpr configured)]
  split
  · rename_i daily
    simp [daySlot, daily]
  · rfl

/-- What `begin_patch` hands out otherwise has no alarm. -/
theorem bedtimeEnabled_patchForm {s : PtSettings} (off : ¬settingsConfigured s = true) (n : Day) :
    (daySlot (patchForm s) n).bedtimeEnabled = 0 := by
  unfold patchForm
  rw [if_pos off]
  rfl

/-- Settings without anything configured have no alarm. -/
theorem bedtimeEnabled_of_not_configured {s : PtSettings} (off : ¬settingsConfigured s = true)
    (n : Day) : (daySlot s n).bedtimeEnabled = 0 := by
  by_contra alarm
  exact off ((settingsConfigured_iff s).mpr ⟨n, .inr alarm⟩)

/-- What `finish_patch` writes of configured settings has the same slots. -/
theorem daySlot_finishForm {s : PtSettings} (configured : settingsConfigured s = true) (n : Day) :
    daySlot (finishForm s) n = daySlot s n := by
  unfold finishForm
  rw [if_pos configured]
  rfl

/-- What `finish_patch` writes is configured when what it was given is. -/
theorem settingsConfigured_finishForm (s : PtSettings) :
    settingsConfigured (finishForm s) = settingsConfigured s := by
  unfold finishForm
  split
  · rfl
  · rename_i off
    rw [Bool.not_eq_true] at off
    rw [off]
    decide

/-- The limit loop keeps the alarm bytes of every slot. -/
theorem bedtime_editDays (daysMin : Day → UInt16) {s : PtSettings} (weekly : s.weekUsed ≠ 0)
    (n : Day) : (daySlot (editDays daysMin s) n).bedtimeEnabled = (daySlot s n).bedtimeEnabled ∧
      decodeBedtime (daySlot (editDays daysMin s) n) = decodeBedtime (daySlot s n) := by
  simp [daySlot, editDays, weekly, decodeBedtime]

/-- The alarm loop sets the alarm bytes of every slot. -/
theorem bedtime_editBedtime (bed : PtBedtime) {s : PtSettings} (weekly : s.weekUsed ≠ 0)
    (n : Day) : (daySlot (editBedtime bed s) n).bedtimeEnabled = (if bed.enabled then 1 else 0) ∧
      (bed.enabled = true → decodeBedtime (daySlot (editBedtime bed s) n) = bed) := by
  obtain ⟨enabled, hour, minute, resetHour, resetMinute⟩ := bed
  cases enabled <;> simp [daySlot, editBedtime, weekly, decodeBedtime]

/-- The mode assignment keeps every slot. -/
theorem daySlot_editMode (mode : UInt8) (s : PtSettings) (n : Day) :
    daySlot (editMode mode s) n = daySlot s n := rfl

/-- Settings with the same slots are configured alike. -/
theorem settingsConfigured_congr {s t : PtSettings} (same : ∀ n, daySlot s n = daySlot t n) :
    settingsConfigured s = settingsConfigured t := by
  unfold settingsConfigured
  simp only [same]

/-! ## What the query reports of the alarms -/

/-- Two snapshots report the same alarm: on or off, its times while it is on, and whether the
days differ. -/
def PtState.SameBedtime (before later : PtState) : Prop :=
  later.bedtime.enabled = before.bedtime.enabled ∧
    (before.bedtime.enabled = true → later.bedtime = before.bedtime) ∧
    later.bedtimeVaries = before.bedtimeVaries

/-- The alarm bytes of a slot decide which slots it compares equal to. -/
theorem sameBedtime_congr {a a' b b' : PtDaySetting} (flagA : a.bedtimeEnabled = a'.bedtimeEnabled)
    (timesA : decodeBedtime a = decodeBedtime a') (flagB : b.bedtimeEnabled = b'.bedtimeEnabled)
    (timesB : decodeBedtime b = decodeBedtime b') : sameBedtime a b = sameBedtime a' b' := by
  simp only [decodeBedtime, PtBedtime.mk.injEq] at timesA timesB
  obtain ⟨-, hourA, minuteA, resetHourA, resetMinuteA⟩ := timesA
  obtain ⟨-, hourB, minuteB, resetHourB, resetMinuteB⟩ := timesB
  unfold sameBedtime
  rw [flagA, flagB, hourA, hourB, minuteA, minuteB, resetHourA, resetHourB, resetMinuteA,
    resetMinuteB]

/-- Settings with the same alarm bytes in every slot are reported alike. -/
theorem bedtime_congr {s t : PtSettings} (same : ∀ n,
      (daySlot t n).bedtimeEnabled = (daySlot s n).bedtimeEnabled ∧
        decodeBedtime (daySlot t n) = decodeBedtime (daySlot s n)) (out out' : PtState) :
    (out'.ofSettings t).bedtime = (out.ofSettings s).bedtime ∧
      (out'.ofSettings t).bedtimeVaries = (out.ofSettings s).bedtimeVaries := by
  have day : bedDay t = bedDay s := by
    unfold bedDay
    simp only [same]
  constructor
  · rw [bedtime_ofSettings, bedtime_ofSettings, day]
    exact (same (bedDay s)).2
  · rw [Bool.eq_iff_iff, ← not_iff_not, Bool.not_eq_true, Bool.not_eq_true,
      bedtimeVaries_ofSettings, bedtimeVaries_ofSettings, day]
    refine forall_congr' fun n => ?_
    rw [sameBedtime_congr (same n).1 (same n).2 (same (bedDay s)).1 (same (bedDay s)).2]

/-- Settings without an alarm are reported as such, and without a difference. -/
theorem bedtime_of_none {s : PtSettings} (off : ∀ n, (daySlot s n).bedtimeEnabled = 0)
    (out : PtState) : (out.ofSettings s).bedtime.enabled = false ∧
      (out.ofSettings s).bedtimeVaries = false := by
  constructor
  · rw [bedtime_ofSettings]
    simp [decodeBedtime, off]
  · rw [bedtimeVaries_ofSettings]
    intro n
    simp [sameBedtime, off]

/-- Replacing the limits keeps the alarm bytes of every slot, or there is no alarm before and
after. -/
theorem bedtime_limitsWritten (daysMin : Day → UInt16) (s : PtSettings) :
    (∀ n, (daySlot ((SetterCall.setDays daysMin).written s) n).bedtimeEnabled =
          (daySlot s n).bedtimeEnabled ∧
        decodeBedtime (daySlot ((SetterCall.setDays daysMin).written s) n) =
          decodeBedtime (daySlot s n)) ∨
      (∀ n, (daySlot s n).bedtimeEnabled = 0) ∧
        ∀ n, (daySlot ((SetterCall.setDays daysMin).written s) n).bedtimeEnabled = 0 := by
  have edited := fun n => bedtime_editDays daysMin (weekUsed_patchForm s) n
  have written : (SetterCall.setDays daysMin).written s =
      finishForm (editDays daysMin (patchForm s)) := rfl
  rw [written]
  by_cases still : settingsConfigured (editDays daysMin (patchForm s)) = true
  · by_cases configured : settingsConfigured s = true
    · left
      intro n
      rw [daySlot_finishForm still, (edited n).1, (edited n).2, daySlot_patchForm configured]
      exact ⟨rfl, rfl⟩
    · right
      refine ⟨bedtimeEnabled_of_not_configured configured, fun n => ?_⟩
      rw [daySlot_finishForm still, (edited n).1, bedtimeEnabled_patchForm configured]
  · right
    have ended : ¬settingsConfigured (finishForm (editDays daysMin (patchForm s))) = true := by
      rw [settingsConfigured_finishForm]
      exact still
    refine ⟨fun n => ?_, bedtimeEnabled_of_not_configured ended⟩
    by_cases configured : settingsConfigured s = true
    · have none := bedtimeEnabled_of_not_configured still n
      rw [(edited n).1, daySlot_patchForm configured] at none
      exact none
    · exact bedtimeEnabled_of_not_configured configured n

/-- Replacing the limits keeps the mode, if something was configured and still is. -/
theorem restrictionMode_limitsWritten (daysMin : Day → UInt16) {s : PtSettings}
    (configured : settingsConfigured s = true)
    (still : settingsConfigured ((SetterCall.setDays daysMin).written s) = true) :
    ((SetterCall.setDays daysMin).written s).restrictionMode = s.restrictionMode := by
  have written : (SetterCall.setDays daysMin).written s =
      finishForm (editDays daysMin (patchForm s)) := rfl
  rw [written, settingsConfigured_finishForm] at still
  rw [written]
  unfold finishForm
  rw [if_pos still]
  change (patchForm s).restrictionMode = _
  unfold patchForm
  rw [if_neg (not_not.mpr configured)]
  split <;> rfl

/-- Replacing the alarms sets the alarm bytes of every slot, or there is none to set. -/
theorem bedtime_alarmsWritten (bed : PtBedtime) (s : PtSettings) (n : Day) :
    (daySlot ((SetterCall.setBedtime bed).written s) n).bedtimeEnabled =
        (if bed.enabled then 1 else 0) ∧
      (bed.enabled = true →
        decodeBedtime (daySlot ((SetterCall.setBedtime bed).written s) n) = bed) := by
  have edited := fun n => bedtime_editBedtime bed (weekUsed_patchForm s) n
  have written : (SetterCall.setBedtime bed).written s =
      finishForm (editBedtime bed (patchForm s)) := rfl
  rw [written]
  by_cases still : settingsConfigured (editBedtime bed (patchForm s)) = true
  · rw [daySlot_finishForm still]
    exact edited n
  · have none : bed.enabled = false := by
      by_contra on
      have flag := (edited n).1
      rw [bedtimeEnabled_of_not_configured still n, if_pos (Bool.not_eq_false _ ▸ on)] at flag
      exact absurd flag (by decide)
    have ended : ¬settingsConfigured (finishForm (editBedtime bed (patchForm s))) = true := by
      rw [settingsConfigured_finishForm]
      exact still
    rw [bedtimeEnabled_of_not_configured ended n, none]
    exact ⟨rfl, fun on => absurd on Bool.false_ne_true⟩

/-- Replacing the mode of configured settings keeps every slot, and sets the mode. -/
theorem slots_modeWritten (mode : UInt8) {s : PtSettings}
    (configured : settingsConfigured s = true) :
    (∀ n, daySlot ((SetterCall.setMode mode).written s) n = daySlot s n) ∧
      ((SetterCall.setMode mode).written s).restrictionMode = if mode ≠ 0 then 1 else 0 := by
  have still : settingsConfigured (editMode mode (patchForm s)) = true := by
    rw [settingsConfigured_congr (daySlot_editMode mode (patchForm s)),
      settingsConfigured_congr (daySlot_patchForm configured), configured]
  have written : (SetterCall.setMode mode).written s =
      finishForm (editMode mode (patchForm s)) := rfl
  rw [written]
  constructor
  · intro n
    rw [daySlot_finishForm still, daySlot_editMode, daySlot_patchForm configured]
  · unfold finishForm
    rw [if_pos still]
    rfl

/-! ## The next query -/

/-- Setting the limits reads back: the limits that were given, the same alarm, and the same mode
if something was configured and still is. -/
structure ReadsBackDays (s t : PtSettings) (daysMin : Day → UInt16) (before later : PtState) :
    Prop where
  /-- The limits are reported as they were given. -/
  dayMin : later.dayMin = daysMin
  /-- The alarm is reported as before. -/
  bedtime : before.SameBedtime later
  /-- The mode is reported as before. -/
  restrictionMode : settingsConfigured s = true → settingsConfigured t = true →
    later.restrictionMode = before.restrictionMode

/-- What the snapshot `later` of the settings `t` has to report after the call, by the snapshot
`before` of the settings `s` that it changed. -/
def SetterCall.ReadsBack (s t : PtSettings) (before later : PtState) : SetterCall → Prop
  | .setDays daysMin => ReadsBackDays s t daysMin before later
  | .setUniform minutes => ReadsBackDays s t (fun _ => minutes) before later
  | .clear => ReadsBackDays s t (fun _ => ptDayNoLimit) before later
  | .setBedtime bed =>
    later.bedtime.enabled = bed.enabled ∧ (bed.enabled = true → later.bedtime = bed) ∧
      later.bedtimeVaries = false ∧ later.dayMin = before.dayMin
  | .setMode mode =>
    settingsConfigured s = true →
      later.restrictionMode = (if mode ≠ 0 then 1 else 0) ∧ later.dayMin = before.dayMin ∧
        later.bedtime = before.bedtime ∧ later.bedtimeVaries = before.bedtimeVaries

/-- A snapshot reports the limits of the registers under the sentinel. -/
theorem dayMin_registersOf (s : PtSettings) (out : PtState) :
    (out.ofSettings s).dayMin =
      fun n => Sentinel.encode ptDayNoLimit ((registersOf s).base.limits n) := by
  funext n
  rw [dayMin_ofSettings, limits_registersOf]

/-- The settings are those that were written, but for the byte that pctl re-derives. -/
structure PtSettings.StoredAs (written t : PtSettings) : Prop where
  /-- Every slot is as it was written. -/
  slots : ∀ n, daySlot t n = daySlot written n
  /-- The mode is as it was written. -/
  restrictionMode : t.restrictionMode = written.restrictionMode
  /-- The registers are as they were written. -/
  registers : registersOf t = registersOf written

/-- pctl changes nothing but that byte. -/
theorem PtSettings.storedAs_enabled (written : PtSettings) (e : UInt8) :
    written.StoredAs { written with enabled := e } := ⟨fun _ => rfl, rfl, rfl⟩

section Written

variable {s t : PtSettings} (out out' : PtState)

/-- Limits that were written read back. -/
theorem readsBackDays_written (daysMin : Day → UInt16)
    (stored : ((SetterCall.setDays daysMin).written s).StoredAs t) :
    ReadsBackDays s t daysMin (out.ofSettings s) (out'.ofSettings t) where
  dayMin := by
    have registers := (SetterCall.setDays daysMin).registersOf_written s
    have limits := (Registers.days_setLimits
      (fun n => Sentinel.decode ptDayNoLimit (daysMin n)) (registersOf s)).1
    rw [dayMin_registersOf, stored.registers, registers]
    funext n
    have decoded : ((SetterCall.setDays daysMin).spec (registersOf s)).base.limits n =
        Sentinel.decode ptDayNoLimit (daysMin n) := congrFun limits n
    rw [decoded, Sentinel.encode_decode]
  bedtime := by
    have written := bedtime_limitsWritten daysMin s
    simp only [← stored.slots] at written
    rcases written with same | ⟨before, later⟩
    · have reported := bedtime_congr same out out'
      exact ⟨congrArg PtBedtime.enabled reported.1, fun _ => reported.1, reported.2⟩
    · have off := bedtime_of_none before out
      have off' := bedtime_of_none later out'
      refine ⟨off'.1.trans off.1.symm, fun on => ?_, off'.2.trans off.2.symm⟩
      exact absurd (off.1.symm.trans on) Bool.false_ne_true
  restrictionMode configured still := by
    rw [settingsConfigured_congr stored.slots] at still
    exact stored.restrictionMode.trans (restrictionMode_limitsWritten daysMin configured still)

/-- An alarm that was written reads back. -/
theorem readsBack_bedtimeWritten (bed : PtBedtime)
    (stored : ((SetterCall.setBedtime bed).written s).StoredAs t) :
    (SetterCall.setBedtime bed).ReadsBack s t (out.ofSettings s) (out'.ofSettings t) := by
  have slots := bedtime_alarmsWritten bed s
  simp only [← stored.slots] at slots
  have limits := (Registers.days_setAlarms (fun _ : Day => bed.alarm) (registersOf s)).1
  refine ⟨?_, ?_, ?_, ?_⟩
  · have flag := (slots (bedDay t)).1
    rw [bedtime_ofSettings]
    simp only [decodeBedtime, flag]
    cases bed.enabled <;> rfl
  · intro on
    rw [bedtime_ofSettings]
    exact (slots (bedDay t)).2 on
  · rw [bedtimeVaries_ofSettings]
    intro n
    have flag := (slots n).1.trans (slots (bedDay t)).1.symm
    cases on : bed.enabled with
    | true =>
      have times := ((slots n).2 on).trans ((slots (bedDay t)).2 on).symm
      rw [sameBedtime_congr flag times rfl rfl]
      simp [sameBedtime]
    | false =>
      have off := (slots (bedDay t)).1
      rw [on] at off
      simp [sameBedtime, flag, off]
  · have registers := (SetterCall.setBedtime bed).registersOf_written s
    rw [dayMin_registersOf, dayMin_registersOf, stored.registers, registers]
    funext n
    exact congrArg (Sentinel.encode ptDayNoLimit) (congrFun limits n)

/-- A mode that was written reads back. -/
theorem readsBack_modeWritten (mode : UInt8)
    (stored : ((SetterCall.setMode mode).written s).StoredAs t) :
    (SetterCall.setMode mode).ReadsBack s t (out.ofSettings s) (out'.ofSettings t) := by
  intro configured
  obtain ⟨slots, written⟩ := slots_modeWritten mode configured
  simp only [← stored.slots] at slots
  have same : ∀ n, (daySlot t n).bedtimeEnabled = (daySlot s n).bedtimeEnabled ∧
      decodeBedtime (daySlot t n) = decodeBedtime (daySlot s n) := by
    intro n
    rw [slots n]
    exact ⟨rfl, rfl⟩
  have reported := bedtime_congr same out out'
  refine ⟨stored.restrictionMode.trans written, ?_, reported.1, reported.2⟩
  have registers := (SetterCall.setMode mode).registersOf_written s
  have limits := (Registers.days_setSuspend (mode != 0) (registersOf s)).1
  rw [dayMin_registersOf, dayMin_registersOf, stored.registers, registers]
  funext n
  exact congrArg (Sentinel.encode ptDayNoLimit) (congrFun limits n)

/-- What any setter writes reads back. -/
theorem readsBack_written (call : SetterCall) (stored : (call.written s).StoredAs t) :
    call.ReadsBack s t (out.ofSettings s) (out'.ofSettings t) := by
  cases call with
  | setDays daysMin => exact readsBackDays_written out out' daysMin stored
  | setUniform minutes => exact readsBackDays_written out out' (fun _ => minutes) stored
  | clear => exact readsBackDays_written out out' (fun _ => ptDayNoLimit) stored
  | setBedtime bed => exact readsBack_bedtimeWritten out out' bed stored
  | setMode mode => exact readsBack_modeWritten out out' mode stored

end Written

/-- What a successful setter wrote on a console with a PIN is what a later query that reads the
settings reports, and in everything else it reports the same as such a query before it. -/
theorem setter_reads_back (call : SetterCall) (earlier w later : World)
    (registered : w.console.pinLength ≠ 0) (succeeded : call.Succeeds w)
    (untouched : earlier.console.stored = w.console.stored)
    (stored : later.console.stored = (SetterCall.step w call).console.stored)
    (before : earlier.Reads) (reads : later.Reads) :
    call.ReadsBack w.console.stored later.console.stored
      (result pctlPlayTimerQuery earlier) (result pctlPlayTimerQuery later) := by
  obtain ⟨out, read⟩ := snapshot_of_reads before
  obtain ⟨out', read'⟩ := snapshot_of_reads reads
  have kept : (call.written w.console.stored).StoredAs later.console.stored := by
    rw [stored, call.stored_step w registered succeeded]
    exact PtSettings.storedAs_enabled _ _
  rw [read, read', untouched]
  exact readsBack_written out out' call kept

/-- A limit of 90 minutes that is added to an alarm on school nights reads back, and the alarm
is reported as before. -/
theorem setter_reads_back_sample :
    let w := World.launched (.sample .schoolNights false) .none
    let later := SetterCall.step w (.setUniform 90)
    (result pctlPlayTimerQuery later).dayMin = (fun _ => 90) ∧
      (result pctlPlayTimerQuery later).bedtimeVaries =
        (result pctlPlayTimerQuery w).bedtimeVaries := by
  have reads := setter_reads_back (.setUniform 90)
    (.launched (.sample .schoolNights false) .none) (.launched (.sample .schoolNights false) .none)
    (SetterCall.step (.launched (.sample .schoolNights false) .none) (.setUniform 90))
    (by decide) (by decide) rfl rfl (by decide) (by decide)
  exact ⟨reads.dayMin, reads.bedtime.2.2⟩

end PctlManager
