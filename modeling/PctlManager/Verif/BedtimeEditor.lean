import PctlManager.Verif.GuardedSetter
import PctlManager.Verif.Hhmm
import PctlManager.Verif.PlayTimerActivity

/-!
# The bedtime editor

Two prompts and one write. The write is requested only when both prompts returned a time, and
then the one 195101 that it sends puts exactly these times on every day; otherwise nothing is
sent. An alarm that all days share is offered as it stands, so confirming it requests that alarm
(`bedtime_editor_exact`).
-/

namespace PctlManager

open Stateful Spec

/-- The first prompt of `edit_bedtime`. -/
def startPrompt (pt : PtState) (typists : List Typist) : HhmmPrompt :=
  promptHhmm bedtimeAtText bedtimeInvalidText (atSeed pt) typists

/-- The second prompt of `edit_bedtime`, with the answers that the first one left. -/
def endPrompt (pt : PtState) (typists : List Typist) : HhmmPrompt :=
  promptHhmm bedtimeResetText bedtimeInvalidText (resetSeed pt) (startPrompt pt typists).rest

/-- Two times make an alarm. -/
theorem promptBedtime_of_yielded {pt : PtState} {typists : List Typist} {t u : HourMinute}
    (first : (startPrompt pt typists).outcome = .yielded t)
    (second : (endPrompt pt typists).outcome = .yielded u) :
    promptBedtime pt typists = some ⟨true, t.hour, t.minute, u.hour, u.minute⟩ := by
  unfold startPrompt at first
  unfold endPrompt startPrompt at second
  simp only [promptBedtime, first, second]

/-- Without a second time there is no alarm. -/
theorem promptBedtime_of_not_yielded {pt : PtState} {typists : List Typist}
    (missing : ∀ t u, (startPrompt pt typists).outcome = .yielded t →
      (endPrompt pt typists).outcome ≠ .yielded u) : promptBedtime pt typists = none := by
  unfold startPrompt endPrompt startPrompt at missing
  unfold promptBedtime
  cases first : (promptHhmm bedtimeAtText bedtimeInvalidText (atSeed pt) typists).outcome with
  | cancelled => simp only [first]
  | waiting => simp only [first]
  | yielded t =>
    cases second : (promptHhmm bedtimeResetText bedtimeInvalidText (resetSeed pt)
        (promptHhmm bedtimeAtText bedtimeInvalidText (atSeed pt) typists).rest).outcome with
    | cancelled => simp only [first, second]
    | waiting => simp only [first, second]
    | yielded u => exact absurd second (missing t u first)

/-! ## The write -/

section Write

variable (bed : PtBedtime) (screen : PlayTimerActivity)

/-- The readback after the write invokes no write, sends no 195101, and stores nothing. -/
theorem after_writeBedtime :
    (after (writeBedtime bed) screen).app.writes =
        (after (guardedWrite (pctlPlayTimerSetBedtime bed) (bedtimeOkText bed))
          screen.app).writes ∧
      (after (writeBedtime bed) screen).app.world.sent =
        (after (guardedWrite (pctlPlayTimerSetBedtime bed) (bedtimeOkText bed))
          screen.app).world.sent ∧
      (after (writeBedtime bed) screen).app.world.console =
        (after (guardedWrite (pctlPlayTimerSetBedtime bed) (bedtimeOkText bed))
          screen.app).world.console := by
  unfold writeBedtime
  simp only [after_bind, after_ite, after_pure, onApp, pctl, result_zoom, after_zoom,
    PlayTimerActivity.appPart, App.worldPart, popup, after_modify]
  have asked := built_pctlBedtimeReadback.console
    (after (guardedWrite (pctlPlayTimerSetBedtime bed) (bedtimeOkText bed)) screen.app).world
  have unsent := built_pctlBedtimeReadback.sends_none id
    (after (guardedWrite (pctlPlayTimerSetBedtime bed) (bedtimeOkText bed)) screen.app).world
  split
  · exact ⟨rfl, rfl, rfl⟩
  · split
    · exact ⟨rfl, unsent, asked⟩
    · split
      · exact ⟨rfl, unsent, asked⟩
      · exact ⟨rfl, unsent, asked⟩

end Write

/-- From the screen `screen` to the screen `left`, exactly one write was requested after the query,
and it was for this alarm. -/
structure PlayTimerActivity.Requests (screen left : PlayTimerActivity) (bed : PtBedtime) :
    Prop where
  /-- The guarded write invokes the setter with this alarm once, if it gets that far. -/
  once : left.app.writes =
    (if (after pctlPlayTimerQuery screen.app.world).Writes then
      [((after pctlPlayTimerQuery screen.app.world).beforeWrite, result
        (pctlPlayTimerSetBedtime bed) (after pctlPlayTimerQuery screen.app.world).beforeWrite)]
    else []) ++ screen.app.writes
  /-- If it gets that far and the settings can be read there, one 195101 is sent, and no other: the
  bytes of settings that have this alarm on every day, and the limits that were stored. -/
  sent : ∃ s : PtSettings,
    (∀ n, alarmOf (daySlot s n) = bed.alarm ∧
      limitOf (daySlot s n) = limitOf (daySlot screen.app.world.console.stored n)) ∧
    left.app.world.sent =
      (if (after pctlPlayTimerQuery screen.app.world).Writes ∧
          (after pctlPlayTimerQuery screen.app.world).beforeWrite.Reaches 1
            .getPlayTimerSettings 0 then
        [(s.bytes, result (pctlPlayTimerSetBedtime bed)
          (after pctlPlayTimerQuery screen.app.world).beforeWrite)]
      else []) ++ screen.app.world.sent
  /-- If the write gets through, every day has the alarm, and the limit it had. -/
  stored : (after pctlPlayTimerQuery screen.app.world).Stores →
    ∀ n, alarmOf (daySlot left.app.world.console.stored n) = bed.alarm ∧
      limitOf (daySlot left.app.world.console.stored n) =
        limitOf (daySlot screen.app.world.console.stored n)
  /-- If it does not get through, nothing is stored. -/
  kept : ¬(after pctlPlayTimerQuery screen.app.world).Stores →
    left.app.world.console.stored = screen.app.world.console.stored

/-- Writing an alarm after the query requests it. -/
theorem requests_writeBedtime (bed : PtBedtime) {screen asked : PlayTimerActivity}
    (untouched : asked.app.writes = screen.app.writes)
    (queried : asked.app.world = after pctlPlayTimerQuery screen.app.world) :
    screen.Requests (after (writeBedtime bed) asked) bed := by
  obtain ⟨writes, sent, console⟩ := after_writeBedtime bed asked
  have invoked := writes_guardedWrite_of_app (pctlPlayTimerSetBedtime bed) (bedtimeOkText bed)
    asked.app
  have sends := (SetterCall.setBedtime bed).sent_guarded_stored (bedtimeOkText bed) asked.app
  have found : asked.app.world.console.stored = screen.app.world.console.stored := by
    rw [queried, built_pctlPlayTimerQuery.console]
  have unsent : asked.app.world.sent = screen.app.world.sent := by
    rw [queried]
    exact built_pctlPlayTimerQuery.sends_none id screen.app.world
  refine ⟨?_, ?_, ?_, ?_⟩ <;> rw [← queried]
  · rw [writes, invoked, untouched]
  · have written := (SetterCall.setBedtime bed).registersOf_written
      screen.app.world.console.stored
    refine ⟨(SetterCall.setBedtime bed).written screen.app.world.console.stored,
      days_of_setBedtime bed written, ?_⟩
    rw [found, unsent] at sends
    exact sent.trans sends
  · intro stores
    have written := (SetterCall.setBedtime bed).registersOf_guarded (bedtimeOkText bed)
      asked.app stores
    rw [found] at written
    rw [console]
    exact days_of_setBedtime bed written
  · intro failed
    have unwritten := (SetterCall.setBedtime bed).stored_guarded_of_not_stores
      (bedtimeOkText bed) asked.app failed
    rw [console]
    exact unwritten.trans found

/-! ## The editor -/

/-- The times of an alarm are times of day. -/
def Alarm.Plain (a : Alarm) : Prop :=
  (a.hour.toNat ≤ 23 ∧ a.minute.toNat ≤ 59) ∧ a.resetHour.toNat ≤ 23 ∧ a.resetMinute.toNat ≤ 59

/-- An alarm that all days share is what a snapshot reports that reads the settings. -/
theorem bedtime_of_uniform {w : World} (reads : w.Reads)
    {alarm : Alarm} (uniform : ∀ n, alarmOf (daySlot w.console.stored n) = some alarm) :
    (result pctlPlayTimerQuery w).bedtime =
      ⟨true, alarm.hour, alarm.minute, alarm.resetHour, alarm.resetMinute⟩ := by
  obtain ⟨out, read⟩ := snapshot_of_reads reads
  have reported := uniform (bedDay w.console.stored)
  rw [read, bedtime_ofSettings]
  unfold alarmOf at reported
  split at reported
  · rename_i on
    rw [Option.some.injEq] at reported
    rw [← reported]
    unfold decodeBedtime
    rw [bne_iff_ne.mpr on]
  · cases reported

/-- Confirming what both prompts offer of such an alarm returns its times. -/
theorem prompts_of_uniform {pt : PtState} {alarm : Alarm} (plain : alarm.Plain)
    (reported : pt.bedtime =
      ⟨true, alarm.hour, alarm.minute, alarm.resetHour, alarm.resetMinute⟩)
    (rest : List Typist) :
    (startPrompt pt (.confirmOffered :: .confirmOffered :: rest)).outcome =
        .yielded ⟨alarm.hour, alarm.minute⟩ ∧
      (endPrompt pt (.confirmOffered :: .confirmOffered :: rest)).outcome =
        .yielded ⟨alarm.resetHour, alarm.resetMinute⟩ := by
  obtain ⟨⟨hour, minute⟩, resetHour, resetMinute⟩ := plain
  have first : atSeed pt = ⟨alarm.hour, alarm.minute⟩ := by
    simp [atSeed, reported]
  have second : resetSeed pt = ⟨alarm.resetHour, alarm.resetMinute⟩ := by
    simp [resetSeed, reported]
  unfold endPrompt startPrompt
  rw [first, second, promptHhmm_confirmOffered _ _ ⟨alarm.hour, alarm.minute⟩ hour minute,
    promptHhmm_confirmOffered _ _ ⟨alarm.resetHour, alarm.resetMinute⟩ resetHour resetMinute]
  exact ⟨rfl, rfl⟩

/-- The editor writes the alarm that its prompts come to, after its query. -/
theorem after_editBedtimeAlarm_of_some {screen : PlayTimerActivity} {typists : List Typist}
    {bed : PtBedtime}
    (entered : promptBedtime (result pctlPlayTimerQuery screen.app.world) typists = some bed) :
    after (editBedtimeAlarm typists) screen =
      after (writeBedtime bed) (after (onApp (pctl pctlPlayTimerQuery)) screen) := by
  have read : result (onApp (pctl pctlPlayTimerQuery)) screen =
      result pctlPlayTimerQuery screen.app.world := rfl
  unfold editBedtimeAlarm
  simp only [after_bind, read, entered]

/-- Without an alarm it does nothing but its query. -/
theorem after_editBedtimeAlarm_of_none {screen : PlayTimerActivity} {typists : List Typist}
    (missing : promptBedtime (result pctlPlayTimerQuery screen.app.world) typists = none) :
    after (editBedtimeAlarm typists) screen =
      after (onApp (pctl pctlPlayTimerQuery)) screen := by
  have read : result (onApp (pctl pctlPlayTimerQuery)) screen =
      result pctlPlayTimerQuery screen.app.world := rfl
  unfold editBedtimeAlarm
  simp only [after_bind, read, missing, after_pure]

/-- The editor writes exactly what was typed or nothing, whatever is stored, whatever fails and
however the user answers. -/
theorem bedtime_editor_exact (screen : PlayTimerActivity) (typists : List Typist) :
    let pt := result pctlPlayTimerQuery screen.app.world
    let start := startPrompt pt typists
    let stop := endPrompt pt typists
    let left := after (editBedtimeAlarm typists) screen
    -- Each prompt returns the first entry that is a time, and offers the others again.
    ((∀ typist ∈ typists, typist.Plain) →
      start.Faithful bedtimeInvalidText bedtimeAtText (hhmmText (atSeed pt)) typists ∧
        stop.Faithful bedtimeInvalidText bedtimeResetText (hhmmText (resetSeed pt))
          start.rest) ∧
    -- Two times request one write, of exactly these times.
    (∀ t u, start.outcome = .yielded t → stop.outcome = .yielded u →
      screen.Requests left ⟨true, t.hour, t.minute, u.hour, u.minute⟩) ∧
    -- Otherwise nothing happens but the query.
    ((∀ t u, start.outcome = .yielded t → stop.outcome ≠ .yielded u) →
      left.app = { screen.app with world := after pctlPlayTimerQuery screen.app.world } ∧
        left.app.world.sent = screen.app.world.sent ∧
        left.app.world.console.stored = screen.app.world.console.stored) ∧
    -- Confirming what is offered of an alarm that all days share requests it again.
    (screen.app.world.Reads → ∀ (alarm : Alarm) (rest : List Typist),
      (∀ n, alarmOf (daySlot screen.app.world.console.stored n) = some alarm) → alarm.Plain →
      typists = .confirmOffered :: .confirmOffered :: rest →
        screen.Requests left
          ⟨true, alarm.hour, alarm.minute, alarm.resetHour, alarm.resetMinute⟩) := by
  intro pt start stop left
  have requested : ∀ t u, start.outcome = .yielded t → stop.outcome = .yielded u →
      screen.Requests left ⟨true, t.hour, t.minute, u.hour, u.minute⟩ := by
    intro t u first second
    have entered := promptBedtime_of_yielded first second
    change screen.Requests (after (editBedtimeAlarm typists) screen) _
    rw [after_editBedtimeAlarm_of_some entered]
    exact requests_writeBedtime _ rfl rfl
  refine ⟨?_, requested, ?_, ?_⟩
  · intro plain
    have faithful := faithful_promptHhmmLoop bedtimeInvalidText bedtimeAtText
      (hhmmText (atSeed pt)) typists plain
    refine ⟨faithful, faithful_promptHhmmLoop _ _ _ _ ?_⟩
    obtain ⟨used, split, -⟩ := faithful.answers
    intro typist member
    apply plain
    rw [split]
    exact List.mem_append_right used member
  · intro missing
    have nothing : left = after (onApp (pctl pctlPlayTimerQuery)) screen :=
      after_editBedtimeAlarm_of_none (promptBedtime_of_not_yielded missing)
    rw [nothing]
    exact ⟨rfl, built_pctlPlayTimerQuery.sends_none id screen.app.world,
      congrArg Console.stored (built_pctlPlayTimerQuery.console screen.app.world)⟩
  · rintro reads alarm rest uniform plain rfl
    obtain ⟨first, second⟩ :=
      prompts_of_uniform plain (bedtime_of_uniform reads uniform) rest
    exact requested _ _ first second

/-- A user who types these bytes and confirms. -/
def Typist.types (typed : List UInt8) : Typist := fun _ => ⟨0, 0, typed⟩

/-- With a limit of 60 minutes on every day, typing 2460, 2145 and 600 sends one 195101, which goes
through: then every day has an alarm from 21:45 to 06:00. -/
theorem bedtime_editor_exact_sample :
    let screen := PlayTimerActivity.over (.everyDay 60)
    let left := after (editBedtimeAlarm
      [.types [0x32, 0x34, 0x36, 0x30], .types [0x32, 0x31, 0x34, 0x35],
        .types [0x36, 0x30, 0x30]]) screen
    (∃ s : PtSettings, (∀ n, alarmOf (daySlot s n) = some ⟨21, 45, 6, 0⟩) ∧
      left.app.world.sent = [(s.bytes, 0)]) ∧
    ∀ n, alarmOf (daySlot left.app.world.console.stored n) = some ⟨21, 45, 6, 0⟩ := by
  intro screen left
  have requests : screen.Requests left ⟨true, 21, 45, 6, 0⟩ :=
    (bedtime_editor_exact (.over (.everyDay 60))
      [.types [0x32, 0x34, 0x36, 0x30], .types [0x32, 0x31, 0x34, 0x35],
        .types [0x36, 0x30, 0x30]]).2.1 ⟨21, 45⟩ ⟨6, 0⟩ (by decide) (by decide)
  have far : (after pctlPlayTimerQuery screen.app.world).Writes ∧
      (after pctlPlayTimerQuery screen.app.world).beforeWrite.Reaches 1
        .getPlayTimerSettings 0 := by decide
  have accepted : result (pctlPlayTimerSetBedtime ⟨true, 21, 45, 6, 0⟩)
      (after pctlPlayTimerQuery screen.app.world).beforeWrite = 0 := by decide
  obtain ⟨s, days, sent⟩ := requests.sent
  rw [if_pos far, accepted] at sent
  exact ⟨⟨s, fun n => (days n).1, sent⟩, fun n => (requests.stored (by decide) n).1⟩

end PctlManager
