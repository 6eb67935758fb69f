import PctlManager.Verif.RoundTrip
import PctlManager.Logic.Scan

/-!
# The seven-day alarm in one line

The query reports the alarms of seven days as one alarm and a flag. The alarm is that of the
least day that has one, the flag tells whether the days differ, and when they do not, the one
line says everything about them: writing the reported alarm to every day keeps each day's alarm
(`bedtime_summary_faithful`).
-/

namespace PctlManager

open Stateful Spec

/-- The day whose alarm the query reports: the first one with an alarm, or Sunday. -/
def bedDay (s : PtSettings) : Day :=
  Scan.backward (fun n => (daySlot s n).bedtimeEnabled != 0) .sunday (List.finRange 7)

/-- The backward scan keeps the last day it met that has an alarm. -/
theorem foldl_scanDay_day (s : PtSettings) : ∀ (days : List Day) (scanned : _ × Day),
    (days.foldl (scanDay s) scanned).2 =
      days.foldl (fun kept n => if (daySlot s n).bedtimeEnabled != 0 then n else kept) scanned.2
  | [], _ => rfl
  | day :: days, scanned => by
    rw [List.foldl_cons, List.foldl_cons, foldl_scanDay_day s days]
    simp only [scanDay, bne_iff_ne]

/-- The query ends its scan at the day whose alarm it reports. -/
theorem scan_bedDay (s : PtSettings) (dayMin : Day → UInt16) :
    ((List.finRange 7).reverse.foldl (scanDay s) (dayMin, 0)).2 = bedDay s :=
  foldl_scanDay_day s _ _

/-- A snapshot reports the alarm of that day. -/
theorem bedtime_ofSettings (s : PtSettings) (out : PtState) :
    (out.ofSettings s).bedtime = decodeBedtime (daySlot s (bedDay s)) := by
  rw [← scan_bedDay s out.dayMin]
  rfl

/-- A snapshot reports no difference exactly when every day compares equal to that day. -/
theorem bedtimeVaries_ofSettings (s : PtSettings) (out : PtState) :
    (out.ofSettings s).bedtimeVaries = false ↔
      ∀ n, sameBedtime (daySlot s n) (daySlot s (bedDay s)) = true := by
  have flag : (out.ofSettings s).bedtimeVaries = (List.finRange 7).any fun n =>
      !sameBedtime (daySlot s n) (daySlot s (bedDay s)) := by
    rw [← scan_bedDay s out.dayMin]
    rfl
  rw [flag]
  simp

/-- The alarm as the UI handles it is the alarm of the slot. -/
theorem alarm_decodeBedtime (d : PtDaySetting) : (decodeBedtime d).alarm = alarmOf d := by
  simp [decodeBedtime, PtBedtime.alarm, alarmOf]

/-- The day whose alarm is reported is the least one with an alarm. -/
theorem isLeast_bedDay {s : PtSettings} (present : ∃ n, alarmOf (daySlot s n) ≠ none) :
    IsLeast { n | alarmOf (daySlot s n) ≠ none } (bedDay s) := by
  have flagged : ∀ n, alarmOf (daySlot s n) ≠ none ↔
      ((daySlot s n).bedtimeEnabled != 0) = true := by
    intro n
    rw [← Option.isSome_iff_ne_none, alarmOf_isSome, bne_iff_ne]
  simp only [flagged] at present ⊢
  exact Scan.isLeast_backward _ _ present

/-- Without any alarm, that of the reported day is off too. -/
theorem alarmOf_bedDay_isSome (s : PtSettings) :
    alarmOf (daySlot s (bedDay s)) ≠ none ↔ ∃ n, alarmOf (daySlot s n) ≠ none := by
  constructor
  · intro present
    exact ⟨bedDay s, present⟩
  · intro present
    exact (isLeast_bedDay present).1

/-- pctl stores the alarm flags of the slots in force as 0 or 1. -/
def PtSettings.PlainFlags (s : PtSettings) : Prop :=
  ∀ n, (daySlot s n).bedtimeEnabled = 0 ∨ (daySlot s n).bedtimeEnabled = 1

instance (s : PtSettings) : Decidable s.PlainFlags := inferInstanceAs (Decidable (∀ _, _))

/-- On such flags, slots compare equal exactly when they have the same alarm. -/
theorem sameBedtime_iff {a b : PtDaySetting}
    (plain : a.bedtimeEnabled = 0 ∨ a.bedtimeEnabled = 1)
    (plain' : b.bedtimeEnabled = 0 ∨ b.bedtimeEnabled = 1) :
    sameBedtime a b = true ↔ alarmOf a = alarmOf b := by
  rcases plain with off | on
  · rcases plain' with off' | on'
    · simp [sameBedtime, alarmOf, off, off']
    · simp [sameBedtime, alarmOf, off, on']
  · rcases plain' with off' | on'
    · simp [sameBedtime, alarmOf, on, off']
    · simp [sameBedtime, alarmOf, on, on', and_assoc]

/-- On such flags, no difference is reported exactly when all alarms are equal. -/
theorem bedtimeVaries_eq_false_iff {s : PtSettings} (plain : s.PlainFlags) (out : PtState) :
    (out.ofSettings s).bedtimeVaries = false ↔
      ∀ m n, alarmOf (daySlot s m) = alarmOf (daySlot s n) := by
  rw [bedtimeVaries_ofSettings, Scan.constant_iff _ (bedDay s)]
  exact forall_congr' fun n => sameBedtime_iff (plain n) (plain (bedDay s))

/-- The registers after the alarm was set: every day has it, and the limit it had. -/
theorem days_of_setBedtime {s t : PtSettings} (bed : PtBedtime)
    (written : registersOf t = (SetterCall.setBedtime bed).spec (registersOf s)) (n : Day) :
    alarmOf (daySlot t n) = bed.alarm ∧ limitOf (daySlot t n) = limitOf (daySlot s n) := by
  obtain ⟨limits, alarms⟩ := Registers.days_setAlarms (fun _ : Day => bed.alarm) (registersOf s)
  constructor
  · rw [← alarms_registersOf, written]
    exact congrFun alarms n
  · rw [← limits_registersOf, written, ← limits_registersOf]
    exact congrFun limits n

/-- Writing an alarm that every day already has keeps each day's alarm and limit, whatever
becomes of the write. -/
theorem days_setBedtime (bed : PtBedtime) (w : World)
    (same : ∀ n, alarmOf (daySlot w.console.stored n) = bed.alarm) (n : Day) :
    let stored := (after (pctlPlayTimerSetBedtime bed) w).console.stored
    alarmOf (daySlot stored n) = alarmOf (daySlot w.console.stored n) ∧
      limitOf (daySlot stored n) = limitOf (daySlot w.console.stored n) := by
  rcases (SetterCall.setBedtime bed).registersOf_step_cases w with unchanged | ⟨_, written⟩
  · change (after (pctlPlayTimerSetBedtime bed) w).console.stored = _ at unchanged
    simp only [unchanged, and_self]
  · change registersOf (after (pctlPlayTimerSetBedtime bed) w).console.stored = _ at written
    obtain ⟨alarm, limit⟩ := days_of_setBedtime bed written n
    exact ⟨alarm.trans (same n).symm, limit⟩

/-- The summary is faithful: the reported alarm is on exactly when some day has one, and then it
is that of the least such day; no difference is reported exactly when all days have the same
alarm or none; and when none is reported, writing the reported alarm keeps every day's alarm
and limit. -/
theorem bedtime_summary_faithful (w : World) (reads : w.Reads)
    (plain : w.console.stored.PlainFlags) :
    let pt := result pctlPlayTimerQuery w
    let alarm := fun n => alarmOf (daySlot w.console.stored n)
    (pt.bedtime.enabled = true ↔ ∃ n, alarm n ≠ none) ∧
    (∀ n, IsLeast { d | alarm d ≠ none } n → pt.bedtime.alarm = alarm n) ∧
    (pt.bedtimeVaries = false ↔ ∀ m n, alarm m = alarm n) ∧
    (pt.bedtimeVaries = false → ∀ later : World, later.console.stored = w.console.stored →
      ∀ n, alarmOf (daySlot
          (after (pctlPlayTimerSetBedtime pt.bedtime) later).console.stored n) = alarm n ∧
        limitOf (daySlot
          (after (pctlPlayTimerSetBedtime pt.bedtime) later).console.stored n) =
            limitOf (daySlot w.console.stored n)) := by
  obtain ⟨out, read⟩ := snapshot_of_reads reads
  have reported : (out.ofSettings w.console.stored).bedtime.alarm =
      alarmOf (daySlot w.console.stored (bedDay w.console.stored)) := by
    rw [bedtime_ofSettings, alarm_decodeBedtime]
  have uniform := bedtimeVaries_eq_false_iff plain out
  simp only [read]
  refine ⟨?_, ?_, uniform, ?_⟩
  · rw [← alarmOf_bedDay_isSome, ← Option.isSome_iff_ne_none, alarmOf_isSome, bedtime_ofSettings]
    simp [decodeBedtime]
  · intro n least
    have day := least.unique (isLeast_bedDay ⟨n, least.1⟩)
    rw [reported, day]
  · intro same later stored n
    have constant : ∀ n, alarmOf (daySlot later.console.stored n) =
        (out.ofSettings w.console.stored).bedtime.alarm := by
      intro n
      rw [stored, reported]
      exact uniform.mp same n _
    have kept := days_setBedtime _ later constant n
    rw [stored] at kept
    exact kept

/-- An alarm from 21:00 to 06:00 on Monday to Friday, and stale times on the weekend. -/
def PtSettings.schoolNights : PtSettings :=
  { PtSettings.zero with
    weekUsed := 1
    weekly := fun n =>
      if n.val % 6 = 0 then ⟨0, 23, 30, 7, 0, 0, 0⟩ else ⟨1, 21, 0, 6, 0, 0, 0⟩ }

/-- With an alarm on school nights only, Monday's is reported, and that the days differ. -/
theorem bedtime_summary_faithful_sample :
    let pt := result pctlPlayTimerQuery (.launched (.sample .schoolNights false) .none)
    pt.bedtime = ⟨true, 21, 0, 6, 0⟩ ∧ pt.bedtime.alarm = some ⟨21, 0, 6, 0⟩ ∧
      pt.bedtimeVaries = true := by
  have faithful := bedtime_summary_faithful (.launched (.sample .schoolNights false) .none)
    (by decide) (by decide)
  have least : IsLeast { d | alarmOf (daySlot PtSettings.schoolNights d) ≠ none } 1 :=
    ⟨by decide, by simp only [mem_lowerBounds, Set.mem_ofPred_eq]; decide⟩
  refine ⟨by decide, faithful.2.1 1 least, ?_⟩
  rw [← Bool.not_eq_false, faithful.2.2.1]
  decide

end PctlManager
