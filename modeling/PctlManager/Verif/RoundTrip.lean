import PctlManager.Verif.Setters

/-!
# Reading the limits and saving them again

The query folds the flag and the minutes of a day into one word, in which 0xFFFF means that
the day has no limit; `pctl_play_timer_set_days` unfolds it again. Saving what was read keeps
the limits exactly when no day has a stored limit of 65535 minutes (`save_unchanged_iff`).
-/

namespace PctlManager

open Stateful Spec

/-- The backward scan visits every day of its list once. -/
theorem foldl_scanDay (s : PtSettings) (n : Day) : ∀ (days : List Day) (scanned : _ × Day),
    (days.foldl (scanDay s) scanned).1 n =
      if n ∈ days then Sentinel.encode ptDayNoLimit (limitOf (daySlot s n)) else scanned.1 n
  | [], scanned => by simp
  | day :: days, scanned => by
    rw [List.foldl_cons, foldl_scanDay s n days]
    by_cases later : n ∈ days
    · simp [later]
    · by_cases here : n = day
      · subst here
        by_cases limited : (daySlot s n).limitEnabled = 0
        · simp [later, scanDay, limitOf, limited, Sentinel.encode]
        · simp [later, scanDay, limitOf, limited, Sentinel.encode]
      · simp [later, here, scanDay]

/-- A snapshot of settings that were read reports every day's limit under the sentinel. -/
theorem dayMin_ofSettings (s : PtSettings) (out : PtState) (n : Day) :
    (out.ofSettings s).dayMin n = Sentinel.encode ptDayNoLimit (limitOf (daySlot s n)) := by
  have scanned := foldl_scanDay s n (List.finRange 7).reverse (out.dayMin, 0)
  rw [if_pos (List.mem_reverse.mpr (List.mem_finRange n))] at scanned
  exact scanned

/-- A snapshot that reads the settings decodes those that are stored. -/
theorem snapshot_of_reads {w : World} (reads : w.Reads) :
    ∃ out : PtState, result pctlPlayTimerQuery w = out.ofSettings w.console.stored := by
  obtain ⟨out, _, read⟩ := result_pctlPlayTimerQuery w reads.1 reads.2
  exact ⟨out, read⟩

/-- A snapshot that reads the settings reports every day's stored limit under the sentinel. -/
theorem dayMin_of_reads {w : World} (reads : w.Reads) (n : Day) :
    (result pctlPlayTimerQuery w).dayMin n =
      Sentinel.encode ptDayNoLimit (limitOf (daySlot w.console.stored n)) := by
  obtain ⟨out, read⟩ := snapshot_of_reads reads
  rw [read, dayMin_ofSettings]

/-- A successful `pctl_play_timer_set_days` stores exactly the limits it was given. -/
theorem limit_setDays {w : World} (daysMin : Day → UInt16) (registered : w.console.pinLength ≠ 0)
    (succeeded : result (pctlPlayTimerSetDays daysMin) w = 0) (n : Day) :
    limitOf (daySlot (after (pctlPlayTimerSetDays daysMin) w).console.stored n) =
      Sentinel.decode ptDayNoLimit (daysMin n) := by
  have refined := ((SetterCall.setDays daysMin).step_refines w registered succeeded).1
  have limits := congrArg (fun r => Registers.base r |>.limits n) refined
  simp only [limits_registersOf] at limits
  exact limits.trans (congrFun (Registers.days_setLimits _ _).1 n)

/-- Reading the settings and saving the reported limits, whatever is stored by then, keeps
every day's limit exactly when no day has a stored limit of 65535 minutes; and that is exactly
when the snapshot shows the days without a limit, and no others, under the sentinel. -/
theorem save_unchanged_iff (w later : World) (registered : later.console.pinLength ≠ 0)
    (reads : w.Reads)
    (saved : result (pctlPlayTimerSetDays (result pctlPlayTimerQuery w).dayMin) later = 0) :
    ((∀ n, limitOf (daySlot (after (pctlPlayTimerSetDays
          (result pctlPlayTimerQuery w).dayMin) later).console.stored n) =
        limitOf (daySlot w.console.stored n)) ↔
      ∀ n, limitOf (daySlot w.console.stored n) ≠ some 0xFFFF) ∧
    ((∀ n, (result pctlPlayTimerQuery w).dayMin n = ptDayNoLimit ↔
        (daySlot w.console.stored n).limitEnabled = 0) ↔
      ∀ n, limitOf (daySlot w.console.stored n) ≠ some 0xFFFF) := by
  constructor
  · refine forall_congr' fun n => ?_
    rw [limit_setDays _ registered saved, dayMin_of_reads reads]
    exact Sentinel.decode_encode_iff ptDayNoLimit _
  · refine forall_congr' fun n => ?_
    rw [dayMin_of_reads reads, Sentinel.encode_eq_reserved_iff]
    by_cases limited : (daySlot w.console.stored n).limitEnabled = 0
    · simp [limitOf, limited]
    · simp [limitOf, limited, ptDayNoLimit]

/-- A limit of 60 minutes on every day is reported as such, and kept. -/
theorem save_unchanged_sixty :
    let w := World.launched (.sample (.everyDay 60) false) .none
    (result pctlPlayTimerQuery w).dayMin 0 = 60 ∧
      ∀ n, limitOf (daySlot (after (pctlPlayTimerSetDays (result pctlPlayTimerQuery w).dayMin)
        (after pctlPlayTimerQuery w)).console.stored n) = limitOf (daySlot w.console.stored n) :=
  ⟨by decide, (save_unchanged_iff (.launched (.sample (.everyDay 60) false) .none) _ (by decide)
    (by decide) (by decide)).1.mpr (by decide)⟩

/-- A limit of 65535 minutes on every day is reported as no limit, and removed. -/
theorem save_erases_longest :
    let w := World.launched (.sample (.everyDay 0xFFFF) false) .none
    w.Reads ∧
      result (pctlPlayTimerSetDays (result pctlPlayTimerQuery w).dayMin)
        (after pctlPlayTimerQuery w) = 0 ∧
      limitOf (daySlot w.console.stored 0) = some 0xFFFF ∧
      (result pctlPlayTimerQuery w).dayMin 0 = ptDayNoLimit ∧
      limitOf (daySlot (after (pctlPlayTimerSetDays (result pctlPlayTimerQuery w).dayMin)
        (after pctlPlayTimerQuery w)).console.stored 0) = none := by
  decide

end PctlManager
