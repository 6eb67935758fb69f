import PctlManager.Verif.Operations

/-!
# The four exits of the guarded write

Which way `guarded_write` takes is decided by the world it starts in. The conditions are
stated there (`Admitted`, `SeesTimer`, `Unlocks`, `StillLive`, `SeesPause`), and one equation
for each exit gives the value returned and everything left behind: unsupported firmware, no
PIN, a refusal after the unlock, and the write.
-/

namespace PctlManager

open Stateful

/-! ## Conditions on the world at entry -/

/-- The firmware has the commands, and 1206 answers that a PIN is registered. -/
def World.Admitted (w : World) : Prop :=
  pctlFwPlayTimerSupported w = true ∧ w.Reaches 0 .getPinCodeLength 0 ∧ w.console.pinLength ≠ 0

/-- 1453 would answer true. -/
def World.Live (w : World) : Prop :=
  w.sys.isPlayTimerEnabled w.console.stored w.console.temporarilyUnlocked = true

/-- The first snapshot shows an active timer: 1453 or 1455 answers true. -/
def World.SeesTimer (w : World) : Prop :=
  w.Reaches 1 .isPlayTimerEnabled 0 ∧ w.Live ∨
    w.Reaches 1 .isRestrictedByPlayTimer 0 ∧ w.console.restrictedByPlayTimer = true

/-- After a successful unlock, 1453 still answers true. -/
def World.StillLive (w : World) : Prop :=
  w.Reaches 4 .isPlayTimerEnabled 1 ∧ w.sys.isPlayTimerEnabled w.console.stored true = true

/-- 1006 answers that parental controls are paused. -/
def World.SeesPause (w : World) : Prop :=
  w.Reaches 2 .isRestrictionTemporaryUnlocked 0 ∧ w.console.temporarilyUnlocked = true

instance (w : World) : Decidable w.Admitted := inferInstanceAs (Decidable (_ ∧ _))

instance (w : World) : Decidable w.Live := inferInstanceAs (Decidable (_ = _))

instance (w : World) : Decidable w.SeesTimer := inferInstanceAs (Decidable (_ ∨ _))

instance (w : World) : Decidable w.StillLive := inferInstanceAs (Decidable (_ ∧ _))

instance (w : World) : Decidable w.SeesPause := inferInstanceAs (Decidable (_ ∧ _))

/-- The unlock is needed, and fails or does not stop the timer. -/
def World.Refused (w : World) : Prop := w.SeesTimer ∧ (w.Unlocks 3 → w.StillLive)

instance (w : World) : Decidable w.Refused := inferInstanceAs (Decidable (_ ∧ (_ → _)))

/-! ## The world on the way -/

/-- The world after the first snapshot. -/
def World.queried (w : World) : World := after pctlPlayTimerQuery (after pctlStatusFetch w)

/-- The world after the unlock and the second snapshot. -/
def World.unlocked (w : World) : World :=
  after pctlPlayTimerQuery (after pctlUnlockRestrictionTemporarily w.queried)

/-- The world that the write starts in. -/
def World.beforeWrite (w : World) : World :=
  if w.SeesTimer then w.unlocked else after pctlIsTemporarilyUnlocked w.queried

/-- The world that a refusal leaves. -/
def World.refused (w : World) : World :=
  if w.Unlocks 3 then after pctlRevertTemporaryUnlock w.unlocked else w.unlocked

variable (w : World)

/-- The first snapshot and the status before it leave the console alone. -/
theorem World.console_queried : w.queried.console = w.console :=
  (built_pctlPlayTimerQuery.console _).trans (built_pctlStatusFetch.console w)

/-- The first snapshot and the status before it leave the sysmodule alone. -/
theorem World.sys_queried : w.queried.sys = w.sys :=
  (built_pctlPlayTimerQuery.sys _).trans (built_pctlStatusFetch.sys w)

/-- The first snapshot and the status before it leave the firmware alone. -/
theorem World.supported_queried :
    pctlFwPlayTimerSupported w.queried = pctlFwPlayTimerSupported w :=
  (built_pctlPlayTimerQuery.supported _).trans (built_pctlStatusFetch.supported w)

/-- Requests after the first snapshot. -/
theorem World.reaches_queried (supported : pctlFwPlayTimerSupported w = true) (n : Nat)
    (command : Command) (k : Nat)
    (other : command ≠ .getSafetyLevel ∧ command ≠ .getPinCodeLength ∧
      command ≠ .isRestrictionEnabled ∧ command ≠ .isRestrictedByPlayTimer ∧
      command ≠ .getPlayTimerRemainingTime ∧ command ≠ .getPlayTimerSettings) :
    w.queried.Reaches n command k ↔
      w.Reaches (n + 2) command (k + if .isPlayTimerEnabled = command then 1 else 0) := by
  obtain ⟨level, length, enabled, snapshot⟩ := other
  unfold queried
  rw [reaches_pctlPlayTimerQuery _ _ n command k snapshot,
    reaches_pctlStatusFetch w _ _ _ ⟨level, length, enabled⟩]
  rw [built_pctlStatusFetch.supported, supported]

/-- The first snapshot shows the timer. -/
theorem World.seesTimer_iff (supported : pctlFwPlayTimerSupported w = true) :
    ((result pctlPlayTimerQuery (after pctlStatusFetch w)).enabled = true ∨
      (result pctlPlayTimerQuery (after pctlStatusFetch w)).restricted = true) ↔
    w.SeesTimer := by
  have still : pctlFwPlayTimerSupported (after pctlStatusFetch w) = true := by
    rw [built_pctlStatusFetch.supported, supported]
  rw [enabled_pctlPlayTimerQuery _ still, restricted_pctlPlayTimerQuery _ still,
    built_pctlStatusFetch.console, built_pctlStatusFetch.sys,
    reaches_pctlStatusFetch w 1 .isPlayTimerEnabled 0 (by decide),
    reaches_pctlStatusFetch w 1 .isRestrictedByPlayTimer 0 (by decide)]
  rfl

/-- The unlock of the guarded write goes through on the third further session. -/
theorem World.unlocks_queried (supported : pctlFwPlayTimerSupported w = true) :
    result pctlUnlockRestrictionTemporarily w.queried = 0 ↔ w.Unlocks 3 := by
  rw [result_pctlUnlockRestrictionTemporarily]
  unfold Unlocks
  rw [w.console_queried, w.sys_queried, w.reaches_queried supported 1 .getPinCode 0 (by decide),
    w.reaches_queried supported 1 .unlockRestrictionTemporarily 0 (by decide)]
  rfl

/-- The unlock and the second snapshot leave the sysmodule alone. -/
theorem World.sys_unlocked : w.unlocked.sys = w.sys := by
  unfold unlocked
  rw [built_pctlPlayTimerQuery.sys, built_pctlUnlockRestrictionTemporarily.sys, w.sys_queried]

/-- A successful unlock pauses parental controls before the write. -/
theorem World.console_unlocked (supported : pctlFwPlayTimerSupported w = true) :
    w.unlocked.console =
      if w.Unlocks 3 then w.sys.unlocked w.console else w.console := by
  unfold unlocked
  rw [built_pctlPlayTimerQuery.console, console_pctlUnlockRestrictionTemporarily,
    w.console_queried, w.sys_queried]
  simp only [← result_pctlUnlockRestrictionTemporarily, w.unlocks_queried supported]

/-- A refusal stores nothing. -/
theorem World.stored_refused (supported : pctlFwPlayTimerSupported w = true) :
    w.refused.console.stored = w.console.stored := by
  have found : w.unlocked.console.stored = w.console.stored := by
    rw [w.console_unlocked supported]
    split <;> rfl
  unfold refused
  by_cases unlocks : w.Unlocks 3
  · rw [if_pos unlocks, stored_pctlRevertTemporaryUnlock, found]
  · rw [if_neg unlocks, found]

/-- Requests after the unlock and the second snapshot. -/
theorem World.reaches_unlocked (supported : pctlFwPlayTimerSupported w = true) (n k : Nat) :
    w.unlocked.Reaches n .revertRestrictionTemporaryUnlocked k ↔
      w.Reaches (n + 5) .revertRestrictionTemporaryUnlocked k := by
  have still : pctlFwPlayTimerSupported (after pctlUnlockRestrictionTemporarily w.queried) =
      true := by
    rw [built_pctlUnlockRestrictionTemporarily.supported, w.supported_queried, supported]
  unfold unlocked
  rw [reaches_pctlPlayTimerQuery _ still n _ k (by decide),
    reaches_pctlUnlockRestrictionTemporarily _ (n + 2) _ _ (by decide),
    w.reaches_queried supported _ _ _ (by decide)]
  rfl

/-- After a successful unlock, the second snapshot shows whether the timer is still live. -/
theorem World.stillLive_iff (supported : pctlFwPlayTimerSupported w = true)
    (unlocks : w.Unlocks 3) :
    (result pctlPlayTimerQuery
      (after pctlUnlockRestrictionTemporarily w.queried)).enabled = true ↔ w.StillLive := by
  have still : pctlFwPlayTimerSupported (after pctlUnlockRestrictionTemporarily w.queried) =
      true := by
    rw [built_pctlUnlockRestrictionTemporarily.supported, w.supported_queried, supported]
  have paused := w.console_unlocked supported
  unfold unlocked at paused
  rw [built_pctlPlayTimerQuery.console, if_pos unlocks] at paused
  rw [enabled_pctlPlayTimerQuery _ still, paused,
    reaches_pctlUnlockRestrictionTemporarily _ 1 _ 0 (by decide),
    w.reaches_queried supported _ _ _ (by decide), built_pctlUnlockRestrictionTemporarily.sys,
    w.sys_queried]
  rfl

/-- The unlock and the second snapshot refuse the write. -/
theorem World.refused_iff (supported : pctlFwPlayTimerSupported w = true) :
    (rFailed (result pctlUnlockRestrictionTemporarily w.queried) ∨
      (result pctlPlayTimerQuery
        (after pctlUnlockRestrictionTemporarily w.queried)).enabled = true) ↔
    (w.Unlocks 3 → w.StillLive) := by
  by_cases unlocks : w.Unlocks 3
  · rw [w.stillLive_iff supported unlocks]
    simp [(w.unlocks_queried supported).mpr unlocks, unlocks]
  · simp [mt (w.unlocks_queried supported).mp unlocks, unlocks]

/-- Without an active timer, the confirmation shows whether parental controls are paused. -/
theorem World.seesPause_iff (supported : pctlFwPlayTimerSupported w = true) :
    (rSucceeded (result pctlIsTemporarilyUnlocked w.queried).rc ∧
      (result pctlIsTemporarilyUnlocked w.queried).out = true) ↔ w.SeesPause := by
  unfold SeesPause
  simp only [rSucceeded, rc_pctlIsTemporarilyUnlocked, out_pctlIsTemporarilyUnlocked,
    w.reaches_queried supported 0 .isRestrictionTemporaryUnlocked 0 (by decide),
    w.console_queried]
  by_cases answered : w.Reaches 2 .isRestrictionTemporaryUnlocked 0
  · simp [answered]
  · simp [answered]

/-! ## The exits -/

section Exits

variable (write : PctlM Result) (okText : Text) (app : App)

/-- On old firmware the write is refused before anything is asked for. -/
theorem guardedWrite_of_unsupported
    (unsupported : ¬pctlFwPlayTimerSupported app.world = true) :
    result (guardedWrite write okText) app = false ∧
      after (guardedWrite write okText) app = { app with
        shown := .dialog (.fwUnsupported (hosverMajor app.world.hosversion)
          (hosverMinor app.world.hosversion) (hosverMicro app.world.hosversion)) ::
            app.shown } := by
  simp [guardedWrite, unsupported, showDialog]

/-- Without a PIN, or without an answer about it, the write is refused. -/
theorem guardedWrite_of_no_pin (supported : pctlFwPlayTimerSupported app.world = true)
    (none : ¬app.world.Admitted) :
    result (guardedWrite write okText) app = false ∧
      after (guardedWrite write okText) app = { app with
        world := after pctlStatusFetch app.world
        shown := .dialog .needPin :: app.shown } := by
  have missing := mt (pinLength_pctlStatusFetch app.world).mp fun registered =>
    none ⟨supported, registered⟩
  unfold guardedWrite
  simp only [result_bind, after_bind, result_get, after_get, supported, ↓reduceIte, pctl,
    result_zoom, after_zoom, App.worldPart, if_pos (not_not.mp missing), result_pure, after_pure,
    showDialog, after_modify]
  exact ⟨trivial, trivial⟩

/-- With an active timer that the unlock does not stop, the write is refused, and an unlock
that went through is reverted. -/
theorem guardedWrite_of_refused (admitted : app.world.Admitted) (refused : app.world.Refused) :
    result (guardedWrite write okText) app = false ∧
      after (guardedWrite write okText) app = { app with
        world := app.world.refused
        shown := .toast (.unlockFailed
          (result pctlUnlockRestrictionTemporarily app.world.queried)) :: app.shown } := by
  obtain ⟨supported, registered⟩ := admitted
  have found := (pinLength_pctlStatusFetch app.world).mpr registered
  have sees := (app.world.seesTimer_iff supported).mpr refused.1
  have stopped := (app.world.refused_iff supported).mpr refused.2
  have unlocks := app.world.unlocks_queried supported
  simp only [World.queried] at stopped unlocks
  unfold guardedWrite
  simp only [result_bind, after_bind, result_get, after_get, supported, ↓reduceIte, pctl,
    result_zoom, after_zoom, App.worldPart, if_neg found, if_pos sees, if_pos stopped, notify,
    after_modify, result_ite, after_ite, result_pure, after_pure, ite_self, true_and,
    World.refused, World.unlocked, World.queried, rSucceeded, unlocks]
  split <;> rfl

/-- Without a refusal the write happens, and it is followed by the re-lock if our own unlock went
before it or parental controls were seen paused. -/
theorem guardedWrite_of_not_refused (admitted : app.world.Admitted)
    (allowed : ¬app.world.Refused) :
    result (guardedWrite write okText) app = result (writeAndRelock write okText
        (app.world.SeesTimer ∨ app.world.SeesPause)) { app with world := app.world.beforeWrite } ∧
      after (guardedWrite write okText) app = after (writeAndRelock write okText
        (app.world.SeesTimer ∨ app.world.SeesPause))
          { app with world := app.world.beforeWrite } := by
  obtain ⟨supported, registered⟩ := admitted
  have found := (pinLength_pctlStatusFetch app.world).mpr registered
  have sees := app.world.seesTimer_iff supported
  have stopped := app.world.refused_iff supported
  have pauses := app.world.seesPause_iff supported
  simp only [World.queried] at stopped pauses
  by_cases seen : app.world.SeesTimer
  · have going := mt stopped.mp fun still => allowed ⟨seen, still⟩
    simp only [guardedWrite, result_bind, after_bind, result_get, after_get, supported,
      ↓reduceIte, pctl, result_zoom, after_zoom, App.worldPart, if_neg found,
      if_pos (sees.mpr seen), if_neg going, World.beforeWrite, World.unlocked, World.queried,
      seen, true_or, decide_true, and_self]
  · simp only [guardedWrite, result_bind, after_bind, result_get, after_get, supported,
      ↓reduceIte, pctl, result_zoom, after_zoom, App.worldPart, if_neg found,
      if_neg (mt sees.mp seen), pauses, World.beforeWrite, World.queried, seen, false_or,
      and_self]

/-- The write closure returns what it returns on the world as it is. -/
theorem result_invoke : result (invoke write) app = result write app.world := (rfl)

/-- The write closure leaves its world, and is recorded. -/
theorem after_invoke : after (invoke write) app = { app with
    world := after write app.world
    writes := (app.world, result write app.world) :: app.writes } := (rfl)

/-- The write and the re-lock return whether the write succeeded. -/
theorem result_writeAndRelock (relock : Bool) :
    result (writeAndRelock write okText relock) app =
      decide (rSucceeded (result write app.world)) := by
  unfold writeAndRelock
  simp only [result_bind, result_invoke, result_ite, result_pure, ite_self]

/-- What the write and the re-lock leave. -/
theorem after_writeAndRelock (relock : Bool) :
    after (writeAndRelock write okText relock) app =
      let rc := result write app.world
      let written := after write app.world
      { world := if relock then after relockConfirmed written else written
        shown := (if relock = true ∧ result relockConfirmed written = false then
            [.dialog .relockFailed] else []) ++
          .toast (if rFailed rc then .writeFailed rc else .okText okText) :: app.shown
        writes := (app.world, rc) :: app.writes } := by
  unfold writeAndRelock
  cases relock
  · simp [result_invoke, after_invoke, notify]
  · by_cases confirmed : result relockConfirmed (after write app.world) = false
    · simp [result_invoke, after_invoke, notify, showDialog, pctl, App.worldPart, confirmed]
    · simp [result_invoke, after_invoke, notify, pctl, App.worldPart, confirmed]

end Exits

end PctlManager
