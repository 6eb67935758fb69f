import PctlManager.Verif.Promises

/-!
# A guarded write on a healthy console

On a documented console with a PIN, where nothing fails, a guarded setter takes effect
whatever the state of the timer at entry: live, off, paused or with the limit reached. It is
what the promises of the guarded write leave open, since a refusal keeps them all.
-/

namespace PctlManager

open Stateful

/-! ## Nothing fails later either -/

/-- Where the failures to come are only used up, none appear. -/
theorem nothingFails_of_advances {α : Type} {m : PctlM α} {a : Nat} {b : Command → Nat}
    (opens : Advances World.openAfter a m)
    (sends : ∀ command, Advances (World.upcoming command) (b command) m) :
    Preserves World.NothingFails m := by
  intro w fine
  constructor
  · intro n
    rw [opens]
    exact fine.opens _
  · intro command k
    rw [sends command]
    exact fine.sends _ _

/-- No operation brings a failure. -/
theorem Built.nothingFails {requests : Command → Prop} {α : Type} {m : PctlM α}
    (built : Built requests m) : Preserves World.NothingFails m := by
  refine built.preserves fun α m step => ?_
  cases step with
  | get => exact fun _ fine => fine
  | reopen => exact nothingFails_of_advances opens_pctlOpsReinit sends_pctlOpsReinit
  | log line =>
    exact nothingFails_of_advances (opens_pctlLogf line) fun other => sends_pctlLogf other line
  | query initial answer =>
    exact nothingFails_of_advances (opens_serviceDispatchOut _ initial answer)
      fun other => sends_serviceDispatchOut _ other initial answer
  | request input perform =>
    exact nothingFails_of_advances (opens_serviceDispatchIn _ input perform)
      fun other => sends_serviceDispatchIn _ other input perform

/-! ## The guarded setter -/

section Guarded

variable (call : SetterCall) {w : World}

/-- The write starts where nothing fails. -/
theorem nothingFails_beforeWrite (fine : w.NothingFails) : w.beforeWrite.NothingFails := by
  have queried : w.queried.NothingFails :=
    built_pctlPlayTimerQuery.nothingFails _ (built_pctlStatusFetch.nothingFails w fine)
  unfold World.beforeWrite World.unlocked
  split
  · exact built_pctlPlayTimerQuery.nothingFails _
      (built_pctlUnlockRestrictionTemporarily.nothingFails _ queried)
  · exact built_pctlIsTemporarilyUnlocked.nothingFails _ queried

/-- The written form asks for the timer exactly when something is configured. -/
theorem enabled_written (s : PtSettings) : (call.written s).enabled ≠ 0 ↔
    settingsConfigured (call.written s) = true := by
  unfold SetterCall.written finishForm
  split
  · rename_i configured
    exact iff_of_true (by decide : (1 : UInt8) ≠ 0) configured
  · exact iff_of_false (by decide) (by decide)

variable {digits : List UInt8}

/-- The guarded setter gets as far as the write. -/
theorem writes_of_nothingFails (supported : pctlFwPlayTimerSupported w = true)
    (fine : w.NothingFails) (documented : w.sys.Documented)
    (registered : w.console.Registered digits) : w.Writes := by
  refine ⟨⟨supported, fine.reaches 0 _ 0, registered.pinLength_ne_zero⟩, fun refused => ?_⟩
  have still := (refused.2 (fine.unlocks documented registered 3)).2
  rw [documented.isPlayTimerEnabled] at still
  simp at still

/-- The setter succeeds where the write starts. -/
theorem succeeds_beforeWrite (supported : pctlFwPlayTimerSupported w = true)
    (fine : w.NothingFails) : call.Succeeds w.beforeWrite := by
  have later := nothingFails_beforeWrite fine
  unfold SetterCall.Succeeds
  rw [call.perform_eq]
  exact (result_patchSettings call.edit w.beforeWrite).mpr
    ⟨(supported_beforeWrite w).trans supported, later.reaches _ _ _, later.reaches _ _ _⟩

/-- The guarded setter leaves what it writes, re-armed if the network clock is valid, and no
temporary unlock; the answers about the timer are left to pctl. -/
theorem console_guardedSetter (okText : Text) (supported : pctlFwPlayTimerSupported w = true)
    (fine : w.NothingFails) (documented : w.sys.Documented)
    (registered : w.console.Registered digits) : ∃ answers : TimerAnswers,
    (after (guardedWrite call.perform okText) (.enter w)).world.console = { w.console with
      toTimerAnswers := answers
      temporarilyUnlocked := false
      stored := { call.written w.console.stored with
        enabled := if rSucceeded (w.console.clock .networkSystemClock).1
          then (call.written w.console.stored).enabled else 0 } } := by
  have writes := writes_of_nothingFails supported fine documented registered
  have found := console_beforeWrite w writes
  have wrote := call.stored_step w.beforeWrite (pinLength_beforeWrite writes)
    (succeeds_beforeWrite call supported fine)
  have later := call.built.nothingFails _ (nothingFails_beforeWrite fine)
  have sys : (after call.perform w.beforeWrite).sys = w.sys := by
    rw [call.built.sys, sys_beforeWrite]
  unfold SetterCall.step at wrote
  rw [sys_beforeWrite, found] at wrote
  rw [world_guardedWrite_of_writes _ _ _ writes]
  by_cases relocks : w.Relocks
  · rw [if_pos relocks, console_relockConfirmed, if_pos (later.reaches _ _ _), sys, wrote]
    unfold Sysmodule.reverted Sysmodule.rearmed Sysmodule.rederived
    rw [documented.revertTemporaryUnlock, documented.rearm]
    split <;> exact ⟨_, rfl⟩
  · have running : w.console.temporarilyUnlocked = false := by
      by_contra paused
      exact relocks (.inr ⟨fine.reaches _ _ _, Bool.not_eq_false _ ▸ paused⟩)
    rw [if_neg relocks, wrote, if_neg fun seen => relocks (.inl seen)]
    unfold Sysmodule.rearmed Sysmodule.rederived
    rw [documented.rearm, ← running]
    exact ⟨_, rfl⟩

/-- The guarded setter leaves the sysmodule alone. -/
theorem sys_guardedSetter (okText : Text) (writes : w.Writes) :
    (after (guardedWrite call.perform okText) (.enter w)).world.sys = w.sys := by
  have wrote : (after call.perform w.beforeWrite).sys = w.sys := by
    rw [call.built.sys, sys_beforeWrite]
  rw [world_guardedWrite_of_writes _ _ _ writes]
  split
  · rw [built_relockConfirmed.sys, wrote]
  · exact wrote

/-- On a documented console with a PIN, where nothing fails, a guarded setter succeeds with a
single write and the caller's text, leaves parental controls on and the configuration that the
setter specifies, and arms the timer exactly if something is configured and the network clock
is valid. -/
theorem guarded_setter_takes_effect (call : SetterCall) (okText : Text) (w : World)
    (digits : List UInt8) (supported : pctlFwPlayTimerSupported w = true)
    (fine : w.NothingFails) (documented : w.sys.Documented)
    (registered : w.console.Registered digits) :
    let app := after (guardedWrite call.perform okText) (.enter w)
    result (guardedWrite call.perform okText) (.enter w) = true ∧
      app.writes.length = 1 ∧
      app.shown = [.toast (.okText okText)] ∧
      app.world.console.temporarilyUnlocked = false ∧
      registersOf app.world.console.stored = call.spec (registersOf w.console.stored) ∧
      (app.world.Live ↔ settingsConfigured app.world.console.stored = true ∧
        rSucceeded (w.console.clock .networkSystemClock).1) := by
  have writes := writes_of_nothingFails supported fine documented registered
  have succeeded := succeeds_beforeWrite call supported fine
  obtain ⟨answers, left⟩ :=
    console_guardedSetter call okText supported fine documented registered
  have later := call.built.nothingFails _ (nothingFails_beforeWrite fine)
  have ends : (after call.perform w.beforeWrite).sys.revertTemporaryUnlock
      (after call.perform w.beforeWrite).console = false := by
    rw [call.built.sys, sys_beforeWrite]
    exact documented.revertTemporaryUnlock _
  have confirmed := (result_relockConfirmed _).mpr
    ⟨later.reaches _ _ _, later.reaches _ _ _, ends⟩
  unfold SetterCall.Succeeds at succeeded
  refine ⟨?_, ?_, ?_, ?_, ?_, ?_⟩
  · rw [result_guardedWrite_of_writes _ _ _ writes, succeeded]
    rfl
  · rw [writes_guardedWrite, if_pos writes]
    rfl
  · rw [shown_guardedWrite_of_writes _ _ _ writes, confirmed, succeeded]
    simp
  · rw [left]
  · rw [left, registersOf_enabled, call.registersOf_written]
  · have sys := sys_guardedSetter call okText writes
    have armed := enabled_written call w.console.stored
    unfold World.Live
    rw [sys, documented.isPlayTimerEnabled, left]
    by_cases clock : rSucceeded (w.console.clock .networkSystemClock).1
    · simp only [clock, ↓reduceIte, Bool.not_false, Bool.and_true, bne_iff_ne, and_true]
      exact armed
    · simp [clock]

/-- Half an hour on every day, set on a live timer, leaves the timer live. -/
theorem guarded_setter_takes_effect_live :
    (after (guardedWrite (SetterCall.setUniform 30).perform []) (.enter
      (.launched .live .none))).world.Live :=
  (guarded_setter_takes_effect (.setUniform 30) [] (.launched .live .none)
    [0x31, 0x32, 0x33, 0x34] (by decide) (World.nothingFails_launched _)
    Sysmodule.documented_documented (Console.registered_sample _ _)).2.2.2.2.2.mpr (by decide)

end Guarded

end PctlManager
