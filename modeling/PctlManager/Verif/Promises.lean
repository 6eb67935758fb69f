import PctlManager.Verif.Flow
import PctlManager.Verif.Setters

/-!
# What the guarded write promises

Three promises of `guarded_write` over every world it can start in, so over every pattern of
failing requests: it does not write on a live timer, it does not leave parental controls
paused silently, and what it reports is what happened. Each of them is broken by some pattern
of failures, and each theorem says by exactly which.
-/

namespace PctlManager

open Stateful

/-- The UI with nothing shown and nothing written yet. -/
def App.enter (w : World) : App := ⟨w, [], []⟩

/-- The guarded write gets as far as the write. -/
def World.Writes (w : World) : Prop := w.Admitted ∧ ¬w.Refused

instance (w : World) : Decidable w.Writes := inferInstanceAs (Decidable (_ ∧ ¬_))

variable (write : PctlM Result) (okText : Text) (w : World)

/-- The write closure is invoked once, before the write, or not at all. -/
theorem writes_guardedWrite_of_app (app : App) :
    (after (guardedWrite write okText) app).writes =
      (if app.world.Writes then [(app.world.beforeWrite, result write app.world.beforeWrite)]
        else []) ++ app.writes := by
  by_cases supported : pctlFwPlayTimerSupported app.world = true
  · by_cases admitted : app.world.Admitted
    · by_cases refused : app.world.Refused
      · rw [(guardedWrite_of_refused write okText app admitted refused).2,
          if_neg fun writes : app.world.Writes => writes.2 refused]
        rfl
      · rw [(guardedWrite_of_not_refused write okText app admitted refused).2,
          after_writeAndRelock, if_pos ⟨admitted, refused⟩]
        rfl
    · rw [(guardedWrite_of_no_pin write okText app supported admitted).2,
        if_neg fun writes : app.world.Writes => admitted writes.1]
      rfl
  · rw [(guardedWrite_of_unsupported write okText app supported).2,
      if_neg fun writes : app.world.Writes => supported writes.1.1]
    rfl

/-- The write closure is invoked on the world before the write only. -/
theorem writes_guardedWrite : (after (guardedWrite write okText) (.enter w)).writes =
    if w.Writes then [(w.beforeWrite, result write w.beforeWrite)] else [] :=
  (writes_guardedWrite_of_app write okText (.enter w)).trans (List.append_nil _)

/-- The write is followed by a re-lock. -/
def World.Relocks (w : World) : Prop := w.SeesTimer ∨ w.SeesPause

instance (w : World) : Decidable w.Relocks := inferInstanceAs (Decidable (_ ∨ _))

/-- The guarded write that gets as far as the write returns whether the write succeeded. -/
theorem result_guardedWrite_of_app (app : App) (writes : app.world.Writes) :
    result (guardedWrite write okText) app =
      decide (rSucceeded (result write app.world.beforeWrite)) := by
  rw [(guardedWrite_of_not_refused write okText app writes.1 writes.2).1, result_writeAndRelock]

/-- The guarded write that gets as far as the write leaves the world after the write or after
the re-lock. -/
theorem world_guardedWrite_of_app (app : App) (writes : app.world.Writes) :
    (after (guardedWrite write okText) app).world =
      if app.world.Relocks then after relockConfirmed (after write app.world.beforeWrite)
      else after write app.world.beforeWrite := by
  rw [(guardedWrite_of_not_refused write okText app writes.1 writes.2).2, after_writeAndRelock]
  change (if decide app.world.Relocks = true then _ else _) = _
  simp only [decide_eq_true_eq]

/-- The guarded write that does not get as far as the write returns false, and stores
nothing. -/
theorem guardedWrite_of_not_writes (app : App) (refused : ¬app.world.Writes) :
    result (guardedWrite write okText) app = false ∧
      (after (guardedWrite write okText) app).world.console.stored = app.world.console.stored := by
  by_cases supported : pctlFwPlayTimerSupported app.world = true
  · by_cases admitted : app.world.Admitted
    · have stopped : app.world.Refused := not_not.mp fun allowed => refused ⟨admitted, allowed⟩
      obtain ⟨returned, left⟩ := guardedWrite_of_refused write okText app admitted stopped
      exact ⟨returned, by rw [left]; exact app.world.stored_refused supported⟩
    · obtain ⟨returned, left⟩ := guardedWrite_of_no_pin write okText app supported admitted
      refine ⟨returned, ?_⟩
      rw [left, built_pctlStatusFetch.console]
  · obtain ⟨returned, left⟩ := guardedWrite_of_unsupported write okText app supported
    exact ⟨returned, by rw [left]⟩

/-- With nothing shown yet, the guarded write that gets as far as the write returns the same. -/
theorem result_guardedWrite_of_writes (writes : w.Writes) :
    result (guardedWrite write okText) (.enter w) =
      decide (rSucceeded (result write w.beforeWrite)) :=
  result_guardedWrite_of_app write okText (.enter w) writes

/-- With nothing shown yet, the guarded write that gets as far as the write leaves the same
world. -/
theorem world_guardedWrite_of_writes (writes : w.Writes) :
    (after (guardedWrite write okText) (.enter w)).world =
      if w.Relocks then after relockConfirmed (after write w.beforeWrite)
      else after write w.beforeWrite :=
  world_guardedWrite_of_app write okText (.enter w) writes

/-- With nothing shown yet, the guarded write that gets as far as the write shows its outcome, and
then the dialog if a re-lock was not confirmed. -/
theorem shown_guardedWrite_of_writes (writes : w.Writes) :
    (after (guardedWrite write okText) (.enter w)).shown =
      (if w.Relocks ∧ result relockConfirmed (after write w.beforeWrite) = false then
        [.dialog .relockFailed] else []) ++
      [.toast (if rFailed (result write w.beforeWrite)
        then .writeFailed (result write w.beforeWrite) else .okText okText)] := by
  rw [(guardedWrite_of_not_refused write okText (.enter w) writes.1 writes.2).2,
    after_writeAndRelock]
  change (if decide w.Relocks = true ∧ _ then _ else _) ++ _ = _
  simp only [decide_eq_true_eq]
  rfl

/-- The console that the write finds: paused if our own unlock went before. -/
theorem console_beforeWrite (writes : w.Writes) : w.beforeWrite.console =
    if w.SeesTimer then w.sys.unlocked w.console else w.console := by
  unfold World.beforeWrite
  by_cases seen : w.SeesTimer
  · have unlocks : w.Unlocks 3 := by
      by_contra failed
      exact writes.2 ⟨seen, fun unlocks => absurd unlocks failed⟩
    rw [if_pos seen, if_pos seen, w.console_unlocked writes.1.1, if_pos unlocks]
  · rw [if_neg seen, if_neg seen, built_pctlIsTemporarilyUnlocked.console, w.console_queried]

/-- The write finds the sysmodule as it was. -/
theorem sys_beforeWrite : w.beforeWrite.sys = w.sys := by
  unfold World.beforeWrite
  split
  · exact w.sys_unlocked
  · rw [built_pctlIsTemporarilyUnlocked.sys, w.sys_queried]

/-- The write finds the firmware as it was. -/
theorem supported_beforeWrite :
    pctlFwPlayTimerSupported w.beforeWrite = pctlFwPlayTimerSupported w := by
  unfold World.beforeWrite World.unlocked
  split
  · rw [built_pctlPlayTimerQuery.supported, built_pctlUnlockRestrictionTemporarily.supported,
      w.supported_queried]
  · rw [built_pctlIsTemporarilyUnlocked.supported, w.supported_queried]

/-- The write finds the settings as they were stored. -/
theorem stored_beforeWrite {w : World} (writes : w.Writes) :
    w.beforeWrite.console.stored = w.console.stored := by
  rw [console_beforeWrite w writes]
  split <;> rfl

/-- The write finds a PIN. -/
theorem pinLength_beforeWrite {w : World} (writes : w.Writes) :
    w.beforeWrite.console.pinLength ≠ 0 := by
  rw [console_beforeWrite w writes]
  split <;> exact writes.1.2.2

/-! ## No write on a live timer -/

/-- The timer is live, but neither 1453 nor 1455 says so. -/
def World.MissesTimer (w : World) : Prop := w.Admitted ∧ w.Live ∧ ¬w.SeesTimer

instance (w : World) : Decidable w.MissesTimer := inferInstanceAs (Decidable (_ ∧ _))

/-- A timer that is not seen is not refused. -/
theorem World.MissesTimer.writes {w : World} (missed : w.MissesTimer) : w.Writes :=
  ⟨missed.1, fun refused => missed.2.2 refused.1⟩

/-- Where a temporary unlock stops the timer, the write never happens on a live timer exactly
when the first snapshot does not miss one: 1453 fails on a live timer, and 1455 fails too or
answers false. -/
theorem no_write_on_live_timer_iff
    (stops : ∀ s, w.sys.isPlayTimerEnabled s true = false) :
    (∀ v rc, (v, rc) ∈ (after (guardedWrite write okText) (.enter w)).writes → ¬v.Live) ↔
      ¬w.MissesTimer := by
  rw [writes_guardedWrite]
  by_cases writes : w.Writes
  · have live : w.beforeWrite.Live ↔ w.MissesTimer := by
      unfold World.Live World.MissesTimer
      rw [sys_beforeWrite, console_beforeWrite w writes]
      by_cases seen : w.SeesTimer
      · simp [seen, stops]
      · simp [seen, writes.1, World.Live]
    simp [writes, live]
  · have seen : ¬w.MissesTimer := fun missed => writes missed.writes
    simp [writes, seen]

/-- A console whose timer is live, with a limit of 60 minutes on every day. -/
def Console.live : Console := .sample { PtSettings.everyDay 60 with enabled := 1 } false

/-- Where nothing fails, the write happens, and the live timer is stopped before it. -/
theorem no_write_on_live_timer_sample :
    let app := after (guardedWrite pctlPlayTimerClear []) (.enter (.launched .live .none))
    app.writes ≠ [] ∧ ∀ v rc, (v, rc) ∈ app.writes → ¬v.Live :=
  ⟨by rw [writes_guardedWrite, if_pos (by decide)]; exact List.cons_ne_nil _ _,
    (no_write_on_live_timer_iff pctlPlayTimerClear [] (.launched .live .none)
      (fun s => Bool.and_false _)).mpr (by decide)⟩

/-- The first 1453 fails while the timer is live: the write happens on the live timer. -/
theorem write_on_live_timer :
    ∃ v rc, (v, rc) ∈ (after (guardedWrite pctlPlayTimerClear [])
      (.enter (.launched .live (.failing [.isPlayTimerEnabled])))).writes ∧ v.Live := by
  rw [writes_guardedWrite, if_pos (by decide)]
  exact ⟨_, _, List.mem_singleton_self _, by decide⟩

/-! ## Never paused silently -/

/-- A 1201 that succeeded. -/
def Event.isUnlock : Event → Bool
  | .dispatch .unlockRestrictionTemporarily _ rc => rSucceeded rc
  | _ => false

/-- A request is an unlock exactly when it is a 1201 that succeeded. -/
theorem isUnlock_dispatch (command : Command) (input : List UInt8) (rc : Result) :
    (Event.dispatch command input rc).isUnlock =
      decide (command = .unlockRestrictionTemporarily ∧ rc = 0) := by
  cases command <;> simp [Event.isUnlock]

/-- The number of successful 1201s so far. -/
def World.unlockCount (w : World) : Nat := w.trace.countP Event.isUnlock

/-- A request counts as an unlock when it is a 1201 that succeeds. -/
theorem unlockCount_serviceDispatchIn (command : Command) (input : List UInt8)
    (perform : Sysmodule → Console → Result × Console) (w : World) :
    (after (serviceDispatchIn command input perform) w).unlockCount = w.unlockCount +
      if command = .unlockRestrictionTemporarily ∧
        result (serviceDispatchIn command input perform) w = 0 then 1 else 0 := by
  change (Event.dispatch command input _ :: w.trace).countP Event.isUnlock = _
  rw [List.countP_cons, isUnlock_dispatch]
  simp only [decide_eq_true_eq]
  rfl

/-- An operation that sends no 1201 does not count. -/
theorem Built.unlockCount {requests : Command → Prop} {α : Type} {m : PctlM α}
    (built : Built requests m) (other : ¬requests .unlockRestrictionTemporarily) :
    Keeps World.unlockCount m := by
  refine built.keeps fun α m step w => ?_
  cases step with
  | query initial answer asks =>
    rename_i command
    have asked : command ≠ .unlockRestrictionTemporarily := by
      rintro rfl
      cases asks
    change (Event.dispatch command [] _ :: w.trace).countP Event.isUnlock = _
    rw [List.countP_cons, isUnlock_dispatch]
    simp [asked, World.unlockCount]
  | request input perform sent =>
    rename_i command
    have unsent : command ≠ .unlockRestrictionTemporarily := fun same => other (same ▸ sent)
    rw [unlockCount_serviceDispatchIn]
    simp [unsent]
  | _ => rfl

/-- The unlock counts when it goes through. -/
theorem unlockCount_pctlUnlockRestrictionTemporarily :
    (after pctlUnlockRestrictionTemporarily w).unlockCount =
      w.unlockCount + if w.Unlocks 1 then 1 else 0 := by
  have before : (after (pctlGetPin pinBufferSize) (after pctlOpsReinit w)).unlockCount =
      w.unlockCount := (built_pctlGetPin _).unlockCount id _
  have logged : ∀ line v, (after (pctlLogf line) v).unlockCount = v.unlockCount := fun _ _ => rfl
  simp only [← result_pctlUnlockRestrictionTemporarily]
  unfold pctlUnlockRestrictionTemporarily
  simp only [result_bind, after_bind, result_ite, after_ite, result_pure, after_pure]
  split
  · rw [logged, before, Nat.add_zero]
  · split
    · rw [logged, before, if_neg (by decide)]
      rfl
    · rw [logged, unlockCount_serviceDispatchIn, before]
      simp only [true_and]

/-- If the write closure was called or a 1201 succeeded, then parental controls are not paused
or the user has been shown how to end it. -/
def NeverSilentlyPaused (w : World) (app : App) : Prop :=
  app.writes ≠ [] ∨ w.unlockCount < app.world.unlockCount →
    app.world.console.temporarilyUnlocked = false ∨ .dialog .relockFailed ∈ app.shown

/-- Parental controls are already paused at entry, and 1006 fails to say so. -/
def World.MissesPause (w : World) : Prop :=
  w.Writes ∧ ¬w.SeesTimer ∧ w.console.temporarilyUnlocked = true ∧
    ¬w.Reaches 2 .isRestrictionTemporaryUnlocked 0

/-- The unlock goes through without stopping the timer, and the 1007 that is to revert it fails
or does not end it. -/
def World.KeepsUnlock (w : World) : Prop :=
  w.Admitted ∧ w.SeesTimer ∧ w.Unlocks 3 ∧ w.StillLive ∧
    ¬(w.Reaches 6 .revertRestrictionTemporaryUnlocked 0 ∧
      w.sys.revertTemporaryUnlock (w.sys.unlocked w.console) = false)

instance (w : World) : Decidable w.MissesPause := inferInstanceAs (Decidable (_ ∧ _))

instance (w : World) : Decidable w.KeepsUnlock := inferInstanceAs (Decidable (_ ∧ _))

/-- A guarded write that writes is not silent about a pause, unless it misses one. -/
theorem neverSilentlyPaused_of_writes (writes : w.Writes)
    (keeps : ∀ v, (after write v).console.temporarilyUnlocked = v.console.temporarilyUnlocked) :
    NeverSilentlyPaused w (after (guardedWrite write okText) (.enter w)) ↔ ¬w.MissesPause := by
  unfold NeverSilentlyPaused
  rw [writes_guardedWrite, world_guardedWrite_of_writes write okText w writes,
    shown_guardedWrite_of_writes write okText w writes]
  by_cases relocks : w.Relocks
  · have missed : ¬w.MissesPause := by
      rintro ⟨-, seen, paused, unanswered⟩
      exact relocks.elim seen fun pause => unanswered pause.1
    simp only [relocks, if_true, true_and, missed, not_false_eq_true, iff_true]
    intro _
    by_cases confirmed : result relockConfirmed (after write w.beforeWrite) = true
    · left
      have reverts := (result_relockConfirmed _).mp confirmed
      rw [console_relockConfirmed, if_pos reverts.1, Sysmodule.temporarilyUnlocked_reverted]
      exact reverts.2.2
    · right
      simp [confirmed]
  · have found := console_beforeWrite w writes
    rw [if_neg fun seen => relocks (.inl seen)] at found
    have missed : w.MissesPause ↔ w.console.temporarilyUnlocked = true :=
      ⟨fun missed => missed.2.2.1, fun paused => ⟨writes, fun seen => relocks (.inl seen), paused,
        fun answered => relocks (.inr ⟨answered, paused⟩)⟩⟩
    simp [writes, relocks, missed, keeps, found]

/-- A refusal is not silent about a pause, unless it keeps its own unlock. -/
theorem neverSilentlyPaused_of_refused (admitted : w.Admitted) (refused : w.Refused) :
    NeverSilentlyPaused w (after (guardedWrite write okText) (.enter w)) ↔ ¬w.KeepsUnlock := by
  have left : after (guardedWrite write okText) (.enter w) = ⟨w.refused, [.toast (.unlockFailed
      (result pctlUnlockRestrictionTemporarily w.queried))], []⟩ :=
    (guardedWrite_of_refused write okText (.enter w) admitted refused).2
  have queried : w.queried.unlockCount = w.unlockCount :=
    (built_pctlPlayTimerQuery.unlockCount id _).trans (built_pctlStatusFetch.unlockCount id w)
  have count : w.unlocked.unlockCount = w.unlockCount + if w.Unlocks 3 then 1 else 0 := by
    unfold World.unlocked
    rw [built_pctlPlayTimerQuery.unlockCount id, unlockCount_pctlUnlockRestrictionTemporarily,
      queried]
    simp only [← result_pctlUnlockRestrictionTemporarily, w.unlocks_queried admitted.1]
  unfold NeverSilentlyPaused World.refused at *
  rw [left]
  by_cases unlocks : w.Unlocks 3
  · have paused := w.console_unlocked admitted.1
    rw [if_pos unlocks] at paused count ⊢
    rw [built_pctlRevertTemporaryUnlock.unlockCount (by decide), count,
      console_pctlRevertTemporaryUnlock, paused, w.sys_unlocked]
    simp only [w.reaches_unlocked admitted.1 1 0]
    by_cases reverted : w.Reaches 6 .revertRestrictionTemporaryUnlocked 0
    · by_cases ended : w.sys.revertTemporaryUnlock (w.sys.unlocked w.console) = false
      · simp [reverted, ended, World.KeepsUnlock]
      · simp [reverted, ended, World.KeepsUnlock, admitted, refused.1, unlocks, refused.2 unlocks]
    · simp [reverted, World.KeepsUnlock, admitted, refused.1, unlocks, refused.2 unlocks]
  · have kept : ¬w.KeepsUnlock := fun kept => unlocks kept.2.2.1
    simp [unlocks, count, kept]

/-- Without a PIN or on old firmware, nothing is written and nothing unlocked. -/
theorem neverSilentlyPaused_of_not_admitted (refused : ¬w.Admitted) :
    NeverSilentlyPaused w (after (guardedWrite write okText) (.enter w)) := by
  have writes : ¬w.Writes := fun writes => refused writes.1
  have count : (after (guardedWrite write okText) (.enter w)).world.unlockCount =
      w.unlockCount := by
    by_cases supported : pctlFwPlayTimerSupported w = true
    · rw [(guardedWrite_of_no_pin write okText (.enter w) supported refused).2]
      exact built_pctlStatusFetch.unlockCount id w
    · rw [(guardedWrite_of_unsupported write okText (.enter w) supported).2]
      rfl
  unfold NeverSilentlyPaused
  rw [writes_guardedWrite, if_neg writes, count]
  simp

/-- Where the write keeps the pause as it is, the guarded write never leaves parental controls
paused silently, exactly unless it misses a pause at entry or keeps its own unlock. -/
theorem never_silently_paused_iff
    (keeps : ∀ v, (after write v).console.temporarilyUnlocked = v.console.temporarilyUnlocked) :
    NeverSilentlyPaused w (after (guardedWrite write okText) (.enter w)) ↔
      ¬(w.MissesPause ∨ w.KeepsUnlock) := by
  by_cases admitted : w.Admitted
  · by_cases refused : w.Refused
    · have missed : ¬w.MissesPause := fun missed => missed.1.2 refused
      rw [neverSilentlyPaused_of_refused write okText w admitted refused]
      simp [missed]
    · have kept : ¬w.KeepsUnlock := fun kept => refused ⟨kept.2.1, fun _ => kept.2.2.2.1⟩
      rw [neverSilentlyPaused_of_writes write okText w ⟨admitted, refused⟩ keeps]
      simp [kept]
  · have missed : ¬(w.MissesPause ∨ w.KeepsUnlock) :=
      fun either => either.elim (fun missed => admitted missed.1.1) fun kept => admitted kept.1
    exact iff_of_true (neverSilentlyPaused_of_not_admitted write okText w admitted) missed

/-- Where nothing fails, clearing the limits on a live timer ends the unlock again. -/
theorem never_silently_paused_sample :
    let w := World.launched .live .none
    NeverSilentlyPaused w (after (guardedWrite pctlPlayTimerClear []) (.enter w)) :=
  (never_silently_paused_iff pctlPlayTimerClear [] (.launched .live .none)
    SetterCall.clear.temporarilyUnlocked_step).mpr (by decide)

/-- Parental controls are paused at entry and the first 1006 fails: they stay paused, and the
user is told that all is well. -/
theorem paused_silently :
    let w := World.launched (.sample .zero true) (.failing [.isRestrictionTemporaryUnlocked])
    ¬NeverSilentlyPaused w (after (guardedWrite pctlPlayTimerClear []) (.enter w)) :=
  fun never => (neverSilentlyPaused_of_writes pctlPlayTimerClear [] _ (by decide)
    SetterCall.clear.temporarilyUnlocked_step).mp never (by decide)

/-! ## Reporting what happened -/

/-- The message was shown, as a toast or as a dialog. -/
def App.Shows (app : App) (message : Message) : Prop :=
  .toast message ∈ app.shown ∨ .dialog message ∈ app.shown

/-- The message says that nothing was written, or refuses to write. -/
def Message.refuses : Message → Bool
  | .fwUnsupported .. | .needPin | .unlockFailed _ => true
  | _ => false

/-- The write was invoked and succeeded. -/
def App.Wrote (app : App) : Prop := ∃ v, (v, 0) ∈ app.writes

/-- The write was invoked and failed. -/
def App.FailedToWrite (app : App) : Prop := ∃ v rc, (v, rc) ∈ app.writes ∧ rFailed rc

/-- What a guarded write returned and showed agrees with what happened. -/
structure Truthful (okText : Text) (returned : Bool) (app : App) : Prop where
  /-- The write is invoked at most once. -/
  once : app.writes.length ≤ 1
  /-- The value returned says whether it succeeded. -/
  returned : returned = true ↔ app.Wrote
  /-- The caller's text is shown exactly if it succeeded. -/
  okText : app.Shows (.okText okText) ↔ app.Wrote
  /-- A refusal is shown only if the write was not invoked. -/
  refusal : ∀ message, message.refuses = true → app.Shows message → app.writes = []
  /-- The failure is shown exactly if there was one. -/
  writeFailed : (∃ rc, app.Shows (.writeFailed rc)) ↔ app.FailedToWrite
  /-- The dialog about the re-lock, which says that the settings were written, is shown only if
  they were. -/
  relockFailed : app.Shows .relockFailed → app.Wrote

/-- The write fails, and so does the re-lock after it: 1007 or 1006 does not get through, or 1006
still answers that parental controls are paused. -/
def World.FailsTwice (write : PctlM Result) (w : World) : Prop :=
  w.Writes ∧ w.Relocks ∧ rFailed (result write w.beforeWrite) ∧
    ¬(after write w.beforeWrite).Reverts

instance : Decidable (w.FailsTwice write) := inferInstanceAs (Decidable (_ ∧ _))

/-- What a refusal reports is what happened. -/
theorem truthful_of_refused {message : Message} (refuses : message.refuses = true) {app : App}
    (shown : app.shown = [.toast message] ∨ app.shown = [.dialog message])
    (none : app.writes = []) : Truthful okText false app := by
  have only : ∀ other, app.Shows other → other = message := by
    intro other shows
    unfold App.Shows at shows
    rcases shown with toast | dialog
    · simpa [toast] using shows
    · simpa [dialog] using shows
  have unwritten : ¬app.Wrote := by simp [App.Wrote, none]
  refine ⟨by simp [none], by simp [unwritten], ?_, fun _ _ _ => none, ?_, ?_⟩
  · refine iff_of_false (fun shows => ?_) unwritten
    rw [← only _ shows] at refuses
    cases refuses
  · refine iff_of_false (fun ⟨rc, shows⟩ => ?_) (by simp [App.FailedToWrite, none])
    rw [← only _ shows] at refuses
    cases refuses
  · intro shows
    rw [← only _ shows] at refuses
    cases refuses

/-- A guarded write that writes shows the outcome of the write, and the dialog if a re-lock was
not confirmed. -/
theorem shows_guardedWrite_of_writes (writes : w.Writes) (message : Message) :
    (after (guardedWrite write okText) (.enter w)).Shows message ↔
      (message = .relockFailed ∧ w.Relocks ∧
        result relockConfirmed (after write w.beforeWrite) = false) ∨
      message = if rFailed (result write w.beforeWrite)
        then .writeFailed (result write w.beforeWrite) else .okText okText := by
  unfold App.Shows
  rw [shown_guardedWrite_of_writes write okText w writes]
  by_cases lost : w.Relocks ∧ result relockConfirmed (after write w.beforeWrite) = false
  · simp [lost, or_comm]
  · simp [lost]

/-- What a guarded write that writes reports is what happened, unless the write and the
re-lock both fail. -/
theorem truthful_of_writes (writes : w.Writes) :
    Truthful okText (result (guardedWrite write okText) (.enter w))
      (after (guardedWrite write okText) (.enter w)) ↔ ¬w.FailsTwice write := by
  have returned := result_guardedWrite_of_writes write okText w writes
  have shows := shows_guardedWrite_of_writes write okText w writes
  have invoked := writes_guardedWrite write okText w
  rw [if_pos writes] at invoked
  have wrote : (after (guardedWrite write okText) (.enter w)).Wrote ↔
      result write w.beforeWrite = 0 := by
    simp [App.Wrote, invoked, eq_comm]
  have unconfirmed := not_congr (result_relockConfirmed (after write w.beforeWrite))
  rw [Bool.not_eq_true] at unconfirmed
  constructor
  · rintro truthful ⟨-, relocks, failed, lost⟩
    exact failed (wrote.mp (truthful.relockFailed
      ((shows _).mpr (.inl ⟨rfl, relocks, unconfirmed.mpr lost⟩))))
  · intro fine
    refine ⟨by simp [invoked], by rw [returned, wrote, decide_eq_true_iff], ?_, ?_, ?_, ?_⟩
    · rw [wrote, shows]
      by_cases failed : result write w.beforeWrite = 0 <;> simp [failed]
    · intro message refuses told
      rcases (shows message).mp told with ⟨rfl, -⟩ | rfl
      · cases refuses
      · split at refuses <;> cases refuses
    · simp only [shows, App.FailedToWrite, invoked]
      by_cases failed : result write w.beforeWrite = 0 <;> simp [failed]
    · intro told
      rcases (shows _).mp told with ⟨-, relocks, lost⟩ | outcome
      · rw [wrote]
        by_contra failed
        exact fine ⟨writes, relocks, failed, unconfirmed.mp lost⟩
      · split at outcome <;> cases outcome

/-- The guarded write reports what happened, exactly unless the write and the re-lock both
fail. -/
theorem truthful_iff :
    Truthful okText (result (guardedWrite write okText) (.enter w))
      (after (guardedWrite write okText) (.enter w)) ↔ ¬w.FailsTwice write := by
  by_cases writes : w.Writes
  · exact truthful_of_writes write okText w writes
  · refine iff_of_true ?_ fun fails => writes fails.1
    by_cases supported : pctlFwPlayTimerSupported w = true
    · by_cases admitted : w.Admitted
      · have refused : w.Refused := not_not.mp fun allowed => writes ⟨admitted, allowed⟩
        obtain ⟨returned, left⟩ := guardedWrite_of_refused write okText (.enter w) admitted refused
        rw [returned, left]
        exact truthful_of_refused okText rfl (.inl rfl) rfl
      · obtain ⟨returned, left⟩ := guardedWrite_of_no_pin write okText (.enter w) supported admitted
        rw [returned, left]
        exact truthful_of_refused okText rfl (.inr rfl) rfl
    · obtain ⟨returned, left⟩ := guardedWrite_of_unsupported write okText (.enter w) supported
      rw [returned, left]
      exact truthful_of_refused okText rfl (.inr rfl) rfl

/-- On a live timer, 195101 and then 1007 fail: the user is told that the new settings were
written. -/
theorem untruthful_relock :
    let w := World.launched .live
      (.failing [.setPlayTimerSettingsForDebug, .revertRestrictionTemporaryUnlocked])
    ¬Truthful [] (result (guardedWrite pctlPlayTimerClear []) (.enter w))
      (after (guardedWrite pctlPlayTimerClear []) (.enter w)) :=
  fun truthful => (truthful_of_writes pctlPlayTimerClear [] _ (by decide)).mp truthful (by decide)

end PctlManager
