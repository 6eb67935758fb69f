import PctlManager.Verif.Promises

/-!
# A setter inside the guarded write

Every write of the tool is a setter that `guarded_write` calls. It stores something exactly when
the guarded write gets as far as the write and the setter gets through there (`World.Stores`);
then the registers are the register write, and otherwise nothing is stored. What it sends is one
195101 of the setter, once the settings were read there, and no other (`sent_guarded`).
-/

namespace PctlManager

open Stateful Spec

/-- The guarded write gets as far as the write, and a setter gets through there. -/
def World.Stores (w : World) : Prop :=
  w.Writes ∧ w.beforeWrite.Reaches 1 .getPlayTimerSettings 0 ∧
    w.beforeWrite.Reaches 2 .setPlayTimerSettingsForDebug 0

instance (w : World) : Decidable w.Stores := inferInstanceAs (Decidable (_ ∧ _))

namespace SetterCall

variable (call : SetterCall) (okText : Text) (app : App)

/-- Where the guarded write gets as far as the write, the setter succeeds if it gets
through. -/
theorem succeeds_beforeWrite {w : World} (writes : w.Writes) :
    call.Succeeds w.beforeWrite ↔ w.Stores := by
  unfold Succeeds World.Stores
  rw [call.perform_eq, result_patchSettings, supported_beforeWrite]
  simp [writes, writes.1.1]

/-- The guarded write of a setter returns true exactly when it stores something. -/
theorem result_guarded :
    result (guardedWrite call.perform okText) app = true ↔ app.world.Stores := by
  by_cases writes : app.world.Writes
  · rw [result_guardedWrite_of_app _ okText app writes, ← call.succeeds_beforeWrite writes]
    exact decide_eq_true_iff
  · rw [(guardedWrite_of_not_writes _ okText app writes).1]
    exact iff_of_false Bool.false_ne_true fun stores => writes stores.1

/-- The guarded write leaves what the setter stored. -/
theorem stored_guarded (writes : app.world.Writes) :
    (after (guardedWrite call.perform okText) app).world.console.stored =
      (step app.world.beforeWrite call).console.stored := by
  rw [world_guardedWrite_of_app _ okText app writes]
  split
  · exact stored_relockConfirmed _
  · rfl

/-- A guarded write that stores something is the register write. -/
theorem registersOf_guarded (stores : app.world.Stores) :
    registersOf (after (guardedWrite call.perform okText) app).world.console.stored =
      call.spec (registersOf app.world.console.stored) := by
  have succeeded := (call.succeeds_beforeWrite stores.1).mpr stores
  have refined := (call.step_refines _ (pinLength_beforeWrite stores.1) succeeded).1
  rw [call.stored_guarded okText app stores.1, refined, stored_beforeWrite stores.1]

/-- A guarded write that does not store anything leaves the settings as they were. -/
theorem stored_guarded_of_not_stores (kept : ¬app.world.Stores) :
    (after (guardedWrite call.perform okText) app).world.console.stored =
      app.world.console.stored := by
  by_cases writes : app.world.Writes
  · have failed := mt (call.succeeds_beforeWrite writes).mp kept
    unfold Succeeds at failed
    rw [call.stored_guarded okText app writes]
    unfold step
    rw [call.perform_eq] at failed ⊢
    rw [console_patchSettings, if_neg failed, stored_beforeWrite writes]
  · exact (guardedWrite_of_not_writes _ okText app writes).2

end SetterCall

/-! ## What is sent -/

/-- What a 195101 sends and what comes of it, if the event is one. -/
def Event.write? : Event → Option (List UInt8 × Result)
  | .dispatch .setPlayTimerSettingsForDebug input rc => some (input, rc)
  | _ => none

/-- Every 195101 so far, latest first. -/
def World.sent (w : World) : List (List UInt8 × Result) := w.trace.filterMap Event.write?

/-- An operation of other commands sends no 195101. -/
theorem Built.sends_none {requests : Command → Prop} {α : Type} {m : PctlM α}
    (built : Built requests m) (other : ¬requests .setPlayTimerSettingsForDebug) :
    Keeps World.sent m := by
  refine built.keeps fun α m step => ?_
  have quiet (command : Command) (input : List UInt8) (rc : Result)
      (differs : command ≠ .setPlayTimerSettingsForDebug) :
      (Event.dispatch command input rc).write? = none := by
    cases command <;> first | rfl | exact absurd rfl differs
  cases step with
  | get => exact fun _ => rfl
  | reopen => exact fun _ => rfl
  | log line => exact fun _ => rfl
  | @query _ command initial answer asks =>
    intro w
    have differs : command ≠ .setPlayTimerSettingsForDebug := fun same => by
      subst same
      cases asks
    exact List.filterMap_cons_none (quiet command [] (w.verdict command 0) differs)
  | @request command input perform sent =>
    intro w
    have differs : command ≠ .setPlayTimerSettingsForDebug := fun same => other (same ▸ sent)
    exact List.filterMap_cons_none (quiet command input _ differs)

/-- The unlock and the snapshots around it send no 195101. -/
theorem World.sent_unlocked (w : World) : w.queried.sent = w.sent ∧ w.unlocked.sent = w.sent := by
  have queried : w.queried.sent = w.sent :=
    (built_pctlPlayTimerQuery.sends_none id _).trans (built_pctlStatusFetch.sends_none id w)
  have unlocked : w.unlocked.sent = w.queried.sent :=
    (built_pctlPlayTimerQuery.sends_none id _).trans
      (built_pctlUnlockRestrictionTemporarily.sends_none nofun w.queried)
  exact ⟨queried, unlocked.trans queried⟩

/-- The steps before the write send no 195101. -/
theorem World.sent_beforeWrite (w : World) : w.beforeWrite.sent = w.sent := by
  unfold World.beforeWrite
  split
  · exact w.sent_unlocked.2
  · exact (built_pctlIsTemporarilyUnlocked.sends_none id w.queried).trans w.sent_unlocked.1

/-- A refusal sends no 195101. -/
theorem World.sent_refused (w : World) : w.refused.sent = w.sent := by
  unfold World.refused
  split
  · exact (built_pctlRevertTemporaryUnlock.sends_none nofun w.unlocked).trans w.sent_unlocked.2
  · exact w.sent_unlocked.2

namespace SetterCall

variable (call : SetterCall)

/-- What the setter sends, and what comes of it: the patched settings, once the stored ones were
read. -/
def sends (w : World) : Option (List UInt8 × Result) :=
  if pctlFwPlayTimerSupported w = true ∧ w.Reaches 1 .getPlayTimerSettings 0 then
    some ((call.written w.console.stored).bytes, result call.perform w)
  else none

/-- A setter sends what it says and no other 195101. -/
theorem sent_perform (w : World) :
    (after call.perform w).sent = (call.sends w).toList ++ w.sent := by
  have reads := rc_readSettings w
  have returned : result call.perform w = result (patchSettings call.edit) w := by
    rw [call.perform_eq]
  unfold sends
  rw [returned, call.perform_eq]
  by_cases supported : pctlFwPlayTimerSupported w = true
  · by_cases read : (result readSettings w).rc = 0
    · obtain ⟨opened, reopened, trace⟩ := trace_of_read call.edit w supported read
      unfold World.sent
      rw [trace, if_pos (reads.mp read)]
      exact rfl
    · obtain ⟨opened, trace⟩ := trace_of_unread call.edit w supported read
      unfold World.sent
      rw [trace, if_neg (mt reads.mpr read)]
      exact rfl
  · rw [(patchSettings_of_unsupported call.edit w supported).2,
      if_neg fun both => supported both.1]
    exact rfl

/-- The guarded write sends what the setter sends, if it gets as far as the write, and no other
195101. -/
theorem sent_guarded (okText : Text) (app : App) :
    (after (guardedWrite call.perform okText) app).world.sent =
      (if app.world.Writes then (call.sends app.world.beforeWrite).toList else []) ++
        app.world.sent := by
  by_cases writes : app.world.Writes
  · have wrote := call.sent_perform app.world.beforeWrite
    rw [world_guardedWrite_of_app _ okText app writes, if_pos writes, ← app.world.sent_beforeWrite,
      ← wrote]
    split
    · exact built_relockConfirmed.sends_none nofun _
    · exact rfl
  · rw [if_neg writes, List.nil_append]
    by_cases supported : pctlFwPlayTimerSupported app.world = true
    · by_cases admitted : app.world.Admitted
      · have stopped : app.world.Refused := not_not.mp fun allowed => writes ⟨admitted, allowed⟩
        rw [(guardedWrite_of_refused _ okText app admitted stopped).2]
        exact app.world.sent_refused
      · rw [(guardedWrite_of_no_pin _ okText app supported admitted).2]
        exact built_pctlStatusFetch.sends_none id app.world
    · rw [(guardedWrite_of_unsupported _ okText app supported).2]

/-- Where the guarded write gets as far as the write, the setter sends the patch of what was stored
before, if it can read it there. -/
theorem sends_beforeWrite {w : World} (writes : w.Writes) : call.sends w.beforeWrite =
    if w.beforeWrite.Reaches 1 .getPlayTimerSettings 0 then
      some ((call.written w.console.stored).bytes, result call.perform w.beforeWrite)
    else none := by
  have supported : pctlFwPlayTimerSupported w.beforeWrite = true := by
    rw [supported_beforeWrite]
    exact writes.1.1
  unfold sends
  rw [stored_beforeWrite writes]
  by_cases read : w.beforeWrite.Reaches 1 .getPlayTimerSettings 0
  · rw [if_pos ⟨supported, read⟩, if_pos read]
  · rw [if_neg fun both => read both.2, if_neg read]

/-- The guarded write sends one 195101 with the patch of what was stored, if it gets as far as the
write and can read the settings there, and none otherwise. -/
theorem sent_guarded_stored (okText : Text) (app : App) :
    (after (guardedWrite call.perform okText) app).world.sent =
      (if app.world.Writes ∧ app.world.beforeWrite.Reaches 1 .getPlayTimerSettings 0 then
        [((call.written app.world.console.stored).bytes,
          result call.perform app.world.beforeWrite)]
      else []) ++ app.world.sent := by
  have sends := call.sent_guarded okText app
  by_cases writes : app.world.Writes
  · rw [if_pos writes, call.sends_beforeWrite writes] at sends
    by_cases read : app.world.beforeWrite.Reaches 1 .getPlayTimerSettings 0
    · rw [if_pos read] at sends
      rw [if_pos ⟨writes, read⟩]
      exact sends
    · rw [if_neg read] at sends
      rw [if_neg fun both => read both.2]
      exact sends
  · rw [if_neg writes] at sends
    rw [if_neg fun both => writes both.1]
    exact sends

end SetterCall

end PctlManager
