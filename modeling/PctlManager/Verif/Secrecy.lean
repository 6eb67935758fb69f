import PctlManager.Verif.Disclosure
import PctlManager.Verif.Ui

/-!
# The screens do not depend on the digits

The service layer, the guarded write and the two play-timer screens on two consoles that differ
in nothing but the digits of the PIN. Every function returns the same on both, shows and logs the
same, and leaves consoles that differ as before. The record of the writes holds whole worlds,
and nothing reads it; so it is left out of the comparison.
-/

namespace PctlManager

open Stateful

variable {digits digits' : List UInt8}

/-! ## Requests that change the console -/

/-- What the sysmodule makes of a request that changes the console does not depend on which digits
the PIN has. -/
structure Sysmodule.ArmsBlindly (sys : Sysmodule) : Prop where
  /-- The flag that a 195101 write re-derives. -/
  rearm : ∀ {digits digits' : List UInt8} {c c' : Console},
    c.SameButDigits digits digits' c' → ∀ s, sys.rearm c' s = sys.rearm c s
  /-- What 1007 leaves of the temporary unlock. -/
  revertTemporaryUnlock : ∀ {digits digits' : List UInt8} {c c' : Console},
    c.SameButDigits digits digits' c' →
      sys.revertTemporaryUnlock c' = sys.revertTemporaryUnlock c

/-- Worlds that differ only in the digits, with a sysmodule that decides nothing by them. -/
def World.Alike (digits digits' : List UInt8) (w w' : World) : Prop :=
  w.Twin digits digits' w' ∧ w.sys.ArmsBlindly

/-- A computation that behaves alike in such worlds, and keeps the sysmodule, does so under the
stronger relation. -/
theorem alike_of_twin {α : Type} {m n : PctlM α} {V : α → α → Prop}
    (related : Related (World.Twin digits digits') V m n) (kept : Keeps World.sys m) :
    Related (World.Alike digits digits') V m n := by
  refine related.also fun w arms => ?_
  rw [kept w]
  exact arms

/-- A program of the service layer that behaves alike does so under the stronger relation. -/
theorem alike_of_built {α : Type} {m : PctlM α} {requests : Command → Prop}
    (same : Same (World.Twin digits digits') m) (built : Built requests m) :
    Same (World.Alike digits digits') m :=
  alike_of_twin same built.sys

/-- A request without the PIN as its input, that decides and changes alike on both consoles. -/
theorem same_request (command : Command) (input : List UInt8)
    {perform : Sysmodule → Console → Result × Console}
    (alike : ∀ w w' : World, w.Alike digits digits' w' →
      (perform w'.sys w'.console).1 = (perform w.sys w.console).1 ∧
        (perform w.sys w.console).2.SameButDigits digits digits' (perform w'.sys w'.console).2) :
    Same (World.Alike digits digits') (serviceDispatchIn command input perform) := by
  intro w w' both
  obtain ⟨served, performed⟩ := alike w w' both
  obtain ⟨⟨same, blind⟩, arms⟩ := both
  have verdict : w'.verdict command (perform w'.sys w'.console).1 =
      w.verdict command (perform w.sys w.console).1 := by
    rw [served]
    exact same.verdict command _
  refine ⟨verdict.symm, ⟨⟨same.hosversion, same.guard, ?_, same.sys, ?_, same.log⟩, blind⟩, arms⟩
  · change Console.SameButDigits digits digits'
      (if rSucceeded (w.verdict command (perform w.sys w.console).1) then _ else _)
      (if rSucceeded (w'.verdict command (perform w'.sys w'.console).1) then _ else _)
    rw [verdict]
    split
    · exact performed
    · exact same.console
  · exact congrArg (fun f : Faults => f.dispatched command) same.faults

/-! ## Queries -/

/-- Taking a reference on the session returns the same. -/
theorem same_pctlInitialize : Same (World.Twin digits digits') pctlInitialize := by
  intro w w' twin
  obtain ⟨same, blind⟩ := twin
  have opened : w'.guard.acquire w'.faults.acquire.head =
      w.guard.acquire w.faults.acquire.head := by
    rw [same.guard, same.faults]
  have code := congrArg Prod.fst opened
  have guard := congrArg Prod.snd opened
  have faults := congrArg (fun f : Faults => { f with acquire := f.acquire.tail }) same.faults
  exact ⟨code.symm, ⟨same.hosversion, guard, same.console, same.sys, faults, same.log⟩, blind⟩

/-- The status is the same: of the PIN it has the length. -/
theorem same_pctlStatusFetch : Same (World.Twin digits digits') pctlStatusFetch := by
  unfold pctlStatusFetch
  exact Same.bind (same_query_of_frame _ _ fun _ _ _ => rfl) fun _ =>
    Same.bind (same_query_of_frame _ _ fun _ _ _ => rfl) fun _ =>
      Same.bind (same_query_of_frame _ _ fun _ _ _ => rfl) fun _ => .pure _

/-- 1006 is the same. -/
theorem same_pctlIsTemporarilyUnlocked :
    Same (World.Twin digits digits') pctlIsTemporarilyUnlocked := by
  unfold pctlIsTemporarilyUnlocked
  exact Same.bind (same_query_of_frame _ _ fun _ _ _ => rfl) fun _ =>
    Same.ite (Same.bind (same_pctlLogf _) fun _ => .pure _) (.pure _)

/-- The stored settings are the same. -/
theorem same_readSettings : Same (World.Twin digits digits') readSettings := by
  unfold readSettings
  refine Related.get_bind fun w w' twin => ?_
  rw [twin.1.supported]
  exact Same.ite (Same.bind same_pctlOpsReinit fun _ =>
    same_query_of_frame _ _ fun _ _ _ => rfl) (.pure _)

/-- The snapshot is the same. -/
theorem same_pctlPlayTimerQuery : Same (World.Twin digits digits') pctlPlayTimerQuery := by
  unfold pctlPlayTimerQuery
  refine Related.get_bind fun w w' twin => ?_
  rw [twin.1.supported]
  refine Same.ite (Same.bind same_pctlOpsReinit fun _ => ?_) (.pure _)
  exact Same.bind (same_query_of_frame _ _ fun _ _ _ => rfl) fun _ =>
    Same.bind (same_query_of_frame _ _ fun _ _ _ => rfl) fun _ =>
      Same.bind (same_query_of_frame _ _ fun _ _ _ => rfl) fun _ =>
        Same.bind same_readSettings fun _ => Same.ite (.pure _) (.pure _)

/-- One of the getters of the alarm in force is the same. -/
theorem same_bedtimeGetter {α : Type} (command : Command) (initial : α)
    (answer : PtBedtime → α) : Same (World.Twin digits digits')
      (serviceDispatchOut command initial fun sys c => answer (sys.bedtimeAlarm c)) :=
  same_query command initial fun _ _ twin => congrArg answer twin.bedtimeAlarm

/-- The alarm in force is the same. -/
theorem same_pctlBedtimeReadback : Same (World.Twin digits digits') pctlBedtimeReadback := by
  unfold pctlBedtimeReadback
  refine Related.get_bind fun w w' twin => ?_
  rw [twin.1.supported]
  refine Same.ite (Same.bind same_pctlOpsReinit fun _ => ?_) (.pure _)
  -- Every getter gives up when it fails.
  refine Same.bind (same_bedtimeGetter _ _ _) fun _ => Same.ite (.pure _) ?_
  refine Same.bind (same_bedtimeGetter _ _ _) fun _ => Same.ite (.pure _) ?_
  refine Same.bind (same_bedtimeGetter _ _ _) fun _ => Same.ite (.pure _) ?_
  refine Same.bind (same_bedtimeGetter _ _ _) fun _ => Same.ite (.pure _) ?_
  exact Same.bind (same_bedtimeGetter _ _ _) fun _ => Same.ite (.pure _) (.pure _)

/-- A clock shows the same. -/
theorem same_timeGetCurrentTime (type : TimeType) :
    Same (World.Twin digits digits') (timeGetCurrentTime type) := by
  unfold timeGetCurrentTime
  refine Related.get_bind fun w w' twin => ?_
  have clock : w'.console.clock = w.console.clock := by rw [twin.1.console.others]
  rw [clock]
  exact Same.pure _

/-- The clocks are the same. -/
theorem same_clockStatus : Same (World.Twin digits digits') clockStatus :=
  Same.bind (same_timeGetCurrentTime _) fun _ =>
    Same.bind (same_timeGetCurrentTime _) fun _ => .pure _

/-- The labels above the main menu are the same. -/
theorem same_StatusPanel_refresh (available : Bool) :
    Same (World.Twin digits digits') (StatusPanel.refresh available) := by
  unfold StatusPanel.refresh
  refine Related.get_bind fun w w' twin => ?_
  have firmware : fmtFirmware w' = fmtFirmware w := by
    unfold fmtFirmware
    rw [twin.1.hosversion, twin.1.supported]
  rw [firmware]
  have clock : Same (World.Twin digits digits') fmtClock :=
    Same.bind same_clockStatus fun _ => .pure _
  exact Same.bind clock fun _ => Same.ite (.pure _) (Same.bind same_pctlStatusFetch fun _ =>
    Same.bind same_pctlPlayTimerQuery fun _ => .pure _)

/-! ## Requests -/

/-- Reopening the session. -/
theorem alike_pctlOpsReinit : Same (World.Alike digits digits') pctlOpsReinit := by
  have built : Built noRequest pctlOpsReinit := .reopen
  exact alike_of_built same_pctlOpsReinit built

/-- A line of the log. -/
theorem alike_pctlLogf (line : Text) : Same (World.Alike digits digits') (pctlLogf line) := by
  have built : Built noRequest (pctlLogf line) := .log line
  exact alike_of_built (same_pctlLogf line) built

/-- 1007 leaves the same on both consoles. -/
theorem World.Alike.reverted {w w' : World} (alike : w.Alike digits digits' w') :
    (w.sys.reverted w.console).SameButDigits digits digits' (w'.sys.reverted w'.console) := by
  obtain ⟨⟨same, blind⟩, arms⟩ := alike
  have console := same.console
  have left := arms.revertTemporaryUnlock console
  have kept : Console.SameButDigits digits digits'
      { w.console with temporarilyUnlocked := w.sys.revertTemporaryUnlock w.console }
      { w'.console with temporarilyUnlocked := w.sys.revertTemporaryUnlock w'.console } := by
    refine console.changed ⟨rfl, rfl⟩ ?_
    rw [left, console.others]
  rw [same.sys]
  exact kept.rederived blind

/-- 1007 is the same. -/
theorem same_pctlRevertTemporaryUnlock :
    Same (World.Alike digits digits') pctlRevertTemporaryUnlock := by
  have sent : Same (World.Alike digits digits')
      (serviceDispatch .revertRestrictionTemporaryUnlocked fun sys c => (0, sys.reverted c)) :=
    same_request _ _ fun _ _ both => ⟨rfl, both.reverted⟩
  unfold pctlRevertTemporaryUnlock
  exact Same.bind alike_pctlOpsReinit fun _ => Same.bind sent fun _ =>
    Same.bind (alike_pctlLogf _) fun _ => .pure _

/-- The same settings are stored on both consoles. -/
theorem World.Alike.stored {w w' : World} (alike : w.Alike digits digits' w') (s : PtSettings) :
    (setPlayTimerSettingsForDebug s w.sys w.console).2.SameButDigits digits digits'
      (setPlayTimerSettingsForDebug s w'.sys w'.console).2 := by
  obtain ⟨⟨same, blind⟩, arms⟩ := alike
  have console := same.console
  have length : w'.console.pinLength = w.console.pinLength := by rw [console.others]
  have armed := arms.rearm console s
  have wrote : Console.SameButDigits digits digits'
      { w.console with stored := { s with enabled := w.sys.rearm w.console s } }
      { w'.console with stored := { s with enabled := w.sys.rearm w'.console s } } := by
    refine console.changed ⟨rfl, rfl⟩ ?_
    rw [armed, console.others]
  change Console.SameButDigits digits digits' (if w.console.pinLength = 0 then _ else _)
    (if w'.console.pinLength = 0 then _ else _)
  rw [length, same.sys]
  split
  · exact console
  · exact wrote.rederived blind

/-- 195101 is the same. -/
theorem same_writeSettings (s : PtSettings) :
    Same (World.Alike digits digits') (writeSettings s) := by
  unfold writeSettings
  refine Related.get_bind fun w w' alike => ?_
  rw [alike.1.1.supported]
  refine Same.ite (Same.bind alike_pctlOpsReinit fun _ => Same.bind ?_ fun _ =>
    Same.bind (alike_pctlLogf _) fun _ => .pure _) (.pure _)
  exact same_request _ _ fun w w' alike => ⟨rfl, alike.stored s⟩

/-- A setter is the same. -/
theorem same_patchSettings (edit : PtSettings → PtSettings) :
    Same (World.Alike digits digits') (patchSettings edit) := by
  have read : Same (World.Alike digits digits') readSettings :=
    alike_of_built same_readSettings built_readSettings
  have begun : Same (World.Alike digits digits') beginPatch :=
    Same.bind read fun _ => Same.ite (.pure _) (.pure _)
  exact Same.bind begun fun _ => Same.ite (.pure _) (same_writeSettings _)

/-- A clock is set alike. -/
theorem same_timeSetCurrentTime (answer : Result) (type : TimeType) (now : UInt64) :
    Same (World.Alike digits digits') (timeSetCurrentTime answer type now) := by
  have set : Same (World.Alike digits digits') (modify fun w : World =>
      { w with console.clock := Function.update w.console.clock type (0, now) }) := by
    refine Related.modified fun w w' alike => ?_
    obtain ⟨⟨same, blind⟩, arms⟩ := alike
    refine ⟨⟨⟨same.hosversion, same.guard, ?_, same.sys, same.faults, same.log⟩, blind⟩, arms⟩
    refine same.console.changed ⟨rfl, rfl⟩ ?_
    rw [same.console.others]
  unfold timeSetCurrentTime
  exact Same.ite (Same.bind set fun _ => .pure _) (Same.bind (.pure _) fun _ => .pure _)

/-- Seeding the network clock is the same. -/
theorem same_clockSeed (answer : Result) :
    Same (World.Alike digits digits') (clockSeedNetworkFromUser answer) := by
  have kept : Keeps World.sys (timeGetCurrentTime .userSystemClock) := fun _ => rfl
  have read : Same (World.Alike digits digits') (timeGetCurrentTime .userSystemClock) :=
    alike_of_twin (same_timeGetCurrentTime _) kept
  have told (now : UInt64) (rc : Result) : Same (World.Alike digits digits') (do
      pctlLogf (seedLine now rc)
      pure rc) := Same.bind (alike_pctlLogf _) fun _ => .pure _
  unfold clockSeedNetworkFromUser
  exact Same.bind read fun now => Same.ite
    (Same.bind (same_timeSetCurrentTime _ _ _) fun _ => told _ _)
    (Same.bind (.pure _) fun _ => told _ _)

/-! ## The guarded write -/

/-- The user has been shown the same, on worlds that differ only in the digits. -/
def App.Alike (digits digits' : List UInt8) (a a' : App) : Prop :=
  a.world.Alike digits digits' a'.world ∧ a'.shown = a.shown

/-- A call of the service layer that is the same. -/
theorem same_pctl {α : Type} {m : PctlM α} (same : Same (World.Alike digits digits') m) :
    Same (App.Alike digits digits') (pctl m) :=
  same.zoom App.worldPart (fun _ _ alike => alike.1) fun _ _ alike _ _ worlds => ⟨worlds, alike.2⟩

/-- A query that is the same. -/
theorem same_ask {α : Type} {m : PctlM α} (same : Same (World.Twin digits digits') m)
    (built : Built noRequest m) : Same (App.Alike digits digits') (pctl m) :=
  same_pctl (alike_of_built same built)

/-- The snapshot. -/
theorem same_askTimer : Same (App.Alike digits digits') (pctl pctlPlayTimerQuery) :=
  same_ask same_pctlPlayTimerQuery built_pctlPlayTimerQuery

/-- The labels of the header. -/
theorem same_askHeader : Same (App.Alike digits digits') (pctl PtStateHeader.refresh) :=
  same_ask (Same.bind same_pctlPlayTimerQuery fun _ => .pure _) built_PtStateHeader_refresh

/-- The same is shown. -/
theorem same_showing (more : Notice) : Same (App.Alike digits digits')
    (modify fun app : App => { app with shown := more :: app.shown }) :=
  Related.modified fun _ _ alike => ⟨alike.1, congrArg (more :: ·) alike.2⟩

/-- The write closure is called on both. -/
theorem same_invoke {write : PctlM Result} (same : Same (World.Alike digits digits') write) :
    Same (App.Alike digits digits') (invoke write) := by
  intro a a' alike
  obtain ⟨code, left⟩ := same _ _ alike.1
  exact ⟨code, left, alike.2⟩

/-- The re-lock is the same. -/
theorem same_relockConfirmed : Same (World.Alike digits digits') relockConfirmed := by
  have still : Same (World.Alike digits digits') pctlIsTemporarilyUnlocked :=
    alike_of_built same_pctlIsTemporarilyUnlocked built_pctlIsTemporarilyUnlocked
  exact Same.bind same_pctlRevertTemporaryUnlock fun _ =>
    Same.ite (Same.bind still fun _ => .pure _) (.pure _)

/-- The write with its re-lock is the same. -/
theorem same_writeAndRelock {write : PctlM Result} (okText : Text) (relock : Bool)
    (same : Same (World.Alike digits digits') write) :
    Same (App.Alike digits digits') (writeAndRelock write okText relock) := by
  have told (rc : Result) (relocked : Bool) : Same (App.Alike digits digits') (do
      notify (if rFailed rc then .writeFailed rc else .okText okText)
      if relocked = false then showDialog .relockFailed else pure ()
      pure (decide (rSucceeded rc))) :=
    Same.bind (same_showing _) fun _ => Same.ite (Same.bind (same_showing _) fun _ => .pure _)
      (Same.bind (.pure _) fun _ => .pure _)
  unfold writeAndRelock
  exact Same.bind (same_invoke same) fun rc => Same.ite
    (Same.bind (same_pctl same_relockConfirmed) fun relocked => told rc relocked)
    (Same.bind (.pure _) fun relocked => told rc relocked)

/-- The unlock. -/
theorem same_askUnlock : Same (App.Alike digits digits') (pctl pctlUnlockRestrictionTemporarily) :=
  same_pctl (alike_of_built same_pctlUnlockRestrictionTemporarily
    built_pctlUnlockRestrictionTemporarily)

/-- The guarded write is the same. -/
theorem same_guardedWrite {write : PctlM Result} (okText : Text)
    (same : Same (World.Alike digits digits') write) :
    Same (App.Alike digits digits') (guardedWrite write okText) := by
  have refused (notice : Notice) : Same (App.Alike digits digits') (do
      modify fun app : App => { app with shown := notice :: app.shown }
      pure false) := Same.bind (same_showing notice) fun _ => .pure _
  have status : Same (App.Alike digits digits') (pctl pctlStatusFetch) :=
    same_ask same_pctlStatusFetch built_pctlStatusFetch
  have paused : Same (App.Alike digits digits') (pctl pctlIsTemporarilyUnlocked) :=
    same_ask same_pctlIsTemporarilyUnlocked built_pctlIsTemporarilyUnlocked
  have reverted : Same (App.Alike digits digits') (do
      let _ ← pctl pctlRevertTemporaryUnlock
      pure false) := Same.bind (same_pctl same_pctlRevertTemporaryUnlock) fun _ => .pure _
  unfold guardedWrite
  refine Related.get_bind fun a a' alike => ?_
  rw [alike.1.1.1.supported, alike.1.1.1.hosversion]
  refine Same.ite ?_ (refused _)
  refine Same.bind status fun _ => Same.ite (refused _) (Same.bind same_askTimer fun _ => ?_)
  -- A live timer is paused first; a paused one is paused again afterwards.
  refine Same.ite (Same.bind same_askUnlock fun _ => Same.bind same_askTimer fun _ => ?_)
    (Same.bind paused fun _ => same_writeAndRelock okText _ same)
  exact Same.ite (Same.bind (same_showing _) fun _ => Same.ite reverted (.pure _))
    (same_writeAndRelock okText _ same)

/-! ## The users -/

/-- Two users who answer every keyboard alike that is not for a PIN. -/
def Typist.Alike (typist typist' : Typist) : Prop :=
  ∀ config, config.password = false → typist' config = typist config

/-- Users alike enter the same minutes. -/
theorem Typist.Alike.promptMinutes {typist typist' : Typist} (alike : typist.Alike typist')
    (header : Text) (current : UInt16) :
    PctlManager.promptMinutes header current typist' =
      PctlManager.promptMinutes header current typist := by
  unfold PctlManager.promptMinutes
  rw [alike _ rfl]

/-! ## The play-timer screen -/

/-- The screens show the same, on worlds that differ only in the digits. -/
def PlayTimerActivity.Alike (digits digits' : List UInt8) (s s' : PlayTimerActivity) : Prop :=
  s.app.Alike digits digits' s'.app ∧ s'.header = s.header ∧ s'.detailText = s.detailText ∧
    s'.popups = s.popups

/-- A call of the UI that is the same. -/
theorem same_onApp {α : Type} {m : AppM α} (same : Same (App.Alike digits digits') m) :
    Same (PlayTimerActivity.Alike digits digits') (onApp m) :=
  same.zoom PlayTimerActivity.appPart (fun _ _ alike => alike.1)
    fun _ _ alike _ _ apps => ⟨apps, alike.2⟩

/-- The snapshot on the screen. -/
theorem same_screenTimer :
    Same (PlayTimerActivity.Alike digits digits') (onApp (pctl pctlPlayTimerQuery)) :=
  same_onApp same_askTimer

/-- The same dialog opens. -/
theorem same_popup (p : Popup) : Same (PlayTimerActivity.Alike digits digits') (popup p) :=
  Related.modified fun _ _ alike =>
    ⟨alike.1, alike.2.1, alike.2.2.1, congrArg (p :: ·) alike.2.2.2⟩

/-- The header above the screen is the same. -/
theorem same_refreshHeader :
    Same (PlayTimerActivity.Alike digits digits') PlayTimerActivity.refreshHeader :=
  Same.bind (same_onApp same_askHeader) fun _ =>
    Related.modified fun _ _ alike => ⟨alike.1, rfl, alike.2.2⟩

/-- The screen refreshes alike. -/
theorem same_refreshAll :
    Same (PlayTimerActivity.Alike digits digits') PlayTimerActivity.refreshAll := by
  have labelled (text : Text) : Same (PlayTimerActivity.Alike digits digits')
      (modify fun s : PlayTimerActivity => { s with detailText := text }) :=
    Related.modified fun _ _ alike => ⟨alike.1, alike.2.1, rfl, alike.2.2.2⟩
  exact Same.bind same_refreshHeader fun _ => Same.bind same_screenTimer fun _ => labelled _

/-- A guarded write of a setter on the screen, with what follows it. -/
theorem same_writing (edit : PtSettings → PtSettings) (okText : Text) :
    Same (PlayTimerActivity.Alike digits digits')
      (onApp (guardedWrite (patchSettings edit) okText)) :=
  same_onApp (same_guardedWrite okText (same_patchSettings edit))

/-- Writing the alarm is the same. -/
theorem same_writeBedtime (bed : PtBedtime) :
    Same (PlayTimerActivity.Alike digits digits') (writeBedtime bed) := by
  have readback : Same (PlayTimerActivity.Alike digits digits')
      (onApp (pctl pctlBedtimeReadback)) :=
    same_onApp (same_ask same_pctlBedtimeReadback built_pctlBedtimeReadback)
  have logged (line : Text) : Same (PlayTimerActivity.Alike digits digits')
      (onApp (pctl (pctlLogf line))) := same_onApp (same_pctl (alike_pctlLogf line))
  unfold writeBedtime
  refine Same.bind (same_writing _ _) fun _ => Same.ite (.pure _) (Same.bind readback fun _ => ?_)
  exact Same.ite (.pure _) (Same.bind (logged _) fun _ => Same.ite (same_popup _) (.pure _))

/-- Editing the alarm is the same. -/
theorem same_editBedtimeAlarm (typists : List Typist) :
    Same (PlayTimerActivity.Alike digits digits') (editBedtimeAlarm typists) := by
  unfold editBedtimeAlarm
  refine Same.bind same_screenTimer fun pt => ?_
  split
  · exact same_writeBedtime _
  · exact .pure _

/-- The number pad of all days offers the same. -/
theorem same_guessUniformSeed : Same (App.Alike digits digits') guessUniformSeed :=
  Same.bind same_askTimer fun _ => Same.ite (.pure _) (Same.ite (.pure _) (.pure _))

/-- The cell of all days is the same. -/
theorem related_pressSetAll {typist typist' : Typist} (alike : typist.Alike typist') :
    Related (PlayTimerActivity.Alike digits digits') Eq (PlayTimerActivity.pressSetAll typist)
      (PlayTimerActivity.pressSetAll typist') := by
  have same : PlayTimerActivity.pressSetAll typist' = PlayTimerActivity.pressSetAll typist := by
    unfold PlayTimerActivity.pressSetAll
    simp only [alike.promptMinutes]
  rw [same]
  unfold PlayTimerActivity.pressSetAll
  refine Same.bind (same_onApp same_guessUniformSeed) fun seed => ?_
  split
  · exact .pure _
  · exact Same.bind (same_writing _ _) fun _ => same_refreshAll

/-- The cell of the mode is the same. -/
theorem same_pressMode :
    Same (PlayTimerActivity.Alike digits digits') PlayTimerActivity.pressMode :=
  Same.bind same_screenTimer fun _ => Same.ite (same_popup _) (same_popup _)

/-- A button of the mode's dialog is the same. -/
theorem same_chooseMode (mode : UInt8) (okText : Text) :
    Same (PlayTimerActivity.Alike digits digits') (PlayTimerActivity.chooseMode mode okText) :=
  Same.bind (same_writing _ _) fun _ => same_refreshAll

/-- The cell of the alarm is the same. -/
theorem same_pressBedtime :
    Same (PlayTimerActivity.Alike digits digits') PlayTimerActivity.pressBedtime :=
  Same.bind same_screenTimer fun _ => same_popup _

/-- The removal is the same. -/
theorem same_confirmRemove :
    Same (PlayTimerActivity.Alike digits digits') PlayTimerActivity.confirmRemove :=
  Same.bind (same_writing _ _) fun _ => same_refreshAll

/-! ## The per-day editor -/

/-- The editors show the same, with the same last read and the same staged, on worlds that differ
only in the digits. -/
structure PerDay.Alike (digits digits' : List UInt8) (e e' : PerDay) : Prop where
  /-- The UI below. -/
  app : e.app.Alike digits digits' e'.app
  /-- The same header. -/
  header : e'.header = e.header
  /-- The same labels of the days. -/
  dayLabels : e'.dayLabels = e.dayLabels
  /-- The same last read. -/
  live : e'.live = e.live
  /-- The same staged. -/
  pending : e'.pending = e.pending

/-- A call of the UI that is the same. -/
theorem same_ui {α : Type} {m : AppM α} (same : Same (App.Alike digits digits') m) :
    Same (PerDay.Alike digits digits') (ui m) :=
  same.zoom PerDay.appPart (fun _ _ alike => alike.app)
    fun _ _ alike _ _ apps => { alike with app := apps }

/-- The labels of the days are rendered alike. -/
theorem same_rerenderDayLabels :
    Same (PerDay.Alike digits digits') PerDay.rerenderDayLabels := by
  refine Related.modified fun e e' alike => ?_
  have shown : e'.dayLabel = e.dayLabel := by
    unfold PerDay.dayLabel
    rw [alike.live, alike.pending]
  exact { alike with dayLabels := shown }

/-- What is visible is refreshed alike. -/
theorem same_refreshVisible : Same (PerDay.Alike digits digits') PerDay.refreshVisible := by
  have header : Same (PerDay.Alike digits digits') PerDay.refreshHeader :=
    Same.bind (same_ui same_askHeader) fun _ =>
      Related.modified fun _ _ alike => { alike with header := rfl }
  exact Same.bind header fun _ => same_rerenderDayLabels

/-- The editor reloads alike. -/
theorem same_reloadFromService : Same (PerDay.Alike digits digits') PerDay.reloadFromService := by
  have reseeded (pt : PtState) : Same (PerDay.Alike digits digits')
      (modify fun e : PerDay => { e with live := pt, pending := pt.dayMin }) :=
    Related.modified fun _ _ alike => { alike with live := rfl, pending := rfl }
  exact Same.bind (same_ui same_askTimer) fun _ => reseeded _

/-- The editor comes up alike. -/
theorem same_PerDay_onContentAvailable :
    Same (PerDay.Alike digits digits') PerDay.onContentAvailable :=
  Same.bind same_reloadFromService fun _ => same_refreshVisible

/-- A value is staged alike. -/
theorem same_staged (d : Day) (value : UInt16) : Same (PerDay.Alike digits digits') (do
    modify fun e : PerDay => { e with pending := Function.update e.pending d value }
    PerDay.rerenderDayLabels) := by
  refine Same.bind (Related.modified fun _ _ alike => ?_) fun _ => same_rerenderDayLabels
  exact { alike with pending := congrArg (Function.update · d value) alike.pending }

/-- Minutes are staged alike. -/
theorem related_stageMinutes (d : Day) {typist typist' : Typist} (alike : typist.Alike typist') :
    Related (PerDay.Alike digits digits') Eq (PerDay.stageMinutes d typist)
      (PerDay.stageMinutes d typist') := by
  unfold PerDay.stageMinutes
  refine Related.get_bind fun e e' editors => ?_
  have prompted : promptedMinutes e'.pending d typist' = promptedMinutes e.pending d typist := by
    unfold promptedMinutes
    rw [editors.pending, alike.promptMinutes]
  rw [prompted]
  split
  · exact Same.pure ()
  · exact same_staged d _

/-- Saving is the same. -/
theorem same_doSave : Same (PerDay.Alike digits digits') PerDay.doSave := by
  have reread (pt : PtState) : Same (PerDay.Alike digits digits')
      (modify fun e : PerDay => { e with live := pt }) :=
    Related.modified fun _ _ alike => { alike with live := rfl }
  unfold PerDay.doSave
  refine Related.get_bind fun e e' alike => ?_
  have changed : e'.changed = e.changed := by
    unfold PerDay.changed
    rw [alike.live, alike.pending]
  rw [changed, alike.pending]
  refine Same.ite (Same.bind (same_ui (same_guardedWrite _ (same_patchSettings _))) fun ok => ?_)
    (same_ui (same_showing _))
  exact Same.ite (Same.bind same_reloadFromService fun _ => same_refreshVisible)
    (Same.bind (same_ui same_askTimer) fun _ => Same.bind (reread _) fun _ => same_refreshVisible)

end PctlManager
