import PctlManager.PlayTimer

/-!
# The guarded write

`pt_flow::guarded_write`, the one path every play-timer write goes through. The state of the
UI adds two recorders to the world: what the user has been shown, and the worlds in which the
write closure was invoked together with its results. Nothing reads them.
-/

namespace PctlManager

open Stateful

/-- The texts that a write shows, most of them under their translation keys. -/
inductive Message
  /-- `play_timer/fw_unsupported`: … Nothing was written. -/
  | fwUnsupported (major minor micro : UInt32)
  /-- `play_timer/need_pin`: Set a parental-control PIN first … -/
  | needPin
  /-- `play_timer/unlock_failed`: Could not pause parental controls … Nothing was written. -/
  | unlockFailed (rc : Result)
  /-- `play_timer/write_failed`: Failed to write the play timer … -/
  | writeFailed (rc : Result)
  /-- `play_timer/relock_failed`: The new settings were written, but parental controls could
  not be switched back on automatically. On the HOME menu, … -/
  | relockFailed
  /-- The text the caller passed for success. -/
  | okText (text : Text)
  /-- No changes to save. -/
  | noChanges
deriving DecidableEq

/-- How a message reaches the user. -/
inductive Notice
  /-- `brls::Application::notify`. -/
  | toast (message : Message)
  /-- `show_dialog`. -/
  | dialog (message : Message)
deriving DecidableEq

/-- The UI above the service layer. -/
structure App where
  /-- The console and the session. -/
  world : World
  /-- What the user has been shown, latest first. -/
  shown : List Notice
  /-- The worlds in which the write closure was invoked, with its results, latest first. -/
  writes : List (World × Result)

/-- A computation of the UI. -/
abbrev AppM := StateM App

/-- The service layer below the UI. -/
def App.worldPart : Part App World where
  view app := app.world
  update app world := { app with world }
  view_update _ _ := rfl

/-- A call of the service layer from the UI. -/
def pctl {α : Type} (m : PctlM α) : AppM α := zoom App.worldPart m

/-- `brls::Application::notify`. -/
def notify (message : Message) : AppM Unit :=
  modify fun app => { app with shown := .toast message :: app.shown }

/-- `show_dialog`. -/
def showDialog (message : Message) : AppM Unit :=
  modify fun app => { app with shown := .dialog message :: app.shown }

/-- The call `write()`. -/
def invoke (write : PctlM Result) : AppM Result := fun app =>
  let rc := result write app.world
  (rc, { app with world := after write app.world, writes := (app.world, rc) :: app.writes })

/-- The re-lock of `guarded_write`: 1007, then 1006 has to answer false. -/
def relockConfirmed : PctlM Bool := do
  let rrc ← pctlRevertTemporaryUnlock
  if rSucceeded rrc then
    let still ← pctlIsTemporarilyUnlocked
    pure (rSucceeded still.rc ∧ still.out = false)
  else pure false

/-- `guarded_write` from `Result rc = write();` on. -/
def writeAndRelock (write : PctlM Result) (okText : Text) (relock : Bool) : AppM Bool := do
  let rc ← invoke write
  let relocked ← if relock then pctl relockConfirmed else pure true
  notify (if rFailed rc then .writeFailed rc else .okText okText)
  if relocked = false then showDialog .relockFailed else pure ()
  pure (rSucceeded rc)

/-- `pt_flow::guarded_write`. -/
def guardedWrite (write : PctlM Result) (okText : Text) : AppM Bool := do
  let app ← get
  if pctlFwPlayTimerSupported app.world then
    let st ← pctl pctlStatusFetch
    if st.pinLengthOk = false ∨ st.pinLength = 0 then
      showDialog .needPin
      pure false
    else
      let pt ← pctl pctlPlayTimerQuery
      if pt.enabled ∨ pt.restricted then
        let urc ← pctl pctlUnlockRestrictionTemporarily
        let later ← pctl pctlPlayTimerQuery
        if rFailed urc ∨ later.enabled then
          -- Don't risk writing while the timer is still live.
          notify (.unlockFailed urc)
          if rSucceeded urc then
            let _ ← pctl pctlRevertTemporaryUnlock
            pure false
          else pure false
        else writeAndRelock write okText true
      else
        -- Already paused: the new settings wouldn't apply until controls are back on.
        let paused ← pctl pctlIsTemporarilyUnlocked
        writeAndRelock write okText (rSucceeded paused.rc ∧ paused.out = true)
  else
    let hv := app.world.hosversion
    showDialog (.fwUnsupported (hosverMajor hv) (hosverMinor hv) (hosverMicro hv))
    pure false

end PctlManager
