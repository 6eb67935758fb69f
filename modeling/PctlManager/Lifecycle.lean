import PctlManager.Report

/-!
# The life of the app

`app::init` and `app::shutdown` keep whether the service could be opened in two statics next to
the world. If it could not, the tool runs no operation: `run` only shows the error.
-/

namespace PctlManager

open Stateful

/-- The process: the world with the statics of `app.cpp`. -/
structure Process where
  /-- The console and the session. -/
  world : World
  /-- `s_ok` — the service could be opened. -/
  ok : Bool
  /-- `s_init_result` — the result of opening it. -/
  initResult : UInt32

/-- The service layer below the process. -/
def Process.worldPart : Part Process World where
  view p := p.world
  update p world := { p with world }
  view_update _ _ := rfl

/-- `app::init`. -/
def appInit : StateM Process Bool := do
  let rc ← zoom Process.worldPart pctlOpsInit
  modify fun p => { p with initResult := rc, ok := rSucceeded rc }
  pure (rSucceeded rc)

/-- `app::shutdown`. -/
def appShutdown : StateM Process Unit := do
  let p ← get
  if p.ok then zoom Process.worldPart pctlOpsExit else pure ()
  modify fun p => { p with ok := false }

end PctlManager
