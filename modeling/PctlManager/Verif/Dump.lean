import PctlManager.Report
import PctlManager.Verif.Effects

/-!
# What the diagnostic report does

The dump is put together from looking at the world, asking the service layer and writing into
the report (`Dumped`), so what holds of these holds of the dump: it touches nothing on the
console, as its header promises.
-/

namespace PctlManager

open Stateful

/-- The steps of the dump: looking at the world, asking the service layer, and writing into the
report. -/
inductive DumpStep : (α : Type) → DumpM α → Prop
  | get : DumpStep Dump get
  | ask {α : Type} {m : PctlM α} (built : Built noRequest m) : DumpStep α (ask m)
  | say (text : Text) : DumpStep Unit (say text)
  | start (change : Report → Report) :
      DumpStep Unit (modify fun d => { d with report := change d.report })

/-- The dump is put together from its steps. -/
abbrev Dumped {α : Type} (m : DumpM α) : Prop := Composed DumpStep α m

namespace Dumped

/-- Looking at the world is a step. -/
theorem get : Dumped (MonadState.get : DumpM Dump) := .step .get

/-- Asking the service layer is a step. -/
theorem ask {α : Type} {m : PctlM α} (built : Built noRequest m) :
    Dumped (PctlManager.ask m) := .step (.ask built)

/-- Writing into the report is a step. -/
theorem say (text : Text) : Dumped (PctlManager.say text) := .step (.say text)

end Dumped

/-- The line of a flag. -/
theorem dumped_dumpFlag (title : Text) {command : Command}
    (answer : Sysmodule → Console → Bool) (asks : command.asks = true) :
    Dumped (dumpFlag title command answer) :=
  (Dumped.ask (.query _ _ asks)).bind fun _ => Dumped.say _

/-- The line of a clock. -/
theorem dumped_repClock (name : Text) (type : TimeType) : Dumped (repClock name type) := by
  refine Dumped.get.bind fun d => (Dumped.say _).bind fun _ => .ite ?_ (Dumped.say _)
  split
  · exact (Dumped.say _).bind fun _ => Dumped.say _
  · exact Dumped.say _

/-- The header. -/
theorem dumped_dumpHeader : Dumped dumpHeader :=
  Dumped.get.bind fun _ => (Dumped.say _).bind fun _ => (Dumped.say _).bind fun _ =>
    (dumped_repClock _ _).bind fun _ => (dumped_repClock _ _).bind fun _ => dumped_repClock _ _

/-- The restriction state. -/
theorem dumped_dumpRestriction : Dumped dumpRestriction :=
  (dumped_dumpFlag _ _ rfl).bind fun _ => (dumped_dumpFlag _ _ rfl).bind fun _ =>
    (Dumped.ask (.query _ _ rfl)).bind fun _ => (Dumped.say _).bind fun _ =>
      (Dumped.ask .reopen).bind fun _ => (Dumped.ask (.query _ _ rfl)).bind fun _ =>
        (Dumped.say _).bind fun _ => (Composed.forM (fun _ => Dumped.say _) _).bind fun _ =>
          Dumped.say _

/-- The play-timer queries. -/
theorem dumped_dumpTimer : Dumped dumpTimer := by
  refine (Dumped.ask .reopen).bind fun _ => (dumped_dumpFlag _ _ rfl).bind fun _ =>
    (dumped_dumpFlag _ _ rfl).bind fun _ => (dumped_dumpFlag _ _ rfl).bind fun _ =>
      (Dumped.ask (.query _ _ rfl)).bind fun _ => (Dumped.say _).bind fun _ =>
        .ite ((Dumped.say _).bind fun _ => ?_) ?_
  -- What follows the branch follows it in both arms.
  all_goals
    exact (Dumped.say _).bind fun _ => (Dumped.ask .reopen).bind fun _ =>
      (Dumped.ask (.query _ _ rfl)).bind fun _ => Dumped.say _

/-- A raw buffer. -/
theorem dumped_dumpBytes (bytes : List UInt8) : Dumped (dumpBytes bytes) :=
  Composed.forM (fun _ => (Dumped.say _).bind fun _ => .ite (Dumped.say _) (.pure _)) _

/-- The stored settings. -/
theorem dumped_dumpSettings : Dumped dumpSettings := by
  refine (Dumped.ask .reopen).bind fun _ => (Dumped.ask (.query _ _ rfl)).bind fun raw =>
    (Dumped.say _).bind fun _ => (dumped_dumpBytes _).bind fun _ => (Dumped.say _).bind fun _ => ?_
  split
  · exact .pure _
  · exact (Dumped.say _).bind fun _ => (Dumped.say _).bind fun _ => (Dumped.say _).bind fun _ =>
      Composed.forM (fun _ => Dumped.say _) _

/-- One of the bedtime getters. -/
theorem dumped_dumpBedtimeGetter {command : Command} (name : Text) (answer : PtBedtime → UInt8)
    (asks : command.asks = true) : Dumped (dumpBedtimeGetter command name answer) :=
  (Dumped.ask .reopen).bind fun _ => (Dumped.ask (.query _ _ asks)).bind fun _ => Dumped.say _

/-- The bedtime getters and the display info. -/
theorem dumped_dumpBedtime : Dumped dumpBedtime :=
  (Dumped.ask .reopen).bind fun _ => (dumped_dumpFlag _ _ rfl).bind fun _ =>
    (dumped_dumpBedtimeGetter _ _ rfl).bind fun _ =>
      (dumped_dumpBedtimeGetter _ _ rfl).bind fun _ =>
        (dumped_dumpBedtimeGetter _ _ rfl).bind fun _ =>
          (dumped_dumpBedtimeGetter _ _ rfl).bind fun _ => (Dumped.ask .reopen).bind fun _ =>
            (Dumped.ask (.query _ _ rfl)).bind fun _ => (Dumped.say _).bind fun _ =>
              .ite ((dumped_dumpBytes _).bind fun _ => Dumped.say _) (Dumped.say _)

/-- The whole dump. -/
theorem dumped_pctlPlayTimerDump (buf bufsz : Nat) : Dumped (pctlPlayTimerDump buf bufsz) :=
  .ite (.pure _) <| .bind (.step (.start fun r => { r with
      memory := Function.update r.memory buf _, p := buf, e := buf + bufsz })) fun _ =>
    dumped_dumpHeader.bind fun _ => (Dumped.ask .reopen).bind fun _ =>
      .ite (Dumped.say _) <| dumped_dumpRestriction.bind fun _ => Dumped.get.bind fun _ =>
        .ite (dumped_dumpTimer.bind fun _ => dumped_dumpSettings.bind fun _ => dumped_dumpBedtime)
          (Dumped.say _)

end PctlManager
