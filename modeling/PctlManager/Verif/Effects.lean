import PctlManager.Flow
import Mathlib.Data.Stream.Init

/-!
# What the service layer changes

Every operation of the service layer is put together from reopenings, queries, requests and
log lines (`Built`), so a law of these steps is a law of every operation: none changes the
platform, and an operation without requests leaves the console alone. The failures to come are
used up in a fixed number: `openAfter` tells whether the session is open after so many
reopenings, and `Reaches` whether a coming request gets through to the sysmodule, so the
outcome of every request of a long operation is a condition on the world it started in.
-/

namespace PctlManager

open Stateful

/-! ## Requests that get through -/

/-- The session is open after so many further reopenings. -/
def World.openAfter (w : World) : Nat → Bool
  | 0 => w.guard.session.isSome
  | n + 1 => decide (1 < w.guard.refCount) || decide (rSucceeded (w.faults.acquire.get n))

/-- The result on the way of a coming request of the command. -/
def World.upcoming (command : Command) (w : World) (k : Nat) : Result :=
  (w.faults.dispatch command).get k

/-- The `k`-th coming request of the command reaches the sysmodule if it is sent after `n`
further reopenings of the session. -/
def World.Reaches (w : World) (n : Nat) (command : Command) (k : Nat) : Prop :=
  w.openAfter n = true ∧ rSucceeded (w.upcoming command k)

instance (w : World) (n : Nat) (command : Command) (k : Nat) :
    Decidable (w.Reaches n command k) :=
  inferInstanceAs (Decidable (_ ∧ _))

/-- A request succeeds exactly when it reaches the sysmodule and is answered with success. -/
theorem World.verdict_eq_zero_iff (w : World) (command : Command) (served : Result) :
    w.verdict command served = 0 ↔ w.Reaches 0 command 0 ∧ served = 0 := by
  unfold World.verdict World.Reaches World.openAfter World.upcoming
  cases w.guard.session with
  | none => simp [show invalidHandle ≠ 0 by decide]
  | some handle =>
    simp only [Option.isNone_some, Bool.false_eq_true, ↓reduceIte, Option.isSome_some,
      true_and, rSucceeded]
    split
    · rename_i failed
      simp [failed]
    · rename_i passed
      simp [not_not.mp passed]

/-- A computation that uses up `a` reopenings and `b` requests of a command. -/
theorem World.reaches_after {α : Type} {m : PctlM α} {command : Command} {a b : Nat}
    (opens : Advances World.openAfter a m) (sends : Advances (World.upcoming command) b m)
    (w : World) (n k : Nat) :
    (after m w).Reaches n command k ↔ w.Reaches (a + n) command (b + k) := by
  unfold World.Reaches
  rw [opens, sends]

/-! ## Primitive steps -/

/-- A log line opens no session. -/
theorem opens_pctlLogf (line : Text) : Advances World.openAfter 0 (pctlLogf line) :=
  .of_keeps fun _ => rfl

/-- A query opens no session. -/
theorem opens_serviceDispatchOut {α : Type} (command : Command) (initial : α)
    (answer : Sysmodule → Console → α) :
    Advances World.openAfter 0 (serviceDispatchOut command initial answer) := by
  refine .of_keeps fun w => ?_
  funext n
  cases n <;> rfl

/-- A request opens no session. -/
theorem opens_serviceDispatchIn (command : Command) (input : List UInt8)
    (perform : Sysmodule → Console → Result × Console) :
    Advances World.openAfter 0 (serviceDispatchIn command input perform) := by
  refine .of_keeps fun w => ?_
  funext n
  cases n <;> rfl

/-- Reopening on the guard: drop one reference, take one. -/
theorem guard_pctlOpsReinit (w : World) : (after pctlOpsReinit w).guard =
    (w.guard.release.acquire w.faults.acquire.head).2 := rfl

/-- The count stays above one through a reopening exactly when it was above one. -/
theorem refCount_pctlOpsReinit (w : World) :
    1 < (after pctlOpsReinit w).guard.refCount ↔ 1 < w.guard.refCount := by
  rw [guard_pctlOpsReinit, ServiceGuard.refCount_acquire, ServiceGuard.refCount_release]
  split <;> omega

/-- A reopened session is open exactly when the next attempt succeeds, or when the reference
that was dropped was not the last one. -/
theorem session_pctlOpsReinit (w : World) :
    (after pctlOpsReinit w).guard.session.isSome = w.openAfter 1 := by
  have count : 0 < (after pctlOpsReinit w).guard.refCount ↔
      1 < w.guard.refCount ∨ rSucceeded w.faults.acquire.head := by
    rw [guard_pctlOpsReinit, ServiceGuard.refCount_acquire, ServiceGuard.refCount_release]
    split
    · rename_i failed
      simp only [Nat.lt_irrefl, false_iff, not_or]
      exact ⟨by omega, failed.2⟩
    · rename_i opened
      simp only [Nat.succ_pos, true_iff]
      by_cases more : 1 < w.guard.refCount
      · exact .inl more
      · exact .inr (not_not.mp fun failed => opened ⟨by omega, failed⟩)
  rw [Bool.eq_iff_iff, (after pctlOpsReinit w).guard.held, count]
  simp [World.openAfter]

/-- Reopening the session is one reopening. -/
theorem opens_pctlOpsReinit : Advances World.openAfter 1 pctlOpsReinit := by
  intro w n
  cases n with
  | zero => exact session_pctlOpsReinit w
  | succ n =>
    have later : (after pctlOpsReinit w).faults.acquire.get n = w.faults.acquire.get (n + 1) :=
      rfl
    rw [show 1 + (n + 1) = (n + 1) + 1 by omega]
    simp only [World.openAfter, refCount_pctlOpsReinit, later]

/-- A log line sends nothing. -/
theorem sends_pctlLogf (command : Command) (line : Text) :
    Advances (World.upcoming command) 0 (pctlLogf line) := .of_keeps fun _ => rfl

/-- Reopening the session sends nothing. -/
theorem sends_pctlOpsReinit (command : Command) :
    Advances (World.upcoming command) 0 pctlOpsReinit := .of_keeps fun _ => rfl

/-- A query uses up one request of its own command. -/
theorem sends_serviceDispatchOut {α : Type} (sent command : Command) (initial : α)
    (answer : Sysmodule → Console → α) :
    Advances (World.upcoming command) (if sent = command then 1 else 0)
      (serviceDispatchOut sent initial answer) := by
  intro w k
  change (Function.update w.faults.dispatch sent _ command).get k = _
  split
  · rename_i same
    subst same
    rw [Function.update_self, Nat.add_comm]
    rfl
  · rename_i other
    rw [Function.update_of_ne (Ne.symm other), Nat.zero_add]
    rfl

/-- A request uses up one request of its own command. -/
theorem sends_serviceDispatchIn (sent command : Command) (input : List UInt8)
    (perform : Sysmodule → Console → Result × Console) :
    Advances (World.upcoming command) (if sent = command then 1 else 0)
      (serviceDispatchIn sent input perform) := by
  intro w k
  change (Function.update w.faults.dispatch sent _ command).get k = _
  split
  · rename_i same
    subst same
    rw [Function.update_self, Nat.add_comm]
    rfl
  · rename_i other
    rw [Function.update_of_ne (Ne.symm other), Nat.zero_add]
    rfl

/-- Requests after a reopening. -/
@[simp] theorem reaches_pctlOpsReinit (w : World) (n : Nat) (command : Command) (k : Nat) :
    (after pctlOpsReinit w).Reaches n command k ↔ w.Reaches (n + 1) command k := by
  rw [World.reaches_after opens_pctlOpsReinit (sends_pctlOpsReinit command), Nat.add_comm 1 n,
    Nat.zero_add]

/-- Requests after a query. -/
@[simp] theorem reaches_serviceDispatchOut {α : Type} (sent : Command) (initial : α)
    (answer : Sysmodule → Console → α) (w : World) (n : Nat) (command : Command) (k : Nat) :
    (after (serviceDispatchOut sent initial answer) w).Reaches n command k ↔
      w.Reaches n command (k + if sent = command then 1 else 0) := by
  rw [World.reaches_after (opens_serviceDispatchOut sent initial answer)
    (sends_serviceDispatchOut sent command initial answer), Nat.zero_add, Nat.add_comm]

/-- Requests after a request. -/
@[simp] theorem reaches_serviceDispatchIn (sent : Command) (input : List UInt8)
    (perform : Sysmodule → Console → Result × Console) (w : World) (n : Nat)
    (command : Command) (k : Nat) :
    (after (serviceDispatchIn sent input perform) w).Reaches n command k ↔
      w.Reaches n command (k + if sent = command then 1 else 0) := by
  rw [World.reaches_after (opens_serviceDispatchIn sent input perform)
    (sends_serviceDispatchIn sent command input perform), Nat.zero_add, Nat.add_comm]

/-- Requests after a log line. -/
@[simp] theorem reaches_pctlLogf (line : Text) (w : World) (n : Nat) (command : Command)
    (k : Nat) : (after (pctlLogf line) w).Reaches n command k ↔ w.Reaches n command k := by
  rw [World.reaches_after (opens_pctlLogf line) (sends_pctlLogf command line), Nat.zero_add,
    Nat.zero_add]

/-- A query returns the sysmodule's answer when it gets through. -/
theorem result_serviceDispatchOut {α : Type} (command : Command) (initial : α)
    (answer : Sysmodule → Console → α) (w : World) :
    result (serviceDispatchOut command initial answer) w =
      ⟨w.verdict command 0,
        if rSucceeded (w.verdict command 0) then answer w.sys w.console else initial⟩ := rfl

/-- A query succeeds exactly when it gets through. -/
@[simp] theorem rc_serviceDispatchOut {α : Type} (command : Command) (initial : α)
    (answer : Sysmodule → Console → α) (w : World) :
    (result (serviceDispatchOut command initial answer) w).rc = 0 ↔ w.Reaches 0 command 0 := by
  rw [result_serviceDispatchOut, World.verdict_eq_zero_iff]
  simp

/-- The output of a query. -/
@[simp] theorem out_serviceDispatchOut {α : Type} (command : Command) (initial : α)
    (answer : Sysmodule → Console → α) (w : World) :
    (result (serviceDispatchOut command initial answer) w).out =
      if w.Reaches 0 command 0 then answer w.sys w.console else initial := by
  rw [result_serviceDispatchOut]
  simp only [rSucceeded, World.verdict_eq_zero_iff, and_true]

/-- A request succeeds exactly when it gets through and the sysmodule accepts it. -/
@[simp] theorem result_serviceDispatchIn (command : Command) (input : List UInt8)
    (perform : Sysmodule → Console → Result × Console) (w : World) :
    result (serviceDispatchIn command input perform) w = 0 ↔
      w.Reaches 0 command 0 ∧ (perform w.sys w.console).1 = 0 :=
  w.verdict_eq_zero_iff command _

/-- The console after a request. -/
@[simp] theorem console_serviceDispatchIn (command : Command) (input : List UInt8)
    (perform : Sysmodule → Console → Result × Console) (w : World) :
    (after (serviceDispatchIn command input perform) w).console =
      if w.Reaches 0 command 0 ∧ (perform w.sys w.console).1 = 0 then
        (perform w.sys w.console).2
      else w.console := by
  change (if w.verdict command _ = 0 then _ else _) = _
  simp only [World.verdict_eq_zero_iff]

/-! ## Operations put together from steps -/

/-- The command only asks for something. -/
def Command.asks : Command → Bool
  | .revertRestrictionTemporaryUnlocked | .deleteSettings | .unlockRestrictionTemporarily
  | .deletePairing | .setPlayTimerSettingsForDebug => false
  | _ => true

/-- The steps of the service layer, with requests of the given commands only. -/
inductive PctlStep (requests : Command → Prop) : (α : Type) → PctlM α → Prop
  | get : PctlStep requests World get
  | reopen : PctlStep requests Result pctlOpsReinit
  | log (line : Text) : PctlStep requests Unit (pctlLogf line)
  | query {α : Type} {command : Command} (initial : α) (answer : Sysmodule → Console → α)
      (asks : command.asks = true) :
      PctlStep requests (Reply α) (serviceDispatchOut command initial answer)
  | request {command : Command} (input : List UInt8)
      (perform : Sysmodule → Console → Result × Console) (sent : requests command) :
      PctlStep requests Result (serviceDispatchIn command input perform)

/-- The operation is put together from steps of the service layer. -/
abbrev Built (requests : Command → Prop) {α : Type} (m : PctlM α) : Prop :=
  Composed (PctlStep requests) α m

/-- No request at all. -/
def noRequest (_ : Command) : Prop := False

namespace Built

variable {requests : Command → Prop} {α : Type} {m : PctlM α}

/-- Looking at the world is a step. -/
theorem get : Built requests (MonadState.get : PctlM World) := .step .get

/-- Reopening is a step. -/
theorem reopen : Built requests pctlOpsReinit := .step .reopen

/-- A log line is a step. -/
theorem log (line : Text) : Built requests (pctlLogf line) := .step (.log line)

/-- A query is a step. -/
theorem query {command : Command} (initial : α) (answer : Sysmodule → Console → α)
    (asks : command.asks = true) : Built requests (serviceDispatchOut command initial answer) :=
  .step (.query initial answer asks)

/-- A request of one of the commands is a step. -/
theorem request {command : Command} (input : List UInt8)
    (perform : Sysmodule → Console → Result × Console) (sent : requests command) :
    Built requests (serviceDispatchIn command input perform) :=
  .step (.request input perform sent)

/-- An operation without requests may be part of any other. -/
theorem any (built : Built noRequest m) : Built requests m := by
  refine built.mono fun α m step => ?_
  cases step with
  | get => exact .get
  | reopen => exact .reopen
  | log line => exact .log line
  | query initial answer asks => exact .query initial answer asks
  | request _ _ sent => exact sent.elim

end Built

/-- The status snapshot only asks. -/
theorem built_pctlStatusFetch : Built noRequest pctlStatusFetch :=
  (Built.query _ _ rfl).bind fun _ => (Built.query _ _ rfl).bind fun _ =>
    (Built.query _ _ rfl).bind fun _ => .pure _

/-- Confirming the temporary unlock only asks. -/
theorem built_pctlIsTemporarilyUnlocked : Built noRequest pctlIsTemporarilyUnlocked :=
  (Built.query _ _ rfl).bind fun _ => .ite ((Built.log _).bind fun _ => .pure _) (.pure _)

/-- Reading the PIN only asks. -/
theorem built_pctlGetPin (outsz : Nat) : Built noRequest (pctlGetPin outsz) :=
  (Built.query _ _ rfl).bind fun _ => .ite (.pure _) (.pure _)

/-- Ending the temporary unlock sends 1007. -/
theorem built_pctlRevertTemporaryUnlock :
    Built (· = .revertRestrictionTemporaryUnlocked) pctlRevertTemporaryUnlock :=
  Built.reopen.bind fun _ => .bind (Built.request _ _ rfl) fun _ =>
    (Built.log _).bind fun _ => .pure _

/-- The temporary unlock sends 1201. -/
theorem built_pctlUnlockRestrictionTemporarily :
    Built (· = .unlockRestrictionTemporarily) pctlUnlockRestrictionTemporarily :=
  Built.reopen.bind fun _ => (built_pctlGetPin _).any.bind fun _ =>
    .ite ((Built.log _).bind fun _ => .pure _) <| .ite ((Built.log _).bind fun _ => .pure _) <|
      .bind (Built.request _ _ rfl) fun _ => (Built.log _).bind fun _ => .pure _

/-- Deleting the parental controls sends 1043. -/
theorem built_pctlDeleteParentalControls :
    Built (· = .deleteSettings) pctlDeleteParentalControls :=
  .bind (Built.request _ _ rfl) fun _ => (Built.log _).bind fun _ => .pure _

/-- Deleting the pairing sends 1941. -/
theorem built_pctlDeletePairing : Built (· = .deletePairing) pctlDeletePairing :=
  .bind (Built.request _ _ rfl) fun _ => (Built.log _).bind fun _ => .pure _

/-- Reading the settings only asks. -/
theorem built_readSettings : Built noRequest readSettings :=
  Built.get.bind fun _ => .ite (Built.reopen.bind fun _ => Built.query _ _ rfl) (.pure _)

/-- The read of a patch only asks. -/
theorem built_beginPatch : Built noRequest beginPatch :=
  built_readSettings.bind fun _ => .ite (.pure _) (.pure _)

/-- Writing the settings sends 195101. -/
theorem built_writeSettings (s : PtSettings) :
    Built (· = .setPlayTimerSettingsForDebug) (writeSettings s) :=
  Built.get.bind fun _ => .ite
    (Built.reopen.bind fun _ => .bind (Built.request _ _ rfl) fun _ =>
      (Built.log _).bind fun _ => .pure _)
    (.pure _)

/-- A patch sends 195101. -/
theorem built_patchSettings (edit : PtSettings → PtSettings) :
    Built (· = .setPlayTimerSettingsForDebug) (patchSettings edit) :=
  built_beginPatch.any.bind fun _ => .ite (.pure _) (built_writeSettings _)

/-- The query only asks. -/
theorem built_pctlPlayTimerQuery : Built noRequest pctlPlayTimerQuery :=
  Built.get.bind fun _ => .ite
    (Built.reopen.bind fun _ => (Built.query _ _ rfl).bind fun _ =>
      (Built.query _ _ rfl).bind fun _ => (Built.query _ _ rfl).bind fun _ =>
        built_readSettings.bind fun _ => .ite (.pure _) (.pure _))
    (.pure _)

/-- The readback of the alarm only asks. -/
theorem built_pctlBedtimeReadback : Built noRequest pctlBedtimeReadback :=
  Built.get.bind fun _ => .ite
    (Built.reopen.bind fun _ => (Built.query _ _ rfl).bind fun _ =>
      .ite (.pure _) <| (Built.query _ _ rfl).bind fun _ =>
        .ite (.pure _) <| (Built.query _ _ rfl).bind fun _ =>
          .ite (.pure _) <| (Built.query _ _ rfl).bind fun _ =>
            .ite (.pure _) <| (Built.query _ _ rfl).bind fun _ => .ite (.pure _) (.pure _))
    (.pure _)

/-- The re-lock sends 1007. -/
theorem built_relockConfirmed :
    Built (· = .revertRestrictionTemporaryUnlocked) relockConfirmed :=
  built_pctlRevertTemporaryUnlock.bind fun _ =>
    .ite (built_pctlIsTemporarilyUnlocked.any.bind fun _ => .pure _) (.pure _)

/-! ## What no operation changes -/

/-- The firmware and the sysmodule. -/
def World.platform (w : World) : UInt32 × Sysmodule := (w.hosversion, w.sys)

namespace Built

variable {requests : Command → Prop} {α : Type} {m : PctlM α}

/-- No operation changes the platform. -/
theorem platform (built : Built requests m) : Keeps World.platform m := by
  refine built.keeps fun α m step => ?_
  cases step <;> exact fun _ => rfl

/-- No operation changes the sysmodule. -/
theorem sys (built : Built requests m) (w : World) : (after m w).sys = w.sys :=
  congrArg Prod.snd (built.platform w)

/-- No operation changes which commands the firmware has. -/
theorem supported (built : Built requests m) (w : World) :
    pctlFwPlayTimerSupported (after m w) = pctlFwPlayTimerSupported w := by
  unfold pctlFwPlayTimerSupported World.hosversionAtLeast
  rw [show (after m w).hosversion = w.hosversion from congrArg Prod.fst (built.platform w)]

/-- An operation without requests leaves the console alone. -/
theorem console (built : Built noRequest m) (w : World) :
    (after m w).console = w.console := by
  refine built.keeps (fun α m step => ?_) w
  cases step with
  | request _ _ sent => exact sent.elim
  | _ => exact fun _ => rfl

end Built

end PctlManager
