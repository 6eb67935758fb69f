import PctlManager.Lifecycle
import PctlManager.Verif.Dump
import PctlManager.Verif.Setters

/-!
# The shared session

libnx opens the pctl session only when nobody holds a reference, so the tool depends on
holding at most one: then every reopening closes the session it replaces. `Balanced` is that
invariant; every operation keeps it, whatever fails, and so does every run of the app between
`app::init` and `app::shutdown`.
-/

namespace PctlManager

open Stateful

/-! ## The invariant -/

/-- The result of a `pctlInitialize`. -/
def Event.acquired : Event → Option Result
  | .acquire rc => some rc
  | _ => none

/-- The result of the latest `pctlInitialize`. -/
def World.latestAcquire (w : World) : Option Result := w.trace.findSome? Event.acquired

/-- The number of `pctlInitialize` calls that succeeded. -/
def World.acquireCount (w : World) : Nat :=
  w.trace.countP fun event => event.acquired = some 0

/-- At most one reference is held, and every one that was taken opened a session. -/
structure World.Balanced (w : World) : Prop where
  /-- At most one reference is held. -/
  count : w.guard.refCount ≤ 1
  /-- One is held exactly if the latest `pctlInitialize` succeeded. -/
  latest : w.guard.refCount = 1 ↔ w.latestAcquire = some 0
  /-- Every `pctlInitialize` that succeeded opened a session of its own. -/
  fresh : w.guard.opened = w.acquireCount

/-- Before `app::init` nothing was asked of libnx. -/
structure World.AtBoot (w : World) : Prop where
  /-- Nothing was asked for. -/
  trace : w.trace = []
  /-- No reference is held. -/
  refCount : w.guard.refCount = 0
  /-- No session was opened. -/
  opened : w.guard.opened = 0

/-- No reference is held, and every one that was taken opened a session. -/
structure World.Free (w : World) : Prop where
  /-- No reference is held. -/
  unheld : w.guard.refCount = 0
  /-- Every `pctlInitialize` that succeeded opened a session of its own. -/
  fresh : w.guard.opened = w.acquireCount

/-- At boot the session is free. -/
theorem World.AtBoot.free {w : World} (boot : w.AtBoot) : w.Free := by
  refine ⟨boot.refCount, ?_⟩
  rw [boot.opened, acquireCount, boot.trace]
  rfl

/-- `pctlInitialize` on a guard without references opens the next session or fails. -/
theorem ServiceGuard.acquire_of_free {g : ServiceGuard} (free : g.refCount = 0) (rc : Result) :
    (g.acquire rc).1 = rc ∧
      (g.acquire rc).2.session = (if rSucceeded rc then some g.opened else none) ∧
      (g.acquire rc).2.opened = g.opened + if rSucceeded rc then 1 else 0 := by
  have closed : g.session = none := by
    rw [← Option.not_isSome_iff_eq_none, g.held, free]
    exact Nat.lt_irrefl 0
  unfold ServiceGuard.acquire
  rw [dif_pos free]
  split
  · rename_i opened
    simp [opened]
  · simp [closed]

/-- `pctlInitialize` on a free session opens a fresh one exactly if it succeeds. -/
theorem World.Free.acquire {w : World} (free : w.Free) :
    result pctlInitialize w = w.faults.acquire.head ∧
      (after pctlInitialize w).guard.session =
        (if rSucceeded w.faults.acquire.head then some w.guard.opened else none) ∧
      (after pctlInitialize w).Balanced := by
  obtain ⟨returned, session, opened⟩ :=
    ServiceGuard.acquire_of_free free.unheld w.faults.acquire.head
  have count := ServiceGuard.refCount_acquire w.guard w.faults.acquire.head
  have trace : (after pctlInitialize w).trace = .acquire w.faults.acquire.head :: w.trace :=
    congrArg (fun rc => Event.acquire rc :: w.trace) returned
  refine ⟨returned, session, ?_, ?_, ?_⟩
  · change (w.guard.acquire w.faults.acquire.head).2.refCount ≤ 1
    rw [count, free.unheld]
    split <;> omega
  · change (w.guard.acquire w.faults.acquire.head).2.refCount = 1 ↔ _
    unfold World.latestAcquire
    rw [count, trace, free.unheld, List.findSome?_cons]
    by_cases failed : w.faults.acquire.head = 0
    · simp [Event.acquired, failed]
    · simp [Event.acquired, failed]
  · change (w.guard.acquire w.faults.acquire.head).2.opened = _
    unfold World.acquireCount
    rw [opened, trace, List.countP_cons, free.fresh]
    simp [Event.acquired, World.acquireCount]

/-- Dropping a reference opens no session. -/
theorem ServiceGuard.opened_release (g : ServiceGuard) : g.release.opened = g.opened := by
  unfold ServiceGuard.release
  split <;> rfl

/-- The latest `pctlInitialize` is the one that was just called. -/
theorem latestAcquire_pctlInitialize (w : World) :
    (after pctlInitialize w).latestAcquire = some (result pctlInitialize w) := rfl

/-- `pctlExit` on a balanced session closes it. -/
theorem World.Balanced.exit {w : World} (balanced : w.Balanced) :
    (after pctlExit w).guard.session = none ∧ (after pctlExit w).Free := by
  have last : (after pctlExit w).guard.refCount = 0 := by
    change w.guard.release.refCount = 0
    rw [ServiceGuard.refCount_release]
    exact Nat.sub_eq_zero_of_le balanced.count
  refine ⟨?_, last, ?_⟩
  · rw [← Option.not_isSome_iff_eq_none, (after pctlExit w).guard.held, last]
    exact Nat.lt_irrefl 0
  · change w.guard.release.opened = (Event.release :: w.trace).countP _
    rw [ServiceGuard.opened_release, balanced.fresh]
    simp [Event.acquired, World.acquireCount]

/-- Reopening a balanced session opens a fresh one in its place exactly if the next attempt
succeeds. -/
theorem World.Balanced.reopen {w : World} (balanced : w.Balanced) :
    result pctlOpsReinit w = w.faults.acquire.head ∧
      (after pctlOpsReinit w).guard.session =
        (if rSucceeded w.faults.acquire.head then some w.guard.opened else none) ∧
      (after pctlOpsReinit w).Balanced := by
  obtain ⟨returned, session, later⟩ := balanced.exit.2.acquire
  refine ⟨returned, session.trans ?_, later⟩
  change (if rSucceeded w.faults.acquire.head then some w.guard.release.opened else none) = _
  rw [ServiceGuard.opened_release]

/-! ## Every operation keeps the invariant -/

/-- What is asked of libnx without touching the session keeps the invariant. -/
theorem World.Balanced.of_same {w v : World} (balanced : w.Balanced)
    (guard : v.guard = w.guard) (latest : v.latestAcquire = w.latestAcquire)
    (count : v.acquireCount = w.acquireCount) : v.Balanced := by
  constructor
  · rw [guard]
    exact balanced.count
  · rw [guard, latest]
    exact balanced.latest
  · rw [guard, count]
    exact balanced.fresh

/-- Every operation of the service layer keeps the invariant. -/
theorem Built.balanced {requests : Command → Prop} {α : Type} {m : PctlM α}
    (built : Built requests m) : Preserves World.Balanced m := by
  refine built.preserves fun α m step w balanced => ?_
  cases step with
  | reopen => exact balanced.reopen.2.2
  | _ => exact balanced.of_same rfl rfl rfl

/-- Registering a PIN hands the session over to the applet and takes a fresh one. -/
theorem balanced_pctlSetPin : Preserves World.Balanced pctlSetPin := by
  intro w balanced
  have handed : (after pctlauthRegisterPasscode (after pctlExit w)).Free :=
    ⟨balanced.exit.2.unheld, balanced.exit.2.fresh.trans rfl⟩
  exact handed.acquire.2.2

/-- Every operation of the dump keeps the invariant. -/
theorem Dumped.balanced {α : Type} {m : DumpM α} (dumped : Dumped m) :
    Preserves (fun d : Dump => d.world.Balanced) m := by
  refine dumped.preserves fun α m step => ?_
  cases step with
  | ask built => exact built.balanced.zoom Dump.worldPart
  | _ => exact fun _ balanced => balanced

/-! ## Runs of the app -/

/-- An operation of the tool with its arguments; the dump with the memory that it writes to. -/
inductive Operation
  | statusFetch
  | setPin
  | deleteParentalControls
  | deletePairing
  | getPin (outsz : Nat)
  | revertTemporaryUnlock
  | isTemporarilyUnlocked
  | unlockRestrictionTemporarily
  | query
  | setter (call : SetterCall)
  | bedtimeReadback
  | dump (report : Report) (buf bufsz : Nat)

/-- The world that an operation leaves. -/
def Operation.step (w : World) : Operation → World
  | .statusFetch => after pctlStatusFetch w
  | .setPin => after pctlSetPin w
  | .deleteParentalControls => after pctlDeleteParentalControls w
  | .deletePairing => after pctlDeletePairing w
  | .getPin outsz => after (pctlGetPin outsz) w
  | .revertTemporaryUnlock => after pctlRevertTemporaryUnlock w
  | .isTemporarilyUnlocked => after pctlIsTemporarilyUnlocked w
  | .unlockRestrictionTemporarily => after pctlUnlockRestrictionTemporarily w
  | .query => after pctlPlayTimerQuery w
  | .setter call => after call.perform w
  | .bedtimeReadback => after pctlBedtimeReadback w
  | .dump report buf bufsz => (after (pctlPlayTimerDump buf bufsz) ⟨w, report⟩).world

/-- Every operation of the tool keeps the invariant. -/
theorem Operation.balanced_step (operation : Operation) {w : World} (balanced : w.Balanced) :
    (operation.step w).Balanced := by
  cases operation with
  | statusFetch => exact built_pctlStatusFetch.balanced w balanced
  | setPin => exact balanced_pctlSetPin w balanced
  | deleteParentalControls => exact built_pctlDeleteParentalControls.balanced w balanced
  | deletePairing => exact built_pctlDeletePairing.balanced w balanced
  | getPin outsz => exact (built_pctlGetPin outsz).balanced w balanced
  | revertTemporaryUnlock => exact built_pctlRevertTemporaryUnlock.balanced w balanced
  | isTemporarilyUnlocked => exact built_pctlIsTemporarilyUnlocked.balanced w balanced
  | unlockRestrictionTemporarily =>
    exact built_pctlUnlockRestrictionTemporarily.balanced w balanced
  | query => exact built_pctlPlayTimerQuery.balanced w balanced
  | setter call => exact call.built.balanced w balanced
  | bedtimeReadback => exact built_pctlBedtimeReadback.balanced w balanced
  | dump report buf bufsz =>
    exact (dumped_pctlPlayTimerDump buf bufsz).balanced ⟨w, report⟩ balanced

/-- Every run of operations keeps the invariant. -/
theorem Operation.balanced_run (operations : List Operation) {w : World}
    (balanced : w.Balanced) : (Runs.run Operation.step w operations).Balanced :=
  Runs.run_preserves World.Balanced (fun _ operation _ balanced => operation.balanced_step balanced)
    operations w (Runs.along_of_forall (fun _ _ => trivial) _ _) balanced

/-- The process after some operations. -/
def Process.operate (p : Process) (operations : List Operation) : Process :=
  { p with world := Runs.run Operation.step p.world operations }

/-- Between two operations the tool's use of the session is in order. -/
structure Process.InOrder (p : Process) : Prop where
  /-- The count is zero or one. -/
  count : p.world.guard.refCount ≤ 1
  /-- It is one exactly if the latest `pctlInitialize` succeeded. -/
  latest : p.world.guard.refCount = 1 ↔ p.world.latestAcquire = some 0
  /-- Every `pctlInitialize` that succeeded found no session left, and opened one. -/
  fresh : p.world.guard.opened = p.world.acquireCount
  /-- The next reopening closes the session that is open. -/
  closes : (after pctlExit p.world).guard.session = none
  /-- If its `pctlInitialize` succeeds it opens the next session, whatever failed before. -/
  reopens : rSucceeded p.world.faults.acquire.head → result pctlOpsReinit p.world = 0 ∧
    (after pctlOpsReinit p.world).guard.session = some p.world.guard.opened
  /-- `app::shutdown` drops the last reference. -/
  shutdown : (after appShutdown p).world.guard.refCount = 0
  /-- Called again, `app::shutdown` leaves no reference either. -/
  again : (after appShutdown (after appShutdown p)).world.guard.refCount = 0

/-- What `app::shutdown` leaves. -/
theorem after_appShutdown (p : Process) : after appShutdown p =
    { p with world := if p.ok then after pctlExit p.world else p.world, ok := false } := by
  unfold appShutdown
  cases ok : p.ok <;> simp [ok, Process.worldPart, pctlOpsExit]

/-- What `app::init` returns and leaves. -/
theorem result_appInit (p : Process) : result appInit p = (after appInit p).ok ∧
    (after appInit p).world = after pctlInitialize p.world ∧
    ((after appInit p).ok = true ↔ result pctlInitialize p.world = 0) := by
  simp [appInit, Process.worldPart, pctlOpsInit]

/-- A balanced process whose statics say whether the service was opened is in order. -/
theorem Process.InOrder.of_balanced {p : Process} (balanced : p.world.Balanced)
    (closed : p.ok = false → p.world.guard.refCount = 0) : p.InOrder := by
  obtain ⟨returned, session, -⟩ := balanced.reopen
  have shutdown : (after appShutdown p).world.guard.refCount = 0 := by
    rw [after_appShutdown]
    cases ok : p.ok
    · exact closed ok
    · exact balanced.exit.2.unheld
  refine ⟨balanced.count, balanced.latest, balanced.fresh, balanced.exit.1, fun opens => ?_,
    shutdown, ?_⟩
  · exact ⟨returned.trans opens, session.trans (if_pos opens)⟩
  · rw [after_appShutdown (after appShutdown p)]
    rw [after_appShutdown] at shutdown ⊢
    exact shutdown

/-- `app::init` leaves the process in order; and if it succeeds, so does every run of
operations after it, in any order and whatever fails on the way. -/
theorem session_in_order (p : Process) (boot : p.world.AtBoot) :
    (after appInit p).InOrder ∧
      (result appInit p = true → ∀ operations, ((after appInit p).operate operations).InOrder) := by
  obtain ⟨returned, world, ok⟩ := result_appInit p
  obtain ⟨acquired, -, balanced⟩ := boot.free.acquire
  rw [← world] at balanced
  constructor
  · refine .of_balanced balanced fun failed => ?_
    have lost : ¬(after appInit p).world.guard.refCount = 1 := by
      rw [balanced.latest, world, latestAcquire_pctlInitialize, Option.some_inj, ← ok, failed]
      exact Bool.false_ne_true
    have bound := balanced.count
    omega
  · intro succeeded operations
    refine .of_balanced (Operation.balanced_run operations balanced) fun failed => ?_
    rw [returned] at succeeded
    cases failed.symm.trans succeeded

/-- The process that `run` starts with, on the sample console. -/
def Process.booted (faults : Faults) : Process where
  world := { World.launched (.sample .zero false) faults with
    guard := .closed 0 }
  ok := false
  initResult := 0

/-- The second attempt to open the session fails, and nothing else. -/
def Faults.losing : Faults :=
  { Faults.none with acquire := .cons 0 (.cons invalidHandle (.const 0)) }

/-- A PIN is registered and the session cannot be taken back: the next reopening still opens a
fresh one. -/
theorem session_in_order_losing :
    (after pctlOpsReinit ((after appInit (.booted .losing)).operate
      [.setPin]).world).guard.session = some 1 :=
  (((session_in_order (.booted .losing) ⟨rfl, rfl, rfl⟩).2 (by decide) [.setPin]).reopens
    (by decide)).2

end PctlManager
