import PctlManager.PerDay
import PctlManager.Verif.GuardedSetter
import PctlManager.Verif.RoundTrip

/-!
# What the per-day editor changes

A run of the editor: it is opened, the user stages limits, cancels, comes back and saves, and
requests fail as they like. `Editing` watches such a run from outside: which limits were
staged, and which days the editor was seeded right with. A save changes only what was staged
exactly when every other day was seeded right (`changes_only_staged_iff`).
-/

namespace PctlManager

open Stateful Spec

/-! ## The guarded save -/

section Save

variable (daysMin : Day → UInt16) (okText : Text) (app : App)

/-- The guarded save returns true exactly when it stores the limits. -/
theorem result_guardedSetDays :
    result (guardedWrite (pctlPlayTimerSetDays daysMin) okText) app = true ↔
      app.world.Stores :=
  (SetterCall.setDays daysMin).result_guarded okText app

/-- A guarded save that stores the limits stores exactly those it was given. -/
theorem limit_guardedSetDays (stores : app.world.Stores) (d : Day) :
    limitOf (daySlot (after (guardedWrite (pctlPlayTimerSetDays daysMin) okText)
      app).world.console.stored d) = Sentinel.decode ptDayNoLimit (daysMin d) := by
  have written := (SetterCall.setDays daysMin).registersOf_guarded okText app stores
  have limits := (Registers.days_setLimits (fun n => Sentinel.decode ptDayNoLimit (daysMin n))
    (registersOf app.world.console.stored)).1
  change registersOf (after (guardedWrite (pctlPlayTimerSetDays daysMin) okText)
    app).world.console.stored = _ at written
  rw [← limits_registersOf, written]
  exact congrFun limits d

/-- A guarded save that does not store the limits stores nothing. -/
theorem stored_guardedSetDays_of_not_stores (kept : ¬app.world.Stores) :
    (after (guardedWrite (pctlPlayTimerSetDays daysMin) okText) app).world.console.stored =
      app.world.console.stored :=
  (SetterCall.setDays daysMin).stored_guarded_of_not_stores okText app kept

end Save

/-! ## What a snapshot shows -/

/-- A snapshot taken now shows the day's limit: 145601 gets through and the limit is not 65535
minutes, or nothing is read and the day has no limit. -/
def World.Shows (w : World) (d : Day) : Prop :=
  if w.Reads then
    limitOf (daySlot w.console.stored d) ≠ some 0xFFFF
  else limitOf (daySlot w.console.stored d) = none

instance (w : World) (d : Day) : Decidable (w.Shows d) := by
  unfold World.Shows
  infer_instance

/-- The minutes of a snapshot stand for the day's limit exactly when it shows the limit. -/
theorem decode_dayMin_iff (w : World) (d : Day) :
    Sentinel.decode ptDayNoLimit ((result pctlPlayTimerQuery w).dayMin d) =
      limitOf (daySlot w.console.stored d) ↔ w.Shows d := by
  by_cases reads : w.Reads
  · rw [World.Shows, if_pos reads, dayMin_of_reads reads]
    exact Sentinel.decode_encode_iff ptDayNoLimit _
  · have invalid := mt (valid_iff_reads w).mp reads
    rw [World.Shows, if_neg reads, dayMin_pctlPlayTimerQuery w (Bool.not_eq_true _ ▸ invalid),
      Sentinel.decode_reserved]
    exact eq_comm

/-! ## The editor's reactions -/

/-- What the user does with the editor, and what else happens on the console. -/
inductive EditorEvent
  /-- The button "no limit" of a day. -/
  | noLimit (d : Day)
  /-- The button "set minutes" of a day, with whatever the user does at the number pad. -/
  | minutes (d : Day) (typist : Typist)
  /-- The button "cancel" of a day. -/
  | cancel (d : Day)
  /-- The screen is resumed. -/
  | resume
  /-- The cell that saves. -/
  | save
  /-- Time passes; nobody else writes the settings. -/
  | elapse (change : Console → Console) (kept : ∀ c, (change c).stored = c.stored)

/-- The reaction of the editor. -/
def PerDay.react (e : PerDay) : EditorEvent → PerDay
  | .noLimit d => after (PerDay.stageNoLimit d) e
  | .minutes d typist => after (PerDay.stageMinutes d typist) e
  | .cancel _ => e
  | .resume => after PerDay.onResume e
  | .save => after PerDay.doSave e
  | .elapse change _ =>
    { e with app.world.console := change e.app.world.console }

/-- The editor as the screen opens. -/
def PerDay.opened (app : App) : PerDay :=
  after PerDay.onContentAvailable
    { app, header := .initial, dayLabels := fun _ => [], live := .blank,
      pending := PtState.blank.dayMin }

/-- The day's limit as it is stored. -/
def PerDay.limit (e : PerDay) (d : Day) : Option UInt16 :=
  limitOf (daySlot e.app.world.console.stored d)

/-- The guarded write of a save. -/
def PerDay.guardedSave (e : PerDay) : AppM Bool :=
  guardedWrite (pctlPlayTimerSetDays e.pending) (saveSummary e.pending)

/-- A save writes now, and stores the limits. -/
def PerDay.Saves (e : PerDay) : Prop := e.changed = true ∧ e.app.world.Stores

instance (e : PerDay) : Decidable e.Saves := inferInstanceAs (Decidable (_ ∧ _))

/-- A save writes now and its guarded write returns true. -/
theorem PerDay.saves_iff (e : PerDay) :
    e.Saves ↔ e.changed = true ∧ result e.guardedSave e.app = true :=
  and_congr_right fun _ => (result_guardedSetDays e.pending _ e.app).symm

/-- The world that a save reloads from. -/
def PerDay.written (e : PerDay) : World := (after e.guardedSave e.app).world

/-- Refreshing what is visible leaves the console alone. -/
theorem PerDay.console_refreshVisible (e : PerDay) :
    (after PerDay.refreshVisible e).app.world.console = e.app.world.console :=
  built_pctlPlayTimerQuery.console e.app.world

/-- Refreshing what is visible keeps what is staged. -/
theorem PerDay.pending_refreshVisible (e : PerDay) :
    (after PerDay.refreshVisible e).pending = e.pending := rfl

/-- The editor opens with the minutes of a snapshot. -/
theorem PerDay.pending_opened (app : App) :
    (PerDay.opened app).pending = (result pctlPlayTimerQuery app.world).dayMin := rfl

/-- Opening the editor leaves the console alone. -/
theorem PerDay.console_opened (app : App) :
    (PerDay.opened app).app.world.console = app.world.console := by
  unfold PerDay.opened PerDay.onContentAvailable
  rw [after_bind, PerDay.console_refreshVisible]
  exact built_pctlPlayTimerQuery.console app.world

/-- A save that stores the limits leaves the console as the guarded write leaves it, and starts
over with the minutes of a snapshot. -/
theorem PerDay.doSave_of_saves (e : PerDay) (saves : e.Saves) :
    (after PerDay.doSave e).pending = (result pctlPlayTimerQuery e.written).dayMin ∧
      (after PerDay.doSave e).app.world.console = e.written.console := by
  have wrote := e.saves_iff.mp saves
  unfold PerDay.guardedSave at wrote
  simp only [PerDay.doSave, after_bind, result_get, after_get, wrote.1, ↓reduceIte, ui,
    result_zoom, PerDay.appPart, wrote.2, after_zoom, PerDay.console_refreshVisible,
    PerDay.pending_refreshVisible]
  exact ⟨rfl, built_pctlPlayTimerQuery.console e.written⟩

/-- Any other save stores nothing, and keeps the pending minutes. -/
theorem PerDay.doSave_of_not_saves (e : PerDay) (kept : ¬e.Saves) :
    (after PerDay.doSave e).pending = e.pending ∧
      (after PerDay.doSave e).app.world.console.stored = e.app.world.console.stored := by
  have unwritten := mt e.saves_iff.mpr kept
  unfold PerDay.guardedSave at unwritten
  by_cases changed : e.changed = true
  · have failed : ¬_ := fun wrote => unwritten ⟨changed, wrote⟩
    simp only [PerDay.doSave, after_bind, result_get, after_get, changed, ↓reduceIte, ui,
      result_zoom, PerDay.appPart, if_neg failed, after_zoom, PerDay.console_refreshVisible,
      PerDay.pending_refreshVisible, after_modify]
    refine ⟨trivial, (congrArg Console.stored (built_pctlPlayTimerQuery.console _)).trans ?_⟩
    exact stored_guardedSetDays_of_not_stores e.pending _ e.app fun stores =>
      kept ⟨changed, stores⟩
  · simp only [PerDay.doSave, after_bind, result_get, after_get, if_neg changed]
    exact ⟨rfl, rfl⟩

/-- The number pad never yields the word for no limit. -/
theorem promptedMinutes_ne {pending : Day → UInt16} {d : Day} {typist : Typist} {v : UInt16}
    (entered : promptedMinutes pending d typist = some v) : v ≠ ptDayNoLimit := by
  unfold promptedMinutes promptMinutes at entered
  simp only [Option.ite_none_left_eq_some, Option.some.injEq] at entered
  obtain ⟨-, -, rfl⟩ := entered
  intro reserved
  have word := congrArg UInt16.toNat reserved
  rw [UInt16.toNat_ofNat', show ptDayNoLimit.toNat = 65535 from rfl] at word
  split at word <;> split at word <;> omega

/-! ## The editor, watched -/

/-- The editor with what was done to it since the screen was opened or since the last save that
stored the limits. -/
structure Editing where
  /-- The editor. -/
  editor : PerDay
  /-- The limit that was last staged for a day, if one was. -/
  staged : Day → Option (Option UInt16)
  /-- The snapshot that the editor started from showed the day's limit. -/
  seeded : Day → Bool

/-- The screen opens, and nothing is staged. -/
def Editing.opened (app : App) : Editing where
  editor := .opened app
  staged _ := none
  seeded d := app.world.Shows d

/-- The reaction of the editor, watched. -/
def Editing.step (x : Editing) (event : EditorEvent) : Editing :=
  let editor := x.editor.react event
  match event with
  | .noLimit d => { x with editor, staged := Function.update x.staged d (some none) }
  | .minutes d typist =>
    match promptedMinutes x.editor.pending d typist with
    | none => { x with editor }
    | some v => { x with editor, staged := Function.update x.staged d (some (some v)) }
  | .save =>
    if x.editor.Saves then
      { editor, staged := fun _ => none, seeded := fun d => x.editor.written.Shows d }
    else { x with editor }
  | _ => { x with editor }

/-- The pending minutes are what was staged; and for every other day they stand for the stored
limit exactly if the day was seeded right. -/
structure Editing.Tracks (x : Editing) : Prop where
  /-- A staged day. -/
  staged : ∀ d limit, x.staged d = some limit →
    Sentinel.decode ptDayNoLimit (x.editor.pending d) = limit
  /-- Any other day. -/
  unstaged : ∀ d, x.staged d = none →
    (Sentinel.decode ptDayNoLimit (x.editor.pending d) = x.editor.limit d ↔ x.seeded d = true)

/-- A step that changes neither the pending minutes nor the settings is tracked. -/
theorem Editing.Tracks.of_same {x : Editing} (tracks : x.Tracks) {editor : PerDay}
    (pending : editor.pending = x.editor.pending)
    (stored : editor.app.world.console.stored = x.editor.app.world.console.stored) :
    Editing.Tracks { x with editor } := by
  constructor
  · intro d limit staged
    change Sentinel.decode _ (editor.pending d) = limit
    rw [pending]
    exact tracks.staged d limit staged
  · intro d unstaged
    change Sentinel.decode _ (editor.pending d) = limitOf (daySlot _ d) ↔ _
    rw [pending, stored]
    exact tracks.unstaged d unstaged

/-- Staging a limit is tracked. -/
theorem Editing.Tracks.stage {x : Editing} (tracks : x.Tracks) (d : Day) (word : UInt16)
    (limit : Option UInt16) (stands : Sentinel.decode ptDayNoLimit word = limit) :
    Editing.Tracks { x with
      editor := { x.editor with pending := Function.update x.editor.pending d word }
      staged := Function.update x.staged d (some limit) } := by
  constructor
  · intro n other staged
    by_cases same : n = d
    · subst same
      simp only [Function.update_self, Option.some.injEq] at staged ⊢
      exact stands.trans staged
    · simp only [Function.update_of_ne same] at staged ⊢
      exact tracks.staged n other staged
  · intro n unstaged
    have different : n ≠ d := by
      rintro rfl
      simp at unstaged
    simp only [Function.update_of_ne different] at unstaged ⊢
    exact tracks.unstaged n unstaged

/-- An editor that starts over with a snapshot is tracked. -/
theorem Editing.tracks_of_snapshot {editor : PerDay} (w : World)
    (pending : editor.pending = (result pctlPlayTimerQuery w).dayMin)
    (console : editor.app.world.console = w.console) :
    Editing.Tracks ⟨editor, fun _ => none, fun d => w.Shows d⟩ := by
  constructor
  · intro d limit staged
    cases staged
  · intro d _
    unfold PerDay.limit
    rw [pending, console, decode_dayMin_iff, decide_eq_true_iff]

/-- The open screen is tracked. -/
theorem Editing.tracks_opened (app : App) : (Editing.opened app).Tracks :=
  tracks_of_snapshot app.world (PerDay.pending_opened app) (PerDay.console_opened app)

/-- Every step is tracked. -/
theorem Editing.tracks_step (x : Editing) (event : EditorEvent) (tracks : x.Tracks) :
    (x.step event).Tracks := by
  cases event with
  | noLimit d =>
    have staged := tracks.stage d ptDayNoLimit none (Sentinel.decode_reserved _)
    exact staged.of_same rfl rfl
  | minutes d typist =>
    unfold step PerDay.react PerDay.stageMinutes
    cases entered : promptedMinutes x.editor.pending d typist with
    | none =>
      simp only [after_bind, result_get, after_get, entered, after_pure]
      exact tracks
    | some v =>
      have staged := tracks.stage d v (some v)
        (Sentinel.decode_of_ne _ (promptedMinutes_ne entered))
      simp only [after_bind, result_get, after_get, entered]
      exact staged.of_same rfl rfl
  | cancel d => exact tracks
  | resume =>
    exact tracks.of_same rfl (congrArg Console.stored x.editor.console_refreshVisible)
  | save =>
    unfold step
    simp only
    split
    · rename_i saves
      obtain ⟨pending, console⟩ := x.editor.doSave_of_saves saves
      exact tracks_of_snapshot x.editor.written pending console
    · rename_i kept
      obtain ⟨pending, stored⟩ := x.editor.doSave_of_not_saves kept
      exact tracks.of_same pending stored
  | elapse change kept => exact tracks.of_same rfl (kept _)

/-- The law of a step. A save whose guarded write returns true leaves every staged day with the
limit that was last staged for it, and every other day with the limit that it had; any other
step stores nothing, and a save that fails keeps what was staged. -/
def Editing.ChangesOnlyStaged (x : Editing) : EditorEvent → Prop
  | .save =>
    if x.editor.changed = true ∧ result x.editor.guardedSave x.editor.app = true then
      ∀ d, (x.step .save).editor.limit d = (x.staged d).getD (x.editor.limit d)
    else
      (∀ d, (x.step .save).editor.limit d = x.editor.limit d) ∧
        ∀ d limit, x.staged d = some limit →
          Sentinel.decode ptDayNoLimit ((x.step .save).editor.pending d) = limit
  | event => ∀ d, (x.step event).editor.limit d = x.editor.limit d

/-- A save that stores the limits finds every day that is not staged seeded right. -/
def Editing.SeededRight (x : Editing) : EditorEvent → Prop
  | .save => x.editor.Saves → ∀ d, x.staged d = none → x.seeded d = true
  | _ => True

/-- Over a tracked editor, a step changes only what was staged exactly when every other day was
seeded right. -/
theorem Editing.changesOnlyStaged_iff (x : Editing) (event : EditorEvent) (tracks : x.Tracks) :
    x.ChangesOnlyStaged event ↔ x.SeededRight event := by
  cases event with
  | save =>
    unfold ChangesOnlyStaged SeededRight
    simp only [← PerDay.saves_iff]
    by_cases saves : x.editor.Saves
    · have limit : ∀ d, (x.step .save).editor.limit d =
          Sentinel.decode ptDayNoLimit (x.editor.pending d) := by
        intro d
        simp only [step, saves, ↓reduceIte, PerDay.limit, PerDay.react,
          (x.editor.doSave_of_saves saves).2]
        exact limit_guardedSetDays x.editor.pending _ x.editor.app saves.2 d
      simp only [saves, ↓reduceIte, true_implies]
      refine forall_congr' fun d => ?_
      rw [limit d]
      cases staged : x.staged d with
      | none => simpa [staged] using tracks.unstaged d staged
      | some stagedLimit => simpa [staged] using tracks.staged d stagedLimit staged
    · obtain ⟨pending, stored⟩ := x.editor.doSave_of_not_saves saves
      simp only [saves, ↓reduceIte, false_implies, iff_true, step, PerDay.limit, PerDay.react,
        pending, stored, implies_true, true_and]
      exact tracks.staged
  | minutes d typist =>
    refine iff_of_true (fun n => ?_) trivial
    unfold step PerDay.react PerDay.stageMinutes PerDay.limit
    cases entered : promptedMinutes x.editor.pending d typist with
    | none => simp only [after_bind, result_get, after_get, entered, after_pure]
    | some v =>
      simp only [after_bind, result_get, after_get, entered]
      rfl
  | resume =>
    exact iff_of_true (fun d => congrArg (fun c : Console => limitOf (daySlot c.stored d))
      x.editor.console_refreshVisible) trivial
  | elapse change kept =>
    exact iff_of_true (fun d => congrArg (fun s => limitOf (daySlot s d)) (kept _)) trivial
  | noLimit d => exact iff_of_true (fun n => Eq.refl (x.editor.limit n)) trivial
  | cancel d => exact iff_of_true (fun n => Eq.refl (x.editor.limit n)) trivial

/-- In every run of the editor, whatever is stored and whatever fails, every step changes only
what was staged exactly when every save that stores the limits finds the other days seeded
right. -/
theorem changes_only_staged_iff (app : App) (events : List EditorEvent) :
    Runs.Along Editing.step Editing.ChangesOnlyStaged (.opened app) events ↔
      Runs.Along Editing.step Editing.SeededRight (.opened app) events :=
  Runs.along_iff Editing.Tracks Editing.tracks_step Editing.changesOnlyStaged_iff events _
    (Editing.tracks_opened app)

/-- A user who types 30 and confirms. -/
def Typist.thirty : Typist := fun _ => ⟨0, 0, [0x33, 0x30]⟩

/-- The editor of a console with a limit of 60 minutes on every day, where the settings could
not be read when the screen opened. -/
def Editing.misread : Editing := .opened (.enter (.launched (.sample (.everyDay 60) false)
  (.failing [.getPlayTimerSettings])))

/-- With 30 minutes staged for Sunday it writes when it saves, which removes Monday's limit. -/
theorem Editing.limit_misread :
    let staged := misread.step (.minutes 0 .thirty)
    (staged.editor.changed = true ∧
        result staged.editor.guardedSave staged.editor.app = true) ∧
      staged.staged 1 = none ∧ staged.editor.limit 1 = some 60 ∧
      (staged.step .save).editor.limit 1 = none := by
  decide

/-- The settings cannot be read when the screen opens: staging 30 minutes for Sunday and saving
removes Monday's limit of 60 minutes. -/
theorem save_erases_unstaged : ¬Runs.Along Editing.step Editing.ChangesOnlyStaged .misread
    [.minutes 0 .thirty, .save] := by
  intro law
  obtain ⟨wrote, staged, before, saved⟩ := Editing.limit_misread
  have changes : (Editing.misread.step (.minutes 0 .thirty)).ChangesOnlyStaged .save := law.2.1
  unfold Editing.ChangesOnlyStaged at changes
  rw [if_pos wrote] at changes
  have kept := changes 1
  rw [staged, before, saved] at kept
  cases kept

end PctlManager
