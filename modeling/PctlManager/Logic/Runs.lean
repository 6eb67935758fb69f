import Mathlib.Data.List.Forall2

/-!
# Runs of a machine

A machine is a total reaction of a state to an event. Its runs fold the reaction over a list
of events, and `Along` holds of a run that meets a condition at each of its events. What every
reaction keeps under that condition, such a run keeps, and an abstraction that commutes with
every such reaction commutes with the run. Two machines side by side keep a relation of their
states that every pair of related events keeps.
-/

namespace Runs

variable {σ τ ε : Type}

/-- The state after a list of events, first event first. -/
def run (step : σ → ε → σ) (s : σ) (events : List ε) : σ := events.foldl step s

/-- Every event of the run meets the condition in the state that it finds. -/
def Along (step : σ → ε → σ) (condition : σ → ε → Prop) : σ → List ε → Prop
  | _, [] => True
  | s, event :: events => condition s event ∧ Along step condition (step s event) events

variable {step : σ → ε → σ} {condition : σ → ε → Prop}

/-- No event leaves the state alone. -/
@[simp] theorem run_nil (s : σ) : run step s [] = s := rfl

/-- The first event reacts first. -/
@[simp] theorem run_cons (s : σ) (event : ε) (events : List ε) :
    run step s (event :: events) = run step (step s event) events := rfl

/-- A run in two halves. -/
theorem run_append (s : σ) (early late : List ε) :
    run step s (early ++ late) = run step (run step s early) late :=
  List.foldl_append

/-- A run that meets the condition meets it in both halves. -/
theorem along_append (early late : List ε) : ∀ s : σ, Along step condition s (early ++ late) ↔
    Along step condition s early ∧ Along step condition (run step s early) late := by
  induction early with
  | nil => exact fun s => (iff_of_eq (true_and _)).symm
  | cons event early ih =>
    intro s
    simp only [List.cons_append, Along, ih, run_cons, and_assoc]

/-- A condition that always holds is met by every run. -/
theorem along_of_forall (always : ∀ s event, condition s event) (events : List ε) :
    ∀ s, Along step condition s events := by
  induction events with
  | nil => exact fun _ => trivial
  | cons event events ih => exact fun s => ⟨always s event, ih _⟩

/-- Conditions that agree in every invariant state are met by the same runs from one. -/
theorem along_iff (I : σ → Prop) {other : σ → ε → Prop}
    (kept : ∀ s event, I s → I (step s event))
    (agree : ∀ s event, I s → (condition s event ↔ other s event)) (events : List ε) :
    ∀ s, I s → (Along step condition s events ↔ Along step other s events) := by
  induction events with
  | nil => exact fun _ _ => Iff.rfl
  | cons event events ih =>
    exact fun s held => and_congr (agree s event held) (ih _ (kept s event held))

/-- What every reaction keeps, every run keeps. -/
theorem run_preserves (I : σ → Prop)
    (kept : ∀ s event, condition s event → I s → I (step s event)) (events : List ε) :
    ∀ s, Along step condition s events → I s → I (run step s events) := by
  induction events with
  | nil => exact fun _ _ held => held
  | cons event events ih => exact fun s met held => ih _ met.2 (kept s event met.1 held)

/-- What some event establishes and every event keeps holds after every run with such an
event. -/
theorem run_latches (I : σ → Prop) {sets : ε → Prop} (kept : ∀ s event, I s → I (step s event))
    (set : ∀ s event, sets event → I (step s event)) (events : List ε) :
    ∀ s, (∃ event ∈ events, sets event) → I (run step s events) := by
  induction events with
  | nil => exact fun _ ⟨event, missing, _⟩ => absurd missing List.not_mem_nil
  | cons first events ih =>
    rintro s ⟨event, member, here⟩
    obtain rfl | later := List.mem_cons.mp member
    · exact run_preserves I (fun s event _ held => kept s event held) events (step s event)
        (along_of_forall (fun _ _ => trivial) _ _) (set s event here)
    · exact ih (step s first) ⟨event, later, here⟩

/-- A machine that has stopped stays as it is over every run. -/
theorem run_of_stopped {stopped : σ → Prop}
    (final : ∀ s event, stopped s → step s event = s) (events : List ε) {s : σ}
    (held : stopped s) : run step s events = s := by
  induction events with
  | nil => exact rfl
  | cons event events ih => rw [run_cons, final s event held, ih]

/-- A machine that stops exactly when an event triggers it stops over a run exactly at the first
of the events that do. -/
theorem run_stops_iff {stopped : σ → Prop} {trigger : σ → ε → Prop}
    (final : ∀ s event, stopped s → step s event = s)
    (stops : ∀ s event, ¬stopped s → (stopped (step s event) ↔ trigger s event))
    (events : List ε) : ∀ s, ¬stopped s → (stopped (run step s events) ↔
      ∃ early event late, events = early ++ event :: late ∧ ¬stopped (run step s early) ∧
        trigger (run step s early) event ∧
        run step s events = step (run step s early) event) := by
  induction events with
  | nil =>
    intro s running
    refine iff_of_false running ?_
    rintro ⟨early, event, late, none, -⟩
    exact List.append_ne_nil_of_right_ne_nil early (List.cons_ne_nil event late) none.symm
  | cons first events ih =>
    intro s running
    by_cases now : trigger s first
    · have stopped := (stops s first running).mpr now
      have last := run_of_stopped final events stopped
      rw [run_cons, last]
      exact iff_of_true stopped ⟨[], first, events, rfl, running, now, rfl⟩
    · have goes := mt (stops s first running).mp now
      rw [run_cons, ih (step s first) goes]
      constructor
      · rintro ⟨early, event, late, rfl, here⟩
        exact ⟨first :: early, event, late, rfl, here⟩
      · rintro ⟨early, event, late, split, here⟩
        cases early with
        | nil =>
          obtain ⟨rfl, rfl⟩ := List.cons.inj split
          exact (now here.2.1).elim
        | cons other early =>
          obtain ⟨rfl, rfl⟩ := List.cons.inj split
          exact ⟨early, event, late, rfl, here⟩

/-- An abstraction that commutes with every reaction from an invariant state commutes with
every run from one. -/
theorem run_simulates (I : σ → Prop) (abstraction : σ → τ) {reaction : τ → ε → τ}
    (kept : ∀ s event, condition s event → I s → I (step s event))
    (commutes : ∀ s event, condition s event → I s →
      abstraction (step s event) = reaction (abstraction s) event)
    (events : List ε) : ∀ s, Along step condition s events → I s →
      abstraction (run step s events) = run reaction (abstraction s) events := by
  induction events with
  | nil => exact fun _ _ _ => rfl
  | cons event events ih =>
    intro s met held
    rw [run_cons, ih _ met.2 (kept s event met.1 held), commutes s event met.1 held, run_cons]

/-! ## Several events for one -/

/-- The events of another machine that a run stands for, when each of its events stands for
some of them. -/
def translated {δ : Type} (step : σ → ε → σ) (translate : σ → ε → List δ) : σ → List ε → List δ
  | _, [] => []
  | s, event :: events => translate s event ++ translated step translate (step s event) events

/-- A machine each of whose reactions is a run of another one, under a condition, refines it over
the runs that meet the condition. -/
theorem run_refines_along {δ : Type} (I : σ → Prop) (abstraction : σ → τ) {reaction : τ → δ → τ}
    {translate : σ → ε → List δ} (kept : ∀ s event, condition s event → I s → I (step s event))
    (refined : ∀ s event, condition s event → I s →
      abstraction (step s event) = run reaction (abstraction s) (translate s event))
    (events : List ε) : ∀ s, Along step condition s events → I s → abstraction (run step s events) =
      run reaction (abstraction s) (translated step translate s events) := by
  induction events with
  | nil => exact fun _ _ _ => rfl
  | cons event events ih =>
    intro s met held
    rw [run_cons, ih _ met.2 (kept s event met.1 held), refined s event met.1 held, translated,
      run_append]

/-- Without a condition, it refines it over whole runs. -/
theorem run_refines {δ : Type} (I : σ → Prop) (abstraction : σ → τ) {reaction : τ → δ → τ}
    {translate : σ → ε → List δ} (kept : ∀ s event, I s → I (step s event))
    (refined : ∀ s event, I s →
      abstraction (step s event) = run reaction (abstraction s) (translate s event))
    (events : List ε) (s : σ) (held : I s) : abstraction (run step s events) =
      run reaction (abstraction s) (translated step translate s events) :=
  run_refines_along I abstraction (fun s event _ => kept s event)
    (fun s event _ => refined s event) events s (along_of_forall (fun _ _ => trivial) events s) held

/-! ## Two machines side by side -/

/-- A relation of the states that every pair of related events keeps, under a condition, is kept
by runs over related lists of events. -/
theorem run_related {δ : Type} {R : σ → τ → Prop} {E : ε → δ → Prop} {other : τ → δ → τ}
    (kept : ∀ s t event event', condition s event → E event event' → R s t →
      R (step s event) (other t event')) {events : List ε} {events' : List δ}
    (paired : List.Forall₂ E events events') : ∀ s t, Along step condition s events → R s t →
      R (run step s events) (run other t events') := by
  induction paired with
  | nil => exact fun _ _ _ related => related
  | cons pair _ ih =>
    intro s t met related
    have now := kept s t _ _ met.1 pair related
    exact ih _ _ met.2 now

/-! ## Counting -/

variable [∀ s event, Decidable (condition s event)]

/-- The number of events of the run that meet the condition in the state that they find. -/
def count (step : σ → ε → σ) (condition : σ → ε → Prop) [∀ s event, Decidable (condition s event)] :
    σ → List ε → Nat
  | _, [] => 0
  | s, event :: events =>
    (if condition s event then 1 else 0) + count step condition (step s event) events

/-- A measure that every reaction raises by one exactly under the condition counts the events
of the run that meet it. -/
theorem measure_run (measure : σ → Nat)
    (raised : ∀ s event, measure (step s event) =
      measure s + if condition s event then 1 else 0) (events : List ε) :
    ∀ s, measure (run step s events) = measure s + count step condition s events := by
  induction events with
  | nil => exact fun _ => rfl
  | cons event events ih =>
    intro s
    rw [run_cons, ih, raised, count, Nat.add_assoc]

/-- A ledger that no reaction overdraws: over a run it pays for what is spent out of what it
held and what was earned. -/
theorem count_le {spent earned : σ → ε → Prop} [∀ s event, Decidable (spent s event)]
    [∀ s event, Decidable (earned s event)] (ledger : σ → Nat)
    (paid : ∀ s event, ledger (step s event) + (if spent s event then 1 else 0) ≤
      ledger s + if earned s event then 1 else 0) (events : List ε) :
    ∀ s, ledger (run step s events) + count step spent s events ≤
      ledger s + count step earned s events := by
  induction events with
  | nil => exact fun s => Nat.le_refl (ledger s)
  | cons event events ih =>
    intro s
    have now := paid s event
    have later := ih (step s event)
    simp only [run_cons, count]
    omega

end Runs
