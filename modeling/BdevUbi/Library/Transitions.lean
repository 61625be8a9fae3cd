import Mathlib.Tactic.Common

/-! Runs of a partial step function, and the rules that carry a property along them.

A run is the list of its events. `Always` states a property of every state a
run passes through, `Guarded` a condition on every event and the state it meets.
-/

set_option autoImplicit false

namespace BdevUbi.Library

variable {State Event : Type}

/-- The state after the events, if each of them can happen where it stands. -/
def run (step : State → Event → Option State) : State → List Event → Option State
  | s, [] => some s
  | s, e :: rest => (step s e).bind fun s' => run step s' rest

/-- The property holds in the first state and in every state the run passes. -/
def Always (step : State → Event → Option State) (property : State → Prop) : State → List Event → Prop
  | s, [] => property s
  | s, e :: rest => property s ∧ ∀ s', step s e = some s' → Always step property s' rest

/-- Every event meets the guard in the state in which it happens. -/
def Guarded (step : State → Event → Option State) (guard : State → Event → Prop) : State → List Event → Prop
  | _, [] => True
  | s, e :: rest => guard s e ∧ ∀ s', step s e = some s' → Guarded step guard s' rest

section
variable {step : State → Event → Option State}

@[simp] theorem run_nil (s : State) : run step s [] = some s := rfl

theorem run_cons {s final : State} {e : Event} {rest : List Event} :
    run step s (e :: rest) = some final ↔ ∃ s', step s e = some s' ∧ run step s' rest = some final := by
  simp [run, Option.bind_eq_some_iff]

theorem run_append {s final : State} {first rest : List Event} :
    run step s (first ++ rest) = some final ↔
      ∃ s', run step s first = some s' ∧ run step s' rest = some final := by
  induction first generalizing s with
  | nil => simp
  | cons e first ih =>
    simp only [List.cons_append, run_cons, ih]
    constructor
    · rintro ⟨s₁, now, s₂, before, after⟩
      exact ⟨s₂, ⟨s₁, now, before⟩, after⟩
    · rintro ⟨s₂, ⟨s₁, now, before⟩, after⟩
      exact ⟨s₁, now, s₂, before, after⟩

theorem run_snoc {s final : State} {events : List Event} {e : Event} :
    run step s (events ++ [e]) = some final ↔
      ∃ s', run step s events = some s' ∧ step s' e = some final := by
  rw [run_append]
  simp [run_cons]

/-- What every step preserves, every run preserves. -/
theorem run_invariant {invariant : State → Prop}
    (preserved : ∀ s e s', invariant s → step s e = some s' → invariant s')
    {s final : State} {events : List Event} (start : invariant s) (ran : run step s events = some final) :
    invariant final := by
  induction events generalizing s with
  | nil =>
    cases ran
    exact start
  | cons e rest ih =>
    obtain ⟨s', now, later⟩ := run_cons.mp ran
    exact ih (preserved s e s' start now) later

/-- What every step that meets the guard preserves holds all along a guarded run. -/
theorem always_of_guarded {guard : State → Event → Prop} {invariant : State → Prop}
    (preserved : ∀ s e s', invariant s → guard s e → step s e = some s' → invariant s')
    {s : State} {events : List Event} (start : invariant s) (guarded : Guarded step guard s events) :
    Always step invariant s events := by
  induction events generalizing s with
  | nil => exact start
  | cons e rest ih =>
    obtain ⟨here, later⟩ := guarded
    exact ⟨start, fun s' now => ih (preserved s e s' start here now) (later s' now)⟩

theorem always_of_invariant {invariant : State → Prop}
    (preserved : ∀ s e s', invariant s → step s e = some s' → invariant s')
    {s : State} (start : invariant s) (events : List Event) : Always step invariant s events := by
  induction events generalizing s with
  | nil => exact start
  | cons e rest ih => exact ⟨start, fun s' now => ih (preserved s e s' start now)⟩

theorem Always.head {property : State → Prop} {s : State} {events : List Event}
    (always : Always step property s events) : property s := by
  cases events with
  | nil => exact always
  | cons e rest => exact always.1

/-- If a step keeps the property exactly when it meets the guard, and no guard speaks of
events that cannot happen while the property holds, it holds all along exactly the guarded
runs. The invariant is what every step keeps anyway. -/
theorem always_iff_guarded {guard : State → Event → Prop} {property invariant : State → Prop}
    (preserved : ∀ s e s', invariant s → step s e = some s' → invariant s')
    (exact : ∀ s e s', invariant s → property s → step s e = some s' → (property s' ↔ guard s e))
    (disabled : ∀ s e, property s → step s e = none → guard s e) {s : State} (sound : invariant s) (start : property s)
    (events : List Event) : Always step property s events ↔ Guarded step guard s events := by
  induction events generalizing s with
  | nil => exact ⟨fun _ => trivial, fun _ => start⟩
  | cons e rest ih =>
    constructor
    · rintro ⟨_, later⟩
      cases now : step s e with
      | none =>
        refine ⟨disabled s e start now, fun s' reached => ?_⟩
        rw [now] at reached
        cases reached
      | some t =>
        have kept := (later t now).head
        refine ⟨(exact s e t sound start now).mp kept, fun s' reached => ?_⟩
        cases now.symm.trans reached
        exact (ih (preserved s e t sound now) kept).mp (later t now)
    · rintro ⟨here, later⟩
      refine ⟨start, fun s' now => ?_⟩
      have kept := (exact s e s' sound start now).mpr here
      exact (ih (preserved s e s' sound now) kept).mpr (later s' now)

theorem Always.mono {first second : State → Prop} (weaker : ∀ s, first s → second s)
    {s : State} {events : List Event} (always : Always step first s events) :
    Always step second s events := by
  induction events generalizing s with
  | nil => exact weaker s always
  | cons e rest ih => exact ⟨weaker s always.1, fun s' now => ih (always.2 s' now)⟩

theorem Always.and {first second : State → Prop} {s : State} {events : List Event} (left : Always step first s events)
    (right : Always step second s events) : Always step (fun s => first s ∧ second s) s events := by
  induction events generalizing s with
  | nil => exact ⟨left, right⟩
  | cons e rest ih => exact ⟨⟨left.1, right.1⟩, fun s' now => ih (left.2 s' now) (right.2 s' now)⟩

theorem guarded_of_forall {guard : State → Event → Prop} (s : State) {events : List Event}
    (all : ∀ e ∈ events, ∀ s, guard s e) : Guarded step guard s events := by
  induction events generalizing s with
  | nil => trivial
  | cons e rest ih =>
    exact ⟨all e (List.mem_cons_self ..) s, fun s' _ => ih s' fun e' member => all e' (List.mem_cons_of_mem _ member)⟩

/-- Whether a run meets a guard can be found out by taking it. -/
def decideGuarded {guard : State → Event → Prop} (decide : ∀ s e, Decidable (guard s e)) (s : State) :
    (events : List Event) → Decidable (Guarded step guard s events)
  | [] => isTrue trivial
  | e :: rest =>
    match decide s e with
    | isFalse not => isFalse fun guarded => not guarded.1
    | isTrue here =>
      match now : step s e with
      | none => isTrue ⟨here, fun s' reached => by rw [now] at reached; cases reached⟩
      | some t =>
        match decideGuarded decide t rest with
        | isFalse not => isFalse fun guarded => not (guarded.2 t now)
        | isTrue later => isTrue ⟨here, fun s' reached => by rw [now] at reached; cases reached; exact later⟩

instance {guard : State → Event → Prop} [decide : ∀ s e, Decidable (guard s e)] (s : State) (events : List Event) :
    Decidable (Guarded step guard s events) := decideGuarded decide s events

theorem Guarded.mono {first second : State → Event → Prop} (weaker : ∀ s e, first s e → second s e)
    {s : State} {events : List Event} (guarded : Guarded step first s events) : Guarded step second s events := by
  induction events generalizing s with
  | nil => trivial
  | cons e rest ih => exact ⟨weaker s e guarded.1, fun s' now => ih (guarded.2 s' now)⟩

/-- A guard that speaks of the event alone holds of every event of a run. -/
theorem Guarded.forall_mem {guard : Event → Prop} {s final : State} {events : List Event}
    (guarded : Guarded step (fun _ e => guard e) s events) (ran : run step s events = some final) : ∀ e ∈ events, guard e := by
  induction events generalizing s with
  | nil =>
    intro e member
    cases member
  | cons first rest ih =>
    obtain ⟨s', now, later⟩ := run_cons.mp ran
    intro e member
    rcases List.mem_cons.mp member with rfl | behind
    · exact guarded.1
    · exact ih (guarded.2 s' now) later e behind

/-- What holds all along a run guards each of its events. -/
theorem Always.guarded {property : State → Prop} {s : State} {events : List Event} (always : Always step property s events) :
    Guarded step (fun s _ => property s) s events := by
  induction events generalizing s with
  | nil => trivial
  | cons e rest ih => exact ⟨always.1, fun s' now => ih (always.2 s' now)⟩

theorem Guarded.append {guard : State → Event → Prop} {s : State} {first rest : List Event}
    (guarded : Guarded step guard s first) (later : ∀ s', run step s first = some s' → Guarded step guard s' rest) :
    Guarded step guard s (first ++ rest) := by
  induction first generalizing s with
  | nil => exact later s rfl
  | cons e first ih =>
    refine ⟨guarded.1, fun t now => ih (guarded.2 t now) ?_⟩
    intro s' ran
    exact later s' (run_cons.mpr ⟨t, now, ran⟩)

/-- What holds all along a run holds all along the rest of it. -/
theorem Always.rest {property : State → Prop} {s s' : State} {first rest : List Event}
    (always : Always step property s (first ++ rest)) (ran : run step s first = some s') : Always step property s' rest := by
  induction first generalizing s with
  | nil =>
    cases ran
    exact always
  | cons e first ih =>
    obtain ⟨t, now, later⟩ := run_cons.mp ran
    exact ih (always.2 t now) later

/-- What holds all along a run holds where it ends. -/
theorem Always.final {property : State → Prop} {s final : State} {events : List Event}
    (always : Always step property s events) (ran : run step s events = some final) : property final := by
  induction events generalizing s with
  | nil =>
    cases ran
    exact always
  | cons e rest ih =>
    obtain ⟨s', now, later⟩ := run_cons.mp ran
    exact ih (always.2 s' now) later

/-- What holds all along a run holds, as far as it can be said of the other machine, all along the run
of a machine that this one follows. -/
theorem Always.transfer {State' : Type} {step' : State' → Event → Option State'} {related : State → State' → Prop}
    {first : State → Prop} {second : State' → Prop}
    (follows : ∀ s t e t', related s t → step' t e = some t' → ∃ s', step s e = some s' ∧ related s' t')
    (weaker : ∀ s t, related s t → first s → second t) {s : State} {t : State'} (start : related s t) {events : List Event}
    (always : Always step first s events) : Always step' second t events := by
  induction events generalizing s t with
  | nil => exact weaker s t start always
  | cons e rest ih =>
    refine ⟨weaker s t start always.1, fun t' now => ?_⟩
    obtain ⟨s', follow, still⟩ := follows s t e t' start now
    exact ih still (always.2 s' follow)

end

/-! ## Runs that work -/

section
variable {step : State → Event → Option State}

/-- If wherever the goal is not reached some event that meets the guard lowers a measure, a guarded run reaches it. -/
theorem reaches_of_measure (invariant goal : State → Prop) (guard : State → Event → Prop) (measure : State → Nat)
    (progress : ∀ s, invariant s → goal s ∨ ∃ e s', guard s e ∧ step s e = some s' ∧ invariant s' ∧ measure s' < measure s)
    {s : State} (start : invariant s) :
    ∃ events final, Guarded step guard s events ∧ run step s events = some final ∧ goal final := by
  induction bound : measure s using Nat.strongRecOn generalizing s with
  | ind n ih =>
    rcases progress s start with reached | ⟨e, s', here, now, sound, less⟩
    · exact ⟨[], s, trivial, rfl, reached⟩
    · obtain ⟨events, final, later, ran, reached⟩ := ih (measure s') (bound ▸ less) sound rfl
      refine ⟨e :: events, final, ⟨here, ?_⟩, run_cons.mpr ⟨s', now, ran⟩, reached⟩
      intro t step
      cases now.symm.trans step
      exact later

end

/-! ## Many machines at once -/

section
variable {Key : Type} [DecidableEq Key]

/-- Machines that share nothing, one for each key: an event is one machine's own. -/
def keyedStep (step : Key → State → Event → Option State) (s : Key → State) (event : Key × Event) : Option (Key → State) :=
  (step event.1 (s event.1) event.2).map (Function.update s event.1)

theorem always_keyed {step : Key → State → Event → Option State} {invariant : Key → State → Prop}
    (preserved : ∀ key s e s', invariant key s → step key s e = some s' → invariant key s')
    {s : Key → State} (start : ∀ key, invariant key (s key)) (events : List (Key × Event)) :
    Always (keyedStep step) (fun s => ∀ key, invariant key (s key)) s events := by
  refine always_of_invariant ?_ start events
  intro s event s' sound stepped key
  obtain ⟨t, now, rfl⟩ := Option.map_eq_some_iff.mp stepped
  by_cases same : key = event.1
  · subst same
    rw [Function.update_self]
    exact preserved event.1 (s event.1) event.2 t (sound event.1) now
  · rw [Function.update_of_ne same]
    exact sound key

end

end BdevUbi.Library
