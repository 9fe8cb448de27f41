import Mathlib.Logic.Basic

/-! Deterministic machines and their runs.
All the nondeterminism of an environment (which party moves, which call fails, what
the clock says) is in the event, so a run is a list of events and can be evaluated.
-/
set_option autoImplicit false

namespace Transition

structure Machine (State Event : Type) where
  initial : State → Prop
  next : State → Event → Option State

namespace Machine

variable {State Event : Type} (m : Machine State Event)

def run : State → List Event → Option State
  | state, [] => some state
  | state, event :: events => (m.next state event).bind fun after => run after events

def Respects (guard : State → Event → Prop) : State → List Event → Prop
  | _, [] => True
  | state, event :: events =>
      guard state event ∧ ∀ after, m.next state event = some after → Respects guard after events

instance decidableRespects (guard : State → Event → Prop)
    [∀ state event, Decidable (guard state event)] :
    ∀ state events, Decidable (m.Respects guard state events)
  | _, [] => isTrue trivial
  | state, event :: events =>
      match taken : m.next state event with
      | none =>
          decidable_of_iff (guard state event) (by simp [Respects,taken])
      | some after =>
          have := decidableRespects guard after events
          decidable_of_iff (guard state event ∧ m.Respects guard after events)
            (by simp [Respects,taken])

def Reachable (state : State) : Prop :=
  ∃ start events, m.initial start ∧ m.run start events = some state

/-- Reachable by a run whose every event meets the guard. -/
def ReachableWithin (guard : State → Event → Prop) (state : State) : Prop :=
  ∃ start events, m.initial start ∧ m.Respects guard start events ∧ m.run start events = some state

variable {m}

@[simp] theorem run_nil (state : State) : m.run state [] = some state := rfl

theorem run_cons (state : State) (event : Event) (events : List Event) :
    m.run state (event :: events) = (m.next state event).bind fun after => m.run after events := rfl

/-- A run that does not get stuck ends in the state that it is evaluated to. -/
theorem run_getD {start : State} {events : List Event}
    (ran : (m.run start events).isSome = true) :
    m.run start events = some ((m.run start events).getD start) := by
  obtain ⟨finish,reached⟩ := Option.isSome_iff_exists.mp ran
  rw [reached]
  rfl

/-- A machine that takes every event never gets stuck. -/
theorem run_total (total : ∀ state event, (m.next state event).isSome = true) (start : State)
    (events : List Event) : (m.run start events).isSome = true := by
  induction events generalizing start with
  | nil => rfl
  | cons event events ih =>
      obtain ⟨after,taken⟩ := Option.isSome_iff_exists.mp (total start event)
      rw [run_cons,taken]
      exact ih after

theorem run_append (state : State) (first second : List Event) :
    m.run state (first ++ second) = (m.run state first).bind fun after => m.run after second := by
  induction first generalizing state with
  | nil => rfl
  | cons event events ih =>
      simp only [List.cons_append,run_cons]
      cases m.next state event with
      | none => rfl
      | some after => exact ih after

/-- The last event of a longer run is a step from the state that the shorter run reaches. -/
theorem next_of_run {start middle after : State} {events : List Event} {event : Event}
    (reached : m.run start events = some middle)
    (longer : m.run start (events ++ [event]) = some after) : m.next middle event = some after := by
  rw [run_append,reached,Option.bind_some,run_cons] at longer
  simpa using longer

theorem run_isSome_of_append {start : State} {first second : List Event}
    (ran : (m.run start (first ++ second)).isSome = true) : (m.run start first).isSome = true := by
  rw [run_append] at ran
  exact Option.isSome_of_isSome_bind ran

theorem run_of_append {start middle after : State} {first second : List Event}
    (reached : m.run start first = some middle)
    (longer : m.run start (first ++ second) = some after) : m.run middle second = some after := by
  rw [run_append,reached,Option.bind_some] at longer
  exact longer

theorem respects_of_forall {guard : State → Event → Prop} {start : State} {events : List Event}
    (meets : ∀ event ∈ events, ∀ state, guard state event) : m.Respects guard start events := by
  induction events generalizing start with
  | nil => trivial
  | cons event events ih =>
      rw [List.forall_mem_cons] at meets
      exact ⟨meets.1 start,fun _ _ => ih meets.2⟩

/-- What every guarded step keeps holds after every guarded run. -/
theorem run_guarded {guard : State → Event → Prop} {Keeps : State → Prop}
    (step : ∀ state event after, Keeps state → guard state event →
      m.next state event = some after → Keeps after)
    {start finish : State} {events : List Event} (holds : Keeps start)
    (respects : m.Respects guard start events) (reached : m.run start events = some finish) :
    Keeps finish := by
  induction events generalizing start with
  | nil => cases reached; exact holds
  | cons event events ih =>
      rw [run_cons] at reached
      cases taken : m.next start event with
      | none => simp [taken] at reached
      | some after =>
          rw [taken] at reached
          exact ih (step start event after holds respects.1 taken) (respects.2 after taken) reached

theorem run_invariant {Keeps : State → Prop}
    (step : ∀ state event after, Keeps state → m.next state event = some after → Keeps after)
    {start finish : State} {events : List Event} (holds : Keeps start)
    (reached : m.run start events = some finish) : Keeps finish := by
  induction events generalizing start with
  | nil => cases reached; exact holds
  | cons event events ih =>
      rw [run_cons] at reached
      cases taken : m.next start event with
      | none => simp [taken] at reached
      | some after =>
          rw [taken] at reached
          exact ih (step start event after holds taken) reached

/-- An invariant may speak of the events so far. -/
theorem run_history {Keeps : List Event → State → Prop}
    (step : ∀ earlier state event after, Keeps earlier state → m.next state event = some after →
      Keeps (earlier ++ [event]) after)
    {start finish : State} {events : List Event} (holds : Keeps [] start)
    (reached : m.run start events = some finish) : Keeps events finish := by
  have further : ∀ (events earlier : List Event) (start : State), Keeps earlier start →
      m.run start events = some finish → Keeps (earlier ++ events) finish := by
    intro events
    induction events with
    | nil =>
        intro earlier start holds reached
        cases reached
        simpa using holds
    | cons event events ih =>
        intro earlier start holds reached
        rw [run_cons] at reached
        obtain ⟨after,taken,rest⟩ := Option.bind_eq_some_iff.mp reached
        simpa using ih (earlier ++ [event]) after (step earlier start event after holds taken) rest
  exact further events [] start holds reached

theorem Reachable.invariant {Keeps : State → Prop}
    (first : ∀ state, m.initial state → Keeps state)
    (step : ∀ state event after, Keeps state → m.next state event = some after → Keeps after)
    {state : State} (reachable : m.Reachable state) : Keeps state := by
  obtain ⟨start,events,initial,reached⟩ := reachable
  exact run_invariant step (first start initial) reached

theorem ReachableWithin.invariant {guard : State → Event → Prop} {Keeps : State → Prop}
    (first : ∀ state, m.initial state → Keeps state)
    (step : ∀ state event after, Keeps state → guard state event →
      m.next state event = some after → Keeps after)
    {state : State} (reachable : m.ReachableWithin guard state) : Keeps state := by
  obtain ⟨start,events,initial,respects,reached⟩ := reachable
  exact run_guarded step (first start initial) respects reached

theorem ReachableWithin.reachable {guard : State → Event → Prop} {state : State}
    (reachable : m.ReachableWithin guard state) : m.Reachable state := by
  obtain ⟨start,events,initial,-,reached⟩ := reachable
  exact ⟨start,events,initial,reached⟩

theorem Reachable.step {state after : State} {event : Event} (reachable : m.Reachable state)
    (taken : m.next state event = some after) : m.Reachable after := by
  obtain ⟨start,events,initial,reached⟩ := reachable
  refine ⟨start,events ++ [event],initial,?_⟩
  rw [run_append,reached]
  simp [run_cons,taken]

theorem Reachable.take {state after : State} (reachable : m.Reachable state) (event : Event)
    (taken : m.next state event = some after) : m.Reachable after := reachable.step taken

/-- The step of an invariant may use that the state is reachable, and so every invariant that was
proved before. -/
theorem Reachable.induct {Keeps : State → Prop}
    (first : ∀ state, m.initial state → Keeps state)
    (step : ∀ state event after, m.Reachable state → Keeps state →
      m.next state event = some after → Keeps after)
    {state : State} (reachable : m.Reachable state) : Keeps state := by
  have started : ∀ state, m.initial state → m.Reachable state ∧ Keeps state :=
    fun state initial => ⟨⟨state,[],initial,rfl⟩,first state initial⟩
  have stepped : ∀ state event after, m.Reachable state ∧ Keeps state →
      m.next state event = some after → m.Reachable after ∧ Keeps after :=
    fun state event after held taken => ⟨held.1.step taken,step state event after held.1 held.2 taken⟩
  exact (reachable.invariant started stepped).2

theorem Reachable.after {start finish : State} {events : List Event}
    (reachable : m.Reachable start) (reached : m.run start events = some finish) :
    m.Reachable finish :=
  run_invariant (fun _ _ _ held taken => held.step taken) reachable reached

/-- What a guard demands of reachable states the guarded runs meet. -/
theorem Reachable.respects {guard demand : State → Event → Prop}
    (meets : ∀ state event, m.Reachable state → guard state event → demand state event)
    {start : State} {events : List Event} (reachable : m.Reachable start)
    (respects : m.Respects guard start events) : m.Respects demand start events := by
  induction events generalizing start with
  | nil => trivial
  | cons event events ih =>
      exact ⟨meets start event reachable respects.1,
        fun after taken => ih (reachable.step taken) (respects.2 after taken)⟩

/-- What relates the two ends of every step relates the two ends of every run. -/
theorem Reachable.run_relation (Relates : State → State → Prop) (refl : ∀ state, Relates state state)
    (trans : ∀ first second third, Relates first second → Relates second third →
      Relates first third)
    (step : ∀ state event after, m.Reachable state → m.next state event = some after →
      Relates state after)
    {start finish : State} {events : List Event} (reachable : m.Reachable start)
    (reached : m.run start events = some finish) : Relates start finish := by
  induction events generalizing start with
  | nil =>
      cases reached
      exact refl _
  | cons event events ih =>
      rw [run_cons] at reached
      obtain ⟨middle,taken,rest⟩ := Option.bind_eq_some_iff.mp reached
      exact trans start middle finish (step start event middle reachable taken)
        (ih (reachable.step taken) rest)

end Machine

end Transition
