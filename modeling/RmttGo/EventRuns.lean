import Mathlib.Data.Option.Basic

/-!
# Runs of guarded event steps

A system is given by a partial step function: an event either is not enabled
in a state or leads to one next state.  A run is a list of events.  This file
provides the induction rules for runs: invariants, invariants of runs whose
steps all meet a condition, properties of every state a run passes, and bounds
on the length of a run.  A record kept beside the state makes the past of a run
a property of its states.
-/

namespace RmttGo

namespace EventRun

variable {State Event : Type*} (step : State → Event → Option State)

/-- Execute the events one after another; `none` as soon as one of them is
not enabled. -/
def run : State → List Event → Option State
  | state, [] => some state
  | state, event :: events =>
      (step state event).bind fun next => run next events

/-- Every executed step of the run meets `condition`, which sees the state
before the step. -/
def Meets (condition : State → Event → Prop) : State → List Event → Prop
  | _, [] => True
  | state, event :: events => ∀ next, step state event = some next →
      condition state event ∧ Meets condition next events

/-- Every state the run passes through has `property`. -/
def Always (property : State → Prop) : State → List Event → Prop
  | state, [] => property state
  | state, event :: events =>
      property state ∧
        ∀ next, step state event = some next → Always property next events

variable {step} {start finish : State} {events : List Event}

theorem run_cons_eq_some {event : Event} :
    run step start (event :: events) = some finish ↔
      ∃ next, step start event = some next ∧
        run step next events = some finish := by
  simp [run, Option.bind_eq_some_iff]

theorem run_append (first second : List Event) :
    run step start (first ++ second) =
      (run step start first).bind fun middle => run step middle second := by
  induction first generalizing start with
  | nil => rfl
  | cons event first ih =>
      simp only [List.cons_append, run]
      cases step start event with
      | none => rfl
      | some next => exact ih

theorem run_concat {event : Event} {next : State}
    (executed : run step start events = some finish)
    (stepped : step finish event = some next) :
    run step start (events ++ [event]) = some next := by
  rw [run_append, executed]
  exact run_cons_eq_some.mpr ⟨next, stepped, rfl⟩

theorem meets_cons_of_eq_some {condition : State → Event → Prop} {event : Event}
    {next : State} (stepped : step start event = some next) :
    Meets step condition start (event :: events) ↔
      condition start event ∧ Meets step condition next events := by
  simp [Meets, stepped]

theorem Meets.and {first second : State → Event → Prop}
    (meetsFirst : Meets step first start events)
    (meetsSecond : Meets step second start events) :
    Meets step (fun state event => first state event ∧ second state event)
      start events := by
  induction events generalizing start with
  | nil => trivial
  | cons event events ih =>
      intro next stepped
      obtain ⟨firstNow, firstLater⟩ := meetsFirst next stepped
      obtain ⟨secondNow, secondLater⟩ := meetsSecond next stepped
      exact ⟨⟨firstNow, secondNow⟩, ih firstLater secondLater⟩

theorem meets_of_forall_mem {condition : Event → Prop}
    (holds : ∀ event ∈ events, condition event) :
    Meets step (fun _ event => condition event) start events := by
  induction events generalizing start with
  | nil => trivial
  | cons event events ih =>
      obtain ⟨now, later⟩ := List.forall_mem_cons.mp holds
      intro next stepped
      exact ⟨now, ih later⟩

instance decidableMeets {condition : State → Event → Prop}
    [∀ state event, Decidable (condition state event)] :
    (start : State) → (events : List Event) →
      Decidable (Meets step condition start events)
  | _, [] => isTrue trivial
  | start, event :: events =>
      match stepped : step start event with
      | none => isTrue fun next stepTo => by cases stepped.symm.trans stepTo
      | some next =>
          have : Decidable (Meets step condition next events) :=
            decidableMeets next events
          decidable_of_iff' _ (meets_cons_of_eq_some stepped)

theorem invariant (Inv : State → Prop)
    (preserved : ∀ {state next : State} {event : Event},
      Inv state → step state event = some next → Inv next)
    (initially : Inv start) (executed : run step start events = some finish) :
    Inv finish := by
  induction events generalizing start with
  | nil =>
      cases executed
      exact initially
  | cons event events ih =>
      obtain ⟨next, stepTo, later⟩ := run_cons_eq_some.mp executed
      exact ih (preserved initially stepTo) later

/-- An invariant may also speak about the events that led to the state. -/
theorem invariant_of_history (Inv : List Event → State → Prop)
    (preserved : ∀ {past : List Event} {state next : State} {event : Event},
      Inv past state → step state event = some next → Inv (past ++ [event]) next)
    (initially : Inv [] start) (executed : run step start events = some finish) :
    Inv events finish := by
  suffices extended : ∀ past, Inv past start → Inv (past ++ events) finish from
    extended [] initially
  intro past holds
  clear initially
  induction events generalizing start past with
  | nil =>
      cases executed
      rwa [List.append_nil]
  | cons event events ih =>
      obtain ⟨next, stepTo, later⟩ := run_cons_eq_some.mp executed
      have extended := ih later (past ++ [event]) (preserved holds stepTo)
      rwa [List.append_assoc] at extended

/-- A property kept by every step that meets a condition holds at the end of
every run all of whose steps meet it. -/
theorem invariant_of_meets (Inv : State → Prop)
    {condition : State → Event → Prop}
    (preserved : ∀ {state next : State} {event : Event},
      Inv state → condition state event → step state event = some next →
        Inv next)
    (initially : Inv start) (meets : Meets step condition start events)
    (executed : run step start events = some finish) :
    Inv finish := by
  induction events generalizing start with
  | nil =>
      cases executed
      exact initially
  | cons event events ih =>
      obtain ⟨next, stepTo, later⟩ := run_cons_eq_some.mp executed
      obtain ⟨meetsNow, meetsLater⟩ := meets next stepTo
      exact ih (preserved initially meetsNow stepTo) meetsLater later

/-- When every step is matched by a run of another system, every run is. -/
theorem simulation {OtherState OtherEvent : Type*}
    {otherStep : OtherState → OtherEvent → Option OtherState}
    (Related : State → OtherState → Prop)
    (simulated : ∀ {state next : State} {event : Event} {other : OtherState},
      Related state other → step state event = some next →
        ∃ others otherNext, run otherStep other others = some otherNext ∧
          Related next otherNext)
    {otherStart : OtherState} (related : Related start otherStart)
    (executed : run step start events = some finish) :
    ∃ others otherFinish, run otherStep otherStart others = some otherFinish ∧
      Related finish otherFinish := by
  induction events generalizing start otherStart with
  | nil =>
      cases executed
      exact ⟨[], otherStart, rfl, related⟩
  | cons event events ih =>
      obtain ⟨next, stepTo, later⟩ := run_cons_eq_some.mp executed
      obtain ⟨first, otherNext, ranFirst, relatedNext⟩ :=
        simulated related stepTo
      obtain ⟨second, otherFinish, ranSecond, relatedFinish⟩ :=
        ih relatedNext later
      refine ⟨first ++ second, otherFinish, ?_, relatedFinish⟩
      rw [run_append, ranFirst]
      exact ranSecond

/-- When, under some invariant, a step leads to a state with `property`
exactly if it meets `condition`, a run has `property` throughout exactly if
all its steps meet `condition`. -/
theorem always_iff_meets (Inv : State → Prop) {property : State → Prop}
    {condition : State → Event → Prop}
    (holds : ∀ {state : State}, Inv state → property state)
    (preserved : ∀ {state next : State} {event : Event},
      Inv state → condition state event → step state event = some next →
        Inv next)
    (broken : ∀ {state next : State} {event : Event},
      Inv state → ¬ condition state event → step state event = some next →
        ¬ property next)
    (initially : Inv start) :
    Always step property start events ↔ Meets step condition start events := by
  induction events generalizing start with
  | nil => simp [Always, Meets, holds initially]
  | cons event events ih =>
      simp only [Always, Meets, holds initially, true_and]
      constructor
      · intro always next stepTo
        have meetsNow : condition start event := by
          by_contra violated
          apply broken initially violated stepTo
          have later := always next stepTo
          cases events with
          | nil => exact later
          | cons _ _ => exact later.1
        exact ⟨meetsNow, (ih (preserved initially meetsNow stepTo)).mp
          (always next stepTo)⟩
      · intro meets next stepTo
        obtain ⟨meetsNow, meetsLater⟩ := meets next stepTo
        exact (ih (preserved initially meetsNow stepTo)).mpr meetsLater

section CanReach

variable (step) in
/-- Some run whose steps all meet `condition` leads to a state with
`property`. -/
def CanReach (condition : State → Event → Prop) (property : State → Prop)
    (start : State) : Prop :=
  ∃ events finish, Meets step condition start events ∧
    run step start events = some finish ∧ property finish

variable {condition : State → Event → Prop} {property : State → Prop}

theorem canReach_of_property (holds : property start) :
    CanReach step condition property start :=
  ⟨[], start, trivial, rfl, holds⟩

theorem CanReach.cons {event : Event} {next : State}
    (stepped : step start event = some next) (meets : condition start event)
    (later : CanReach step condition property next) :
    CanReach step condition property start := by
  obtain ⟨events, finish, meetsLater, executed, holds⟩ := later
  refine ⟨event :: events, finish, ?_, ?_, holds⟩
  · exact (meets_cons_of_eq_some stepped).mpr ⟨meets, meetsLater⟩
  · exact run_cons_eq_some.mpr ⟨next, stepped, executed⟩

/-- Under an invariant one condition may imply another. -/
theorem Meets.mono {other : State → Event → Prop} (Inv : State → Prop)
    (preserved : ∀ {state next : State} {event : Event},
      Inv state → step state event = some next → Inv next)
    (implies : ∀ {state : State} {event : Event},
      Inv state → condition state event → other state event)
    (initially : Inv start) (meets : Meets step condition start events) :
    Meets step other start events := by
  induction events generalizing start with
  | nil => trivial
  | cons event events ih =>
      intro next stepped
      obtain ⟨meetsNow, meetsLater⟩ := meets next stepped
      exact ⟨implies initially meetsNow,
        ih (preserved initially stepped) meetsLater⟩

end CanReach

section Potential

/-- A run whose steps each use up one unit of a potential, to which `paying`
events add a `price`, is no longer than the potential and the payments. -/
theorem length_add_potential_le (Inv : State → Prop) (potential : State → Nat)
    (paying : Event → Bool) (price : Nat)
    (preserved : ∀ {state next : State} {event : Event},
      Inv state → step state event = some next → Inv next)
    (pays : ∀ {state next : State} {event : Event}, Inv state →
      step state event = some next →
        potential next + 1 ≤ potential state + if paying event then price else 0)
    (initially : Inv start) (executed : run step start events = some finish) :
    events.length + potential finish ≤
      potential start + price * events.countP paying := by
  induction events generalizing start with
  | nil =>
      cases executed
      simp
  | cons event events ih =>
      obtain ⟨next, stepTo, later⟩ := run_cons_eq_some.mp executed
      have paid := pays initially stepTo
      have bound := ih (preserved initially stepTo) later
      rw [List.length_cons, List.countP_cons, Nat.mul_add]
      split at paid
      case isTrue isPaying => simp only [isPaying, if_true]; omega
      case isFalse notPaying => simp only [notPaying]; omega

/-- Where every state without `property` has a step that lowers a potential, a
state with `property` can be reached. -/
theorem canReach_of_decreasing (Inv : State → Prop) (potential : State → Nat)
    {condition : State → Event → Prop} {property : State → Prop}
    (progress : ∀ {state : State}, Inv state → ¬ property state →
      ∃ event next, condition state event ∧ step state event = some next ∧
        Inv next ∧ potential next < potential state)
    (initially : Inv start) : CanReach step condition property start := by
  induction bound : potential start using Nat.strongRecOn
    generalizing start with
  | _ n ih =>
      by_cases holds : property start
      · exact canReach_of_property holds
      · obtain ⟨event, next, meets, stepped, kept, less⟩ :=
          progress initially holds
        exact CanReach.cons stepped meets (ih _ (bound ▸ less) kept rfl)

end Potential

section Recorded

variable {Log : Type*} (note : State → Event → State → Log → Log)

variable (step) in
/-- The system with a record beside its state.  `note` sees each step and
updates the record, which has no effect on the steps. -/
def recorded (recordedState : State × Log) (event : Event) :
    Option (State × Log) :=
  (step recordedState.1 event).map fun next =>
    (next, note recordedState.1 event next recordedState.2)

variable {note} {log : Log}

theorem recorded_eq_some {event : Event} {later : State × Log} :
    recorded step note (start, log) event = some later ↔
      ∃ next, step start event = some next ∧
        later = (next, note start event next log) := by
  simp [recorded, eq_comm]

theorem meets_recorded {condition : State → Event → Prop} :
    Meets (recorded step note) (fun recordedState => condition recordedState.1)
        (start, log) events ↔
      Meets step condition start events := by
  induction events generalizing start log with
  | nil => simp [Meets]
  | cons event events ih =>
      simp only [Meets]
      constructor
      · intro meets next stepped
        obtain ⟨meetsNow, meetsLater⟩ :=
          meets _ (recorded_eq_some.mpr ⟨next, stepped, rfl⟩)
        exact ⟨meetsNow, ih.mp meetsLater⟩
      · intro meets later recordedStep
        obtain ⟨next, stepped, rfl⟩ := recorded_eq_some.mp recordedStep
        obtain ⟨meetsNow, meetsLater⟩ := meets next stepped
        exact ⟨meetsNow, ih.mpr meetsLater⟩

end Recorded

end EventRun

end RmttGo
