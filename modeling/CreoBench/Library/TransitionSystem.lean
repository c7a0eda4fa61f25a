import Mathlib.Logic.Basic
import Mathlib.Tactic.SplitIfs

/-!
# Event-driven machines and their runs

A machine is a step function that either refuses an event or answers it with
the next state.  All nondeterminism (which party moves next, how long it takes,
what the environment answers) is carried by the event, so that a run is an
event list and can be evaluated.  Properties of runs are stated over the
inductively defined reachable states, possibly only along steps that meet a
side condition on the state before the step and the event.
-/

/-- A machine with explicit events; `none` means that the event is not enabled. -/
structure Machine (State : Type*) (Event : Type*) where
  initial : State → Prop
  step : State → Event → Option State

namespace Machine

variable {State Event State' Event' : Type*}

/-- States reachable by steps that all satisfy `allowed`. -/
inductive ReachableBy (machine : Machine State Event)
    (allowed : State → Event → Prop) : State → Prop
  | start {state : State} :
      machine.initial state → ReachableBy machine allowed state
  | step {state next : State} {event : Event} :
      ReachableBy machine allowed state → allowed state event →
        machine.step state event = some next → ReachableBy machine allowed next

/-- States reachable by any steps. -/
abbrev Reachable (machine : Machine State Event) : State → Prop :=
  machine.ReachableBy fun _ _ => True

namespace ReachableBy

variable {machine : Machine State Event} {allowed : State → Event → Prop}
variable {state : State}

theorem mono {stronger weaker : State → Event → Prop}
    (weakens : ∀ state event, stronger state event → weaker state event)
    (reachable : machine.ReachableBy stronger state) :
    machine.ReachableBy weaker state := by
  induction reachable with
  | start initial => exact start initial
  | step _ permitted stepped ih => exact ih.step (weakens _ _ permitted) stepped

/-- Forgetting the side condition of a run. -/
theorem reachable (reachableBy : machine.ReachableBy allowed state) :
    machine.Reachable state :=
  reachableBy.mono fun _ _ _ => trivial

/-- The induction rule of inductive invariants. -/
theorem invariant {Invariant : State → Prop}
    (initially : ∀ state, machine.initial state → Invariant state)
    (preserved : ∀ state event next, Invariant state → allowed state event →
      machine.step state event = some next → Invariant next)
    (reachable : machine.ReachableBy allowed state) : Invariant state := by
  induction reachable with
  | start initial => exact initially _ initial
  | step _ permitted stepped ih => exact preserved _ _ _ ih permitted stepped

/-- An inductive invariant may rely on facts already known of every reachable
state. -/
theorem invariant_of_known {Known Invariant : State → Prop}
    (known : ∀ state, machine.Reachable state → Known state)
    (initially : ∀ state, machine.initial state → Invariant state)
    (preserved : ∀ state event next, Known state → Invariant state →
      allowed state event → machine.step state event = some next →
        Invariant next)
    (reachable : machine.ReachableBy allowed state) : Invariant state := by
  induction reachable with
  | start initial => exact initially _ initial
  | step reached permitted stepped ih =>
      exact preserved _ _ _ (known _ reached.reachable) ih permitted stepped

/-- A component of a larger machine whose every step is a step of the component
or leaves it alone reaches only states that the component reaches by itself. -/
theorem project {component : Machine State' Event'}
    {permits : State' → Event' → Prop} (view : State → State')
    (initially : ∀ state, machine.initial state → component.initial (view state))
    (simulated : ∀ state event next, allowed state event →
      machine.step state event = some next →
        view next = view state ∨
          ∃ event', permits (view state) event' ∧
            component.step (view state) event' = some (view next))
    (reachable : machine.ReachableBy allowed state) :
    component.ReachableBy permits (view state) := by
  induction reachable with
  | start initial => exact start (initially _ initial)
  | step _ permitted stepped ih =>
      rcases simulated _ _ _ permitted stepped with unchanged | ⟨event', ok, moved⟩
      · rw [unchanged]
        exact ih
      · exact ih.step ok moved

end ReachableBy

/-- Feed a list of events to a machine, all of which must be permitted. -/
def exec (machine : Machine State Event) (permits : State → Event → Bool)
    (state : State) : List Event → Option State
  | [] => some state
  | event :: events =>
      if permits state event then
        (machine.step state event).bind (machine.exec permits · events)
      else none

/-- Every executed event list is a run. -/
theorem reachableBy_of_exec {machine : Machine State Event}
    {permits : State → Event → Bool} {allowed : State → Event → Prop}
    (permitted : ∀ state event, permits state event → allowed state event)
    {state final : State} (events : List Event)
    (reachable : machine.ReachableBy allowed state)
    (executed : machine.exec permits state events = some final) :
    machine.ReachableBy allowed final := by
  induction events generalizing state with
  | nil =>
      obtain rfl : state = final := Option.some.inj executed
      exact reachable
  | cons event events ih =>
      unfold exec at executed
      split_ifs at executed with ok
      obtain ⟨next, stepped, rest⟩ := Option.bind_eq_some_iff.mp executed
      exact ih (reachable.step (permitted state event ok) stepped) rest

/-- A run takes no more steps than a quantity that every step increases. -/
theorem length_le_of_exec {machine : Machine State Event} {permits : State → Event → Bool}
    {progress : State → Nat}
    (advances : ∀ state event next, machine.step state event = some next →
      progress state < progress next)
    {state final : State} {events : List Event}
    (executed : machine.exec permits state events = some final) :
    progress state + events.length ≤ progress final := by
  induction events generalizing state with
  | nil =>
      obtain rfl : state = final := Option.some.inj executed
      exact Nat.le_refl _
  | cons event events ih =>
      unfold exec at executed
      split_ifs at executed
      obtain ⟨next, stepped, rest⟩ := Option.bind_eq_some_iff.mp executed
      have first := advances state event next stepped
      have later := ih rest
      rw [List.length_cons]
      omega

/-- A run has no more events of one kind than a budget that every such event
draws on and no other event raises. -/
theorem countP_add_le_of_exec {machine : Machine State Event}
    {permits : State → Event → Bool} {kind : Event → Bool} {budget : State → Nat}
    (spends : ∀ state event next, permits state event = true →
      machine.step state event = some next →
        (if kind event then 1 else 0) + budget next ≤ budget state)
    {state final : State} {events : List Event}
    (executed : machine.exec permits state events = some final) :
    events.countP kind + budget final ≤ budget state := by
  induction events generalizing state with
  | nil =>
      obtain rfl : state = final := Option.some.inj executed
      simp
  | cons event events ih =>
      unfold exec at executed
      split_ifs at executed with permitted
      obtain ⟨next, stepped, rest⟩ := Option.bind_eq_some_iff.mp executed
      have first := spends state event next permitted stepped
      have later := ih rest
      rw [List.countP_cons]
      omega

/-- States from which permitted steps can lead to a goal. -/
inductive CanReach (machine : Machine State Event) (permits : State → Event → Bool)
    (goal : State → Prop) : State → Prop
  | here {state : State} : goal state → CanReach machine permits goal state
  | step {state next : State} {event : Event} :
      permits state event → machine.step state event = some next →
        CanReach machine permits goal next → CanReach machine permits goal state

/-- A goal on the way to another one. -/
theorem CanReach.trans {machine : Machine State Event} {permits : State → Event → Bool}
    {between goal : State → Prop} {state : State}
    (canReach : machine.CanReach permits between state)
    (goesOn : ∀ state, between state → machine.CanReach permits goal state) :
    machine.CanReach permits goal state := by
  induction canReach with
  | here reached => exact goesOn _ reached
  | step permitted stepped _ ih => exact .step permitted stepped ih

/-- Steps that lower a measure lead to the goal. -/
theorem canReach_of_measure {machine : Machine State Event} {permits : State → Event → Bool}
    {goal Invariant : State → Prop} (measure : State → Nat)
    (progress : ∀ state, Invariant state → ∃ event next, permits state event ∧
      machine.step state event = some next ∧
        (goal next ∨ Invariant next ∧ measure next < measure state))
    {state : State} (holds : Invariant state) : machine.CanReach permits goal state := by
  induction size : measure state using Nat.strongRecOn generalizing state with
  | ind size ih =>
      obtain ⟨event, next, permitted, stepped, reached | ⟨nextHolds, less⟩⟩ :=
        progress state holds
      · exact .step permitted stepped (.here reached)
      · exact .step permitted stepped (ih (measure next) (size ▸ less) nextHolds rfl)

/-- What is reached from a reachable state is reachable. -/
theorem CanReach.and_reachable {machine : Machine State Event}
    {permits : State → Event → Bool} {goal : State → Prop} {state : State}
    (canReach : machine.CanReach permits goal state) (reachable : machine.Reachable state) :
    machine.CanReach permits (fun final => goal final ∧ machine.Reachable final) state := by
  induction canReach with
  | here reached => exact .here ⟨reached, reachable⟩
  | step permitted stepped _ ih =>
      exact .step permitted stepped (ih (reachable.step trivial stepped))

/-- The run that leads to the goal. -/
theorem CanReach.exists_exec {machine : Machine State Event} {permits : State → Event → Bool}
    {goal : State → Prop} {state : State} (canReach : machine.CanReach permits goal state) :
    ∃ events final, machine.exec permits state events = some final ∧ goal final := by
  induction canReach with
  | here reached => exact ⟨[], _, rfl, reached⟩
  | @step _ _ event permitted stepped _ ih =>
      obtain ⟨events, final, executed, reached⟩ := ih
      refine ⟨event :: events, final, ?_, reached⟩
      rw [exec, if_pos permitted, stepped]
      exact executed

/-- A run found by evaluation. -/
theorem exists_reachableBy_of_exec (machine : Machine State Event)
    {permits : State → Event → Bool} {allowed : State → Event → Prop}
    (permitted : ∀ state event, permits state event → allowed state event)
    {state : State} (initial : machine.initial state) (events : List Event)
    (check : State → Bool)
    (executed : (machine.exec permits state events).any check = true) :
    ∃ final, machine.ReachableBy allowed final ∧ check final = true := by
  obtain ⟨final, finalEq, checked⟩ := (Option.any_eq_true _ _).mp executed
  exact ⟨final, reachableBy_of_exec permitted events (.start initial) finalEq, checked⟩

/-- The same without a side condition. -/
theorem exists_reachable_of_exec (machine : Machine State Event) {state : State}
    (initial : machine.initial state) (events : List Event) (check : State → Bool)
    (executed : (machine.exec (fun _ _ => true) state events).any check = true) :
    ∃ final, machine.Reachable final ∧ check final = true :=
  machine.exists_reachableBy_of_exec (fun _ _ _ => trivial) initial events check executed

end Machine
