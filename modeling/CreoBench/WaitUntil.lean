import CreoBench.Library.TransitionSystem
import CreoBench.Pacer
import Mathlib.Analysis.SpecialFunctions.Log.Base

/-!
# Waiting for an exact instant

`wait_until` sleeps for half of the remaining time until at most a millisecond
remains, and reads the clock in a loop for the rest.  The events are what the
thread gets from its surroundings: the readings of the clock, and the begin and
the end of every sleep.  Readings do not decrease and a sleep takes at least as
long as requested, but nothing else is assumed of either.
-/

namespace CreoBench

/-- Waits shorter than this are spent busy-waiting instead of sleeping. -/
def spinThreshold : Duration := Duration.fromMillis 1

/-- Where the thread stands in `wait_until`. -/
inductive WaitPosition where
  /-- About to read the clock at the head of the loop. -/
  | reading
  /-- About to sleep for `duration`. -/
  | sleeping (duration : Duration)
  /-- In the busy-wait. -/
  | spinning
  | returned
  deriving DecidableEq

structure WaitState where
  /-- The latest time that the thread has seen pass. -/
  clock : Instant
  position : WaitPosition
  deriving DecidableEq

inductive WaitEvent where
  /-- `Instant::now` returns. -/
  | now (instant : Instant)
  /-- `thread::sleep` is entered at `entered` and returns at `woken`. -/
  | slept (entered woken : Instant)
  deriving DecidableEq

namespace WaitUntil

/-- `Instant::checked_duration_since`. -/
def checkedDurationSince (deadline now : Instant) : Option Duration :=
  if now ≤ deadline then some (deadline - now) else none

def step (deadline : Instant) (state : WaitState) (event : WaitEvent) :
    Option WaitState :=
  match state.position, event with
  | .reading, .now now =>
      if state.clock ≤ now then
        match checkedDurationSince deadline now with
        | none => some ⟨now, .returned⟩
        | some remaining =>
            if remaining ≤ spinThreshold then some ⟨now, .spinning⟩
            else some ⟨now, .sleeping (remaining / 2)⟩
      else none
  | .sleeping duration, .slept entered woken =>
      if state.clock ≤ entered ∧ entered + duration ≤ woken then
        some ⟨woken, .reading⟩
      else none
  | .spinning, .now now =>
      if state.clock ≤ now then
        if now < deadline then some ⟨now, .spinning⟩
        else some ⟨now, .returned⟩
      else none
  | _, _ => none

end WaitUntil

/-- A call of `wait_until` when the clock shows `called`. -/
def waitUntil (deadline called : Instant) : Machine WaitState WaitEvent where
  initial state := state = ⟨called, .reading⟩
  step := WaitUntil.step deadline

namespace WaitUntil

variable {deadline called : Instant} {state next : WaitState} {event : WaitEvent}

/-- Everything a step of the thread can do. -/
theorem step_cases (stepped : step deadline state event = some next) :
    (∃ now, event = .now now ∧ state.clock ≤ now ∧
      ((state.position = .reading ∧ deadline < now ∧ next = ⟨now, .returned⟩) ∨
        (state.position = .reading ∧ now ≤ deadline ∧
          deadline - now ≤ spinThreshold ∧ next = ⟨now, .spinning⟩) ∨
        (state.position = .reading ∧ spinThreshold < deadline - now ∧
          next = ⟨now, .sleeping ((deadline - now) / 2)⟩) ∨
        (state.position = .spinning ∧ now < deadline ∧ next = ⟨now, .spinning⟩) ∨
        (state.position = .spinning ∧ deadline ≤ now ∧ next = ⟨now, .returned⟩))) ∨
    (∃ entered woken duration, event = .slept entered woken ∧
      state.position = .sleeping duration ∧ state.clock ≤ entered ∧
        entered + duration ≤ woken ∧ next = ⟨woken, .reading⟩) := by
  obtain ⟨clock, position⟩ := state
  cases position <;> cases event <;>
    simp only [step, checkedDurationSince] at stepped <;> try contradiction
  case reading.now now =>
    split_ifs at stepped with later notPassed
    · dsimp only at stepped
      split_ifs at stepped with short
      · cases stepped
        exact .inl ⟨now, rfl, later, .inr (.inl ⟨rfl, notPassed, short, rfl⟩)⟩
      · cases stepped
        exact .inl ⟨now, rfl, later,
          .inr (.inr (.inl ⟨rfl, Nat.lt_of_not_le short, rfl⟩))⟩
    · cases stepped
      exact .inl ⟨now, rfl, later, .inl ⟨rfl, Nat.lt_of_not_le notPassed, rfl⟩⟩
  case sleeping.slept duration entered woken =>
    split_ifs at stepped with slept
    cases stepped
    exact .inr ⟨entered, woken, duration, rfl, rfl, slept.1, slept.2, rfl⟩
  case spinning.now now =>
    split_ifs at stepped with later early
    · cases stepped
      exact .inl ⟨now, rfl, later, .inr (.inr (.inr (.inl ⟨rfl, early, rfl⟩)))⟩
    · cases stepped
      exact .inl ⟨now, rfl, later,
        .inr (.inr (.inr (.inr ⟨rfl, Nat.le_of_not_lt early, rfl⟩)))⟩

theorem add_two_mul_half_le {deadline now : Nat} (early : 0 < deadline - now) :
    now + 2 * ((deadline - now) / 2) ≤ deadline := by
  omega

/-- The wait is neither early nor does it ask for more than half of the time
that was left. -/
def Punctual (deadline : Instant) (state : WaitState) : Prop :=
  match state.position with
  | .reading => True
  | .sleeping duration => state.clock + 2 * duration ≤ deadline
  | .spinning => True
  | .returned => deadline ≤ state.clock

theorem punctual_step (stepped : step deadline state event = some next) :
    Punctual deadline next := by
  rcases step_cases stepped with
    ⟨now, -, -, ⟨-, passed, rfl⟩ | ⟨-, -, -, rfl⟩ | ⟨-, long, rfl⟩ | ⟨-, -, rfl⟩ |
      ⟨-, reached, rfl⟩⟩ | ⟨_, _, _, -, -, -, -, rfl⟩
  · exact Nat.le_of_lt passed
  · trivial
  · exact add_two_mul_half_le (Nat.zero_lt_of_lt long)
  · trivial
  · exact reached
  · trivial

theorem punctual_of_reachable (reachable : (waitUntil deadline called).Reachable state) :
    Punctual deadline state := by
  refine reachable.invariant ?initially ?preserved
  case initially =>
    rintro state rfl
    trivial
  case preserved =>
    intro state event next _ _ stepped
    exact punctual_step stepped

/-- How often a remaining time has to be halved until it is busy-waited. -/
def halvings (remaining : Duration) : Nat :=
  Nat.clog 2 ((remaining + (spinThreshold - 1)) / spinThreshold)

theorem halvings_mono {shorter longer : Duration} (le : shorter ≤ longer) :
    halvings shorter ≤ halvings longer :=
  Nat.clog_mono_right 2 (Nat.div_le_div_right (Nat.add_le_add_right le _))

/-- A sleep of half of the remaining time, rounded down, leaves one halving
less. -/
theorem halvings_half {remaining : Nat} (long : spinThreshold < remaining) :
    halvings (remaining - remaining / 2) + 1 = halvings remaining := by
  have long : 1000000 < remaining := long
  have several : 2 ≤ (remaining + 999999) / 1000000 := by omega
  have halved : (remaining - remaining / 2 + 999999) / 1000000 =
      ((remaining + 999999) / 1000000 + 2 - 1) / 2 := by
    omega
  change Nat.clog 2 ((remaining - remaining / 2 + 999999) / 1000000) + 1 =
    Nat.clog 2 ((remaining + 999999) / 1000000)
  rw [halved, ← Nat.clog_of_two_le (by decide) several]

/-- The ceiling of the logarithm to base two, with the remaining time in units
of the threshold. -/
theorem halvings_le_ceil_logb (remaining : Nat) :
    halvings remaining ≤
      ⌈Real.logb 2 ((remaining : ℝ) / (spinThreshold : ℝ))⌉₊ := by
  have thresholdPos : (0 : ℝ) < (spinThreshold : ℝ) := by
    norm_num [spinThreshold, Duration.fromMillis]
  have logLe := Nat.le_ceil (Real.logb 2 ((remaining : ℝ) / (spinThreshold : ℝ)))
  generalize ⌈Real.logb 2 ((remaining : ℝ) / (spinThreshold : ℝ))⌉₊ = doublings at logLe ⊢
  rcases Nat.eq_zero_or_pos remaining with rfl | positive
  · exact Nat.zero_le _
  · have ratioPos : (0 : ℝ) < (remaining : ℝ) / (spinThreshold : ℝ) :=
      div_pos (Nat.cast_pos.mpr positive) thresholdPos
    have ratioLe : (remaining : ℝ) / (spinThreshold : ℝ) ≤ 2 ^ doublings := by
      rw [← Real.rpow_natCast]
      exact (Real.logb_le_iff_le_rpow one_lt_two ratioPos).mp logLe
    have remainingLe : remaining ≤ 2 ^ doublings * 1000000 := by
      have := (div_le_iff₀ thresholdPos).mp ratioLe
      exact_mod_cast this
    refine Nat.clog_le_of_le_pow ?_
    change (remaining + 999999) / 1000000 ≤ 2 ^ doublings
    omega

/-- The sleeps that are still possible, counting the one about to begin. -/
def sleepsLeft (deadline : Instant) (state : WaitState) : Nat :=
  match state.position with
  | .reading => halvings (deadline - state.clock)
  | .sleeping duration => halvings (deadline - (state.clock + duration)) + 1
  | .spinning => 0
  | .returned => 0

def isSleep : WaitEvent → Bool
  | .now _ => false
  | .slept _ _ => true

theorem sleepsLeft_step (stepped : step deadline state event = some next) :
    (if isSleep event then 1 else 0) + sleepsLeft deadline next ≤
      sleepsLeft deadline state := by
  rcases step_cases stepped with
    ⟨now, rfl, later, ⟨-, -, rfl⟩ | ⟨-, -, -, rfl⟩ | ⟨atHead, long, rfl⟩ | ⟨-, -, rfl⟩ |
      ⟨-, -, rfl⟩⟩ | ⟨entered, woken, duration, rfl, asleep, begun, slept, rfl⟩
  · exact Nat.zero_le _
  · exact Nat.zero_le _
  · have left := halvings_half long
    have spent : halvings (deadline - now) ≤ halvings (deadline - state.clock) :=
      halvings_mono (Nat.sub_le_sub_left later deadline)
    simp only [isSleep, sleepsLeft, atHead]
    rw [Nat.sub_sub] at left
    simp only [Bool.false_eq_true, if_false, Nat.zero_add]
    omega
  · exact Nat.zero_le _
  · exact Nat.zero_le _
  · have woke : state.clock + duration ≤ woken :=
      Nat.le_trans (Nat.add_le_add_right begun duration) slept
    have spent := halvings_mono (Nat.sub_le_sub_left woke deadline)
    simp only [isSleep, sleepsLeft, asleep, if_true]
    omega

/-- What the operating system may answer next: a reading of a clock that has
moved on in the busy-wait and not gone back elsewhere, or a sleep of at least
the requested length. -/
def answers (state : WaitState) (event : WaitEvent) : Bool :=
  match state.position, event with
  | .reading, .now now => decide (state.clock ≤ now)
  | .sleeping duration, .slept entered woken =>
      decide (state.clock ≤ entered) && decide (entered + duration ≤ woken)
  | .spinning, .now now => decide (state.clock < now)
  | _, _ => false

/-- Steps that are still possible: one sleep and one reading for every halving,
and one reading for every nanosecond of the busy-wait. -/
def stepsLeft (deadline : Instant) (state : WaitState) : Nat :=
  match state.position with
  | .reading =>
      2 * halvings (deadline - state.clock) + (deadline - state.clock) + 2
  | .sleeping duration =>
      2 * halvings (deadline - (state.clock + duration)) +
        (deadline - (state.clock + duration)) + 3
  | .spinning => deadline - state.clock + 1
  | .returned => 0

theorem stepsLeft_step (answered : answers state event)
    (stepped : step deadline state event = some next) :
    stepsLeft deadline next < stepsLeft deadline state := by
  rcases step_cases stepped with
    ⟨now, rfl, later, ⟨atHead, -, rfl⟩ | ⟨atHead, -, -, rfl⟩ | ⟨atHead, long, rfl⟩ |
      ⟨inSpin, early, rfl⟩ | ⟨inSpin, -, rfl⟩⟩ |
    ⟨entered, woken, duration, rfl, asleep, begun, slept, rfl⟩
  · simp [stepsLeft, atHead]
  · have left := Nat.sub_le_sub_left later deadline
    simp only [stepsLeft, atHead]
    omega
  · have halved := halvings_half long
    have spent := halvings_mono (Nat.sub_le_sub_left later deadline)
    have left := Nat.sub_le_sub_left later deadline
    rw [Nat.sub_sub] at halved
    simp only [stepsLeft, atHead]
    omega
  · simp only [answers, inSpin, decide_eq_true_eq] at answered
    have left := Nat.sub_lt_sub_left (Nat.lt_trans answered early) answered
    simp only [stepsLeft, inSpin]
    omega
  · simp [stepsLeft, inSpin]
  · have woke : state.clock + duration ≤ woken :=
      Nat.le_trans (Nat.add_le_add_right begun duration) slept
    have spent := halvings_mono (Nat.sub_le_sub_left woke deadline)
    have left := Nat.sub_le_sub_left woke deadline
    simp only [stepsLeft, asleep]
    omega

/-- Every answer of the operating system is taken. -/
theorem step_isSome (answered : answers state event) :
    (step deadline state event).isSome := by
  obtain ⟨clock, position⟩ := state
  cases position <;> cases event <;>
    simp only [answers, decide_eq_true_eq, Bool.and_eq_true, Bool.false_eq_true] at answered
  case reading.now now =>
    simp only [step, if_pos answered]
    split
    · rfl
    · split_ifs <;> rfl
  case sleeping.slept duration entered woken =>
    simp only [step, if_pos answered, Option.isSome_some]
  case spinning.now now =>
    simp only [step, if_pos (Nat.le_of_lt answered)]
    split_ifs <;> rfl

theorem exists_answer (running : state.position ≠ .returned) :
    ∃ event, answers state event := by
  obtain ⟨clock, position⟩ := state
  cases position with
  | reading => exact ⟨.now clock, by simp [answers]⟩
  | sleeping duration => exact ⟨.slept clock (clock + duration), by simp [answers]⟩
  | spinning => exact ⟨.now (clock + 1), by simp [answers]⟩
  | returned => exact absurd rfl running

/-- A sleep that takes at most twice its length, entered at the reading it was
computed from, ends by the deadline. -/
theorem woken_le_deadline {duration woken : Duration} (punctual : Punctual deadline state)
    (asleep : state.position = .sleeping duration)
    (overshoot : woken ≤ state.clock + duration + duration) : woken ≤ deadline := by
  simp only [Punctual, asleep] at punctual
  calc
    woken ≤ state.clock + (duration + duration) := by rwa [← Nat.add_assoc]
    _ = state.clock + 2 * duration := by rw [Nat.two_mul]
    _ ≤ deadline := punctual

/-- After its first reading a wait sleeps at most once for every halving. -/
theorem sleeps_le {now : Instant} {events : List WaitEvent} {final : WaitState}
    (executed : (waitUntil deadline called).exec (fun _ _ => true) ⟨called, .reading⟩
      (.now now :: events) = some final) :
    events.countP isSleep ≤ halvings (deadline - now) := by
  obtain ⟨read, stepped, rest⟩ : ∃ read,
      (waitUntil deadline called).step ⟨called, .reading⟩ (.now now) = some read ∧
        (waitUntil deadline called).exec (fun _ _ => true) read events = some final := by
    simpa [Machine.exec, Option.bind_eq_some_iff] using executed
  have stepped : step deadline ⟨called, .reading⟩ (.now now) = some read := stepped
  have counted := Machine.countP_add_le_of_exec
    (fun _ _ _ _ => sleepsLeft_step) rest
  -- the first reading is taken again by a loop that starts at it
  have again : step deadline ⟨now, .reading⟩ (.now now) = some read := by
    rcases step_cases stepped with ⟨_, ⟨⟩, later, -⟩ | ⟨_, _, _, impossible, -⟩
    · simp only [step, if_pos later] at stepped
      simpa only [step, if_pos (Nat.le_refl now)] using stepped
    · cases impossible
  have first := sleepsLeft_step again
  simp only [sleepsLeft] at first counted
  omega

/-- A run has a bounded number of steps, and one that is not over goes on with
any answer of the operating system. -/
theorem length_le {events : List WaitEvent} {final : WaitState}
    (executed : (waitUntil deadline called).exec answers ⟨called, .reading⟩ events =
      some final) :
    events.length ≤ 2 * halvings (deadline - called) + (deadline - called) + 2 := by
  have counted : events.countP (fun _ => true) + stepsLeft deadline final ≤
      stepsLeft deadline ⟨called, .reading⟩ := by
    refine Machine.countP_add_le_of_exec ?_ executed
    intro state event next answered stepped
    rw [if_pos rfl, Nat.add_comm]
    exact stepsLeft_step answered stepped
  rw [List.countP_true] at counted
  exact Nat.le_trans (Nat.le_add_right _ _) counted

end WaitUntil

open WaitUntil in
/-- `wait_until` returns at the deadline or later, sleeps past it only when the
operating system more than doubles a sleep, and returns after finitely many
steps with at most logarithmically many sleeps. -/
theorem waitUntil_neither_early_nor_endless (deadline called : Instant) :
    (∀ state, (waitUntil deadline called).Reachable state →
      state.position = .returned → deadline ≤ state.clock) ∧
    (∀ state duration woken next, (waitUntil deadline called).Reachable state →
      state.position = .sleeping duration →
      (waitUntil deadline called).step state (.slept state.clock woken) = some next →
      woken ≤ state.clock + duration + duration → next.clock ≤ deadline) ∧
    (∀ now events final,
      (waitUntil deadline called).exec (fun _ _ => true) ⟨called, .reading⟩
        (.now now :: events) = some final →
      events.countP isSleep ≤
        ⌈Real.logb 2 ((deadline - now : Nat) / (spinThreshold : ℝ))⌉₊ + 1) ∧
    ∀ events final,
      (waitUntil deadline called).exec answers ⟨called, .reading⟩ events = some final →
      events.length ≤ 2 * halvings (deadline - called) + (deadline - called) + 2 ∧
        (final.position ≠ .returned → (∃ event, answers final event) ∧
          ∀ event, answers final event →
            ((waitUntil deadline called).step final event).isSome) := by
  refine ⟨?notEarly, ?sleepEnds, ?sleeps, ?terminates⟩
  case notEarly =>
    intro state reachable returned
    simpa only [Punctual, returned] using punctual_of_reachable reachable
  case sleepEnds =>
    intro state duration woken next reachable asleep stepped overshoot
    have woken_le := woken_le_deadline (punctual_of_reachable reachable) asleep overshoot
    rcases step_cases stepped with ⟨_, impossible, -⟩ | ⟨_, _, _, ⟨⟩, -, -, -, rfl⟩
    · cases impossible
    · exact woken_le
  case sleeps =>
    intro now events final executed
    exact Nat.le_succ_of_le
      ((sleeps_le executed).trans (halvings_le_ceil_logb (deadline - now)))
  case terminates =>
    intro events final executed
    exact ⟨length_le executed, fun running =>
      ⟨exists_answer running, fun _ answered => step_isSome answered⟩⟩

/-- Two sleeps, the first one longer than requested, and a busy-wait. -/
def fourMillis : List WaitEvent :=
  [.now 0, .slept 0 2500000, .now 2500000, .slept 2500000 3300000, .now 3300000,
    .now 3500000, .now 4000100]

open WaitUntil in
theorem waitUntil_neither_early_nor_endless_fourMillis :
    (∃ final, (waitUntil 4000000 0).exec answers ⟨0, .reading⟩ fourMillis = some final ∧
      final.position = .returned ∧ 4000000 ≤ final.clock ∧ fourMillis.length ≤ 4000006) ∧
    (∃ woken, (waitUntil 4000000 0).step ⟨0, .sleeping 2000000⟩ (.slept 0 2500000) =
      some woken ∧ woken.clock ≤ 4000000) ∧
    fourMillis.tail.countP isSleep ≤
      ⌈Real.logb 2 ((4000000 - 0 : Nat) / (spinThreshold : ℝ))⌉₊ + 1 := by
  obtain ⟨notEarly, sleepEnds, sleeps, terminates⟩ :=
    waitUntil_neither_early_nor_endless 4000000 0
  have called : (waitUntil 4000000 0).Reachable ⟨0, .reading⟩ := .start rfl
  have executed : (waitUntil 4000000 0).exec answers ⟨0, .reading⟩ fourMillis =
      some ⟨4000100, .returned⟩ := by decide
  have unrestricted : (waitUntil 4000000 0).exec (fun _ _ => true) ⟨0, .reading⟩
      fourMillis = some ⟨4000100, .returned⟩ := by decide
  have returned : (waitUntil 4000000 0).Reachable ⟨4000100, .returned⟩ :=
    Machine.reachableBy_of_exec (fun _ _ _ => trivial) fourMillis called executed
  have read : (waitUntil 4000000 0).step ⟨0, .reading⟩ (.now 0) =
      some ⟨0, .sleeping 2000000⟩ := by decide
  have asleep := called.step trivial read
  refine ⟨⟨_, executed, rfl, notEarly _ returned rfl, ?_⟩, ⟨_, rfl, ?_⟩, ?_⟩
  · exact (terminates _ _ executed).1.trans (by decide)
  · exact sleepEnds _ 2000000 2500000 _ asleep rfl rfl (by decide)
  · exact sleeps 0 _ _ unrestricted

/-- Where `run_schedule` waits for an arrival, it goes on once the wait for the
arrival's moment has returned. -/
theorem Pacer.step_isSome_of_returned {pacer : Pacer} {arrival : Arrival}
    {called : Instant} {state : WaitState}
    (arrived : pacer.position = .arrived arrival)
    (reachable : (waitUntil (pacer.timeZero.add ⟨arrival.offset⟩).instant called).Reachable
      state)
    (returned : state.position = .returned) (loadgeneratorId : LoadGeneratorId)
    (gaps : List Duration) :
    (pacer.step loadgeneratorId state.clock gaps).isSome := by
  have punctual := WaitUntil.punctual_of_reachable reachable
  have due : pacer.timeZero.instant + arrival.offset ≤ state.clock := by
    rw [WaitUntil.Punctual, returned] at punctual
    exact punctual
  simp only [Pacer.step, arrived, if_pos due]
  split_ifs
  · rfl
  · split <;> rfl

end CreoBench
