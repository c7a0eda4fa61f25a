import CreoBench.Time
import Mathlib.Tactic.IntervalCases
import Mathlib.Tactic.Ring

/-!
# Connecting to the load generators

A load generator may not listen yet when the orchestrator starts, so
`ConnectHandle::connect` tries several times, with growing pauses.  What the
network answers depends on the instant at which an attempt begins; no two attempts
of a handle begin at the same one, so this leaves every behaviour open.  Timers may
be late, but never early.
-/

namespace CreoBench

/-- What `TcpStream::connect` yields, and after how long. -/
inductive TcpAnswer (Stream IoError : Type) where
  | accepted (after : Duration) (stream : Stream)
  | failed (after : Duration) (source : IoError)
  | silent

/-- The surroundings of a handle. -/
structure Network (Stream IoError : Type) where
  answer : Instant → TcpAnswer Stream IoError
  /-- How much later than due a timer ends. -/
  late : Instant → Duration

inductive ConnectAttemptError (IoError : Type) where
  | timedOut
  | failed (source : IoError)

structure ConnectError (IoError : Type) where
  addr : String
  attempt : Nat
  source : ConnectAttemptError IoError

structure ConfigureHandle (Stream : Type) where
  addr : String
  stream : Stream

structure ConnectHandle where
  addr : String

variable {Stream IoError : Type}

namespace ConnectHandle

def connectTimeout : Duration := Duration.fromSecs 5

def maxRetries : Nat := 5

def baseDelay : Duration := Duration.fromMillis 100

def maxDelay : Duration := Duration.fromSecs 5

/-- When the timeout of an attempt ends. -/
def expires (network : Network Stream IoError) (begun : Instant) : Instant :=
  begun + connectTimeout + network.late (begun + connectTimeout)

/-- One attempt, and when it ends.  An answer that comes when the timeout ends counts. -/
def tryConnect (network : Network Stream IoError) (begun : Instant) :
    Except (ConnectAttemptError IoError) Stream × Instant :=
  match network.answer begun with
  | .accepted after stream =>
      if begun + after ≤ expires network begun then (.ok stream, begun + after)
      else (.error .timedOut, expires network begun)
  | .failed after source =>
      if begun + after ≤ expires network begun then (.error (.failed source), begun + after)
      else (.error .timedOut, expires network begun)
  | .silent => (.error .timedOut, expires network begun)

def delay (attempt : Nat) : Duration := min (baseDelay * 2 ^ attempt) maxDelay

/-- When a pause ends that begins at `now`. -/
def wakeUp (network : Network Stream IoError) (attempt : Nat) (now : Instant) : Instant :=
  now + delay attempt + network.late (now + delay attempt)

/-- The loop over the remaining attempts; `none` is the `unreachable!` behind it. -/
def retry (handle : ConnectHandle) (network : Network Stream IoError) :
    List Nat → Instant →
      Option (Except (ConnectError IoError) (ConfigureHandle Stream)) × Instant
  | [], now => (none, now)
  | attempt :: attempts, now =>
      match tryConnect network now with
      | (.ok stream, ended) => (some (.ok ⟨handle.addr, stream⟩), ended)
      | (.error source, ended) =>
          if attempt = maxRetries then
            (some (.error ⟨handle.addr, attempt + 1, source⟩), ended)
          else retry handle network attempts (wakeUp network attempt ended)

def connect (handle : ConnectHandle) (network : Network Stream IoError) (start : Instant) :
    Option (Except (ConnectError IoError) (ConfigureHandle Stream)) × Instant :=
  handle.retry network (List.range (maxRetries + 1)) start

/-! ## The attempts -/

/-- When an attempt begins, if all before it fail. -/
def begins (network : Network Stream IoError) (start : Instant) : Nat → Instant
  | 0 => start
  | attempt + 1 =>
      wakeUp network attempt (tryConnect network (begins network start attempt)).2

def Fails (network : Network Stream IoError) (start : Instant) (attempt : Nat) : Prop :=
  ∃ source, (tryConnect network (begins network start attempt)).1 = .error source

/-- The loop passes over an attempt that fails. -/
theorem retry_of_fails (handle : ConnectHandle) {network : Network Stream IoError}
    {start : Instant} {attempt : Nat} (fails : Fails network start attempt)
    (more : attempt ≠ maxRetries) (attempts : List Nat) :
    handle.retry network (attempt :: attempts) (begins network start attempt) =
      handle.retry network attempts (begins network start (attempt + 1)) := by
  rcases fails with ⟨source, failed⟩
  rcases tried : tryConnect network (begins network start attempt) with ⟨result, ended⟩
  rw [tried] at failed
  cases failed
  simp only [retry, begins, tried, if_neg more]

/-- What the loop comes to from any of its attempts on. -/
theorem retry_cases (handle : ConnectHandle) (network : Network Stream IoError)
    (start : Instant) {remaining attempt : Nat} (last : attempt + remaining = maxRetries) :
    (∃ attempt' ≤ maxRetries, ∃ stream, attempt ≤ attempt' ∧
      (∀ earlier, attempt ≤ earlier → earlier < attempt' → Fails network start earlier) ∧
      (tryConnect network (begins network start attempt')).1 = .ok stream ∧
      handle.retry network (List.range' attempt (remaining + 1))
        (begins network start attempt) = (some (.ok ⟨handle.addr, stream⟩),
          (tryConnect network (begins network start attempt')).2)) ∨
    (∀ later, attempt ≤ later → later ≤ maxRetries → Fails network start later) ∧
      ∃ source, (tryConnect network (begins network start maxRetries)).1 = .error source ∧
        handle.retry network (List.range' attempt (remaining + 1))
          (begins network start attempt) =
            (some (.error ⟨handle.addr, maxRetries + 1, source⟩),
              (tryConnect network (begins network start maxRetries)).2) := by
  induction remaining generalizing attempt with
  | zero =>
      obtain rfl : attempt = maxRetries := last
      rcases tried : tryConnect network (begins network start maxRetries) with
        ⟨source | stream, ended⟩
      · refine .inr ⟨fun later reached upTo => ?_, source, rfl, ?_⟩
        · obtain rfl : later = maxRetries := Nat.le_antisymm upTo reached
          exact ⟨source, congrArg Prod.fst tried⟩
        · simp [List.range', retry, tried]
      · refine .inl ⟨maxRetries, le_rfl, stream, le_rfl, fun earlier reached before => ?_, ?_, ?_⟩
        · exact absurd reached (Nat.not_le.mpr before)
        · rw [tried]
        · simp [List.range', retry, tried]
  | succ remaining ih =>
      have more : attempt ≠ maxRetries := by omega
      rcases tried : tryConnect network (begins network start attempt) with
        ⟨source | stream, ended⟩
      · have fails : Fails network start attempt := ⟨source, congrArg Prod.fst tried⟩
        have skip : handle.retry network (List.range' attempt (remaining + 1 + 1))
            (begins network start attempt) = handle.retry network
              (List.range' (attempt + 1) (remaining + 1)) (begins network start (attempt + 1)) :=
          retry_of_fails handle fails more _
        rw [skip]
        have fails_from : ∀ {bound : Nat → Prop},
            (∀ later, attempt + 1 ≤ later → bound later → Fails network start later) →
            ∀ later, attempt ≤ later → bound later → Fails network start later := by
          intro bound rest later reached within
          rcases Nat.eq_or_lt_of_le reached with rfl | beyond
          · exact fails
          · exact rest later beyond within
        have last' : attempt + 1 + remaining = maxRetries := by omega
        rcases ih last' with ⟨attempt', upTo, stream, later, failed, accepted, result⟩ |
          ⟨failed, source, refused, result⟩
        · exact .inl ⟨attempt', upTo, stream, Nat.le_of_succ_le later,
            fails_from failed, accepted, result⟩
        · exact .inr ⟨fails_from failed, source, refused, result⟩
      · refine .inl ⟨attempt, by omega, stream, le_rfl, fun earlier reached before => ?_, ?_, ?_⟩
        · exact absurd reached (Nat.not_le.mpr before)
        · rw [tried]
        · simp [List.range', retry, tried]

/-- The first attempt that succeeds is the result, or the last of six that fail. -/
theorem connect_cases (handle : ConnectHandle) (network : Network Stream IoError)
    (start : Instant) :
    (∃ attempt ≤ maxRetries, ∃ stream,
      (∀ earlier < attempt, Fails network start earlier) ∧
      (tryConnect network (begins network start attempt)).1 = .ok stream ∧
      handle.connect network start = (some (.ok ⟨handle.addr, stream⟩),
        (tryConnect network (begins network start attempt)).2)) ∨
    (∀ attempt ≤ maxRetries, Fails network start attempt) ∧
      ∃ source, (tryConnect network (begins network start maxRetries)).1 = .error source ∧
        handle.connect network start = (some (.error ⟨handle.addr, maxRetries + 1, source⟩),
          (tryConnect network (begins network start maxRetries)).2) := by
  unfold connect
  rw [List.range_eq_range']
  rcases handle.retry_cases network start (Nat.zero_add maxRetries) with
    ⟨attempt, upTo, stream, -, failed, accepted, result⟩ | ⟨failed, source, refused, result⟩
  · exact .inl ⟨attempt, upTo, stream, fun earlier => failed earlier (Nat.zero_le _),
      accepted, result⟩
  · exact .inr ⟨fun attempt => failed attempt (Nat.zero_le _), source, refused, result⟩

/-! ## How long it takes -/

variable {network : Network Stream IoError} {start : Instant}

/-- No pause reaches `max_delay`. -/
theorem delay_eq {attempt : Nat} (upTo : attempt ≤ maxRetries) :
    delay attempt = baseDelay * 2 ^ attempt := by
  unfold maxRetries at upTo
  interval_cases attempt <;> rfl

/-- The pauses before an attempt. -/
def pauses (attempt : Nat) : Duration := baseDelay * (2 ^ attempt - 1)

theorem pauses_succ {attempt : Nat} (upTo : attempt ≤ maxRetries) :
    pauses (attempt + 1) = pauses attempt + delay attempt := by
  have positive := Nat.two_pow_pos attempt
  have exponent : 2 ^ (attempt + 1) - 1 = 2 ^ attempt - 1 + 2 ^ attempt := by omega
  rw [pauses, pauses, delay_eq upTo, exponent, Nat.mul_add]

theorem le_expires (network : Network Stream IoError) (begun : Instant) :
    begun ≤ expires network begun :=
  (Nat.le_add_right begun connectTimeout).trans (Nat.le_add_right ..)

theorem le_ended (network : Network Stream IoError) (begun : Instant) :
    begun ≤ (tryConnect network begun).2 := by
  unfold tryConnect
  split
  case h_1 after stream _ | h_2 after source _ =>
    split_ifs
    · exact Nat.le_add_right begun after
    · exact le_expires network begun
  case h_3 => exact le_expires network begun

theorem ended_le (network : Network Stream IoError) (begun : Instant) :
    (tryConnect network begun).2 ≤ expires network begun := by
  unfold tryConnect
  split
  case h_1 | h_2 => split_ifs with intime <;> first | exact intime | exact le_rfl
  case h_3 => exact le_rfl

theorem le_begins {attempt : Nat} (upTo : attempt ≤ maxRetries) :
    start + pauses attempt ≤ begins network start attempt := by
  induction attempt with
  | zero => exact Nat.le_refl start
  | succ attempt ih =>
      have ended := (ih (Nat.le_of_succ_le upTo)).trans (le_ended network _)
      rw [pauses_succ (Nat.le_of_succ_le upTo), ← Nat.add_assoc]
      exact (Nat.add_le_add_right ended (delay attempt)).trans (Nat.le_add_right ..)

/-- Each attempt costs a timeout and has two timers that may be late. -/
def attemptBound (bound : Duration) : Duration := connectTimeout + 2 * bound

theorem begins_le {bound : Duration} (punctual : ∀ due, network.late due ≤ bound)
    {attempt : Nat} (upTo : attempt ≤ maxRetries) :
    begins network start attempt ≤ start + pauses attempt + attempt * attemptBound bound := by
  induction attempt with
  | zero => exact Nat.le_add_right start _
  | succ attempt ih =>
      have begun := ih (Nat.le_of_succ_le upTo)
      calc
        begins network start (attempt + 1)
            ≤ (tryConnect network (begins network start attempt)).2 + delay attempt + bound :=
          Nat.add_le_add_left (punctual _) _
        _ ≤ begins network start attempt + connectTimeout + bound + delay attempt + bound :=
          Nat.add_le_add_right (Nat.add_le_add_right
            ((ended_le network _).trans (Nat.add_le_add_left (punctual _) _)) _) _
        _ ≤ start + pauses attempt + attempt * attemptBound bound + connectTimeout + bound +
              delay attempt + bound := by gcongr
        _ = start + pauses (attempt + 1) + (attempt + 1) * attemptBound bound := by
          rw [pauses_succ (Nat.le_of_succ_le upTo), attemptBound]
          ring

theorem pauses_le {attempt : Nat} (upTo : attempt ≤ maxRetries) :
    pauses attempt ≤ Duration.fromMillis 3100 :=
  Nat.mul_le_mul_left baseDelay
    (Nat.sub_le_sub_right (Nat.pow_le_pow_right (by norm_num) upTo) 1)

/-! ## Late load generators -/

/-- From an instant on, every connection is accepted in time. -/
def ListensFrom (network : Network Stream IoError) (opens : Instant) : Prop :=
  ∀ begun, opens ≤ begun → ∃ after stream,
    network.answer begun = .accepted after stream ∧ after ≤ connectTimeout

theorem ListensFrom.accepts {opens begun : Instant} (listens : ListensFrom network opens)
    (opened : opens ≤ begun) : ∃ stream, (tryConnect network begun).1 = .ok stream := by
  rcases listens begun opened with ⟨after, stream, answer, quick⟩
  have intime : begun + after ≤ expires network begun :=
    (Nat.add_le_add_left quick begun).trans (Nat.le_add_right ..)
  exact ⟨stream, by rw [tryConnect, answer]; exact congrArg Prod.fst (if_pos intime)⟩

theorem connect_of_listensFrom (handle : ConnectHandle) {opens : Instant}
    (listens : ListensFrom network opens)
    (early : opens ≤ start + Duration.fromMillis 3100) :
    ∃ stream finish, handle.connect network start =
      (some (.ok ⟨handle.addr, stream⟩), finish) := by
  rcases handle.connect_cases network start with
    ⟨attempt, -, stream, -, -, result⟩ | ⟨-, source, failed, -⟩
  · exact ⟨stream, _, result⟩
  · have begun : opens ≤ begins network start maxRetries := early.trans (le_begins le_rfl)
    rcases listens.accepts begun with ⟨stream, accepted⟩
    rw [accepted] at failed
    cases failed

/-- Everyone is refused at once until the address opens, and accepted at once from then on. -/
def opensAt (stream : Stream) (refusal : IoError) (opens : Instant) :
    Network Stream IoError where
  answer begun := if opens ≤ begun then .accepted 0 stream else .failed 0 refusal
  late _ := 0

theorem listensFrom_opensAt (stream : Stream) (refusal : IoError) (opens : Instant) :
    ListensFrom (opensAt stream refusal opens) opens :=
  fun _ opened => ⟨0, stream, if_pos opened, Nat.zero_le _⟩

theorem tryConnect_opensAt (stream : Stream) (refusal : IoError) {opens begun : Instant}
    (early : begun < opens) :
    tryConnect (opensAt stream refusal opens) begun = (.error (.failed refusal), begun) := by
  have answer : (opensAt stream refusal opens).answer begun = .failed 0 refusal :=
    if_neg (Nat.not_le.mpr early)
  rw [tryConnect, answer]
  exact if_pos (le_expires _ begun)

theorem begins_opensAt (stream : Stream) (refusal : IoError) {opens : Instant}
    (late : start + Duration.fromMillis 3100 < opens) {attempt : Nat}
    (upTo : attempt ≤ maxRetries) :
    begins (opensAt stream refusal opens) start attempt = start + pauses attempt := by
  induction attempt with
  | zero => rfl
  | succ attempt ih =>
      have before := Nat.le_of_succ_le upTo
      have early : start + pauses attempt < opens :=
        lt_of_le_of_lt (Nat.add_le_add_left (pauses_le before) start) late
      rw [begins, ih before, tryConnect_opensAt stream refusal early, pauses_succ before,
        ← Nat.add_assoc]
      rfl

theorem connect_opensAt (handle : ConnectHandle) (stream : Stream) (refusal : IoError)
    {opens : Instant} (late : start + Duration.fromMillis 3100 < opens) :
    ∃ error finish, handle.connect (opensAt stream refusal opens) start =
      (some (.error error), finish) := by
  rcases handle.connect_cases (opensAt stream refusal opens) start with
    ⟨attempt, upTo, other, -, accepted, -⟩ | ⟨-, source, -, result⟩
  · have early : start + pauses attempt < opens :=
      lt_of_le_of_lt (Nat.add_le_add_left (pauses_le upTo) start) late
    rw [begins_opensAt stream refusal late upTo, tryConnect_opensAt stream refusal early]
      at accepted
    cases accepted
  · exact ⟨_, _, result⟩

/-- A load generator may begin to listen up to 3.1 seconds after `connect` was called: it is
connected however the attempts before went, and however late timers are.  If it begins to
listen later, there is no such guarantee. -/
theorem reaches_listener_iff [Inhabited Stream] [Inhabited IoError] (handle : ConnectHandle)
    (start opens : Instant) :
    (∀ network : Network Stream IoError, ListensFrom network opens →
      ∃ stream finish, handle.connect network start =
        (some (.ok ⟨handle.addr, stream⟩), finish)) ↔
      opens ≤ start + Duration.fromMillis 3100 := by
  constructor
  · intro reaches
    by_contra tooLate
    have listens := listensFrom_opensAt (default : Stream) (default : IoError) opens
    rcases reaches _ listens with ⟨stream, finish, connected⟩
    rcases handle.connect_opensAt (default : Stream) (default : IoError)
      (Nat.lt_of_not_le tooLate) with ⟨error, finish', refused⟩
    rw [connected] at refused
    cases refused
  · intro early network listens
    exact handle.connect_of_listensFrom listens early

/-! ## All handles of a run -/

/-- An attempt may take its timeout, and 11 timers may be late. -/
def longest (bound : Duration) : Duration := Duration.fromMillis 33100 + 11 * bound

theorem ended_le_longest {bound : Duration} (punctual : ∀ due, network.late due ≤ bound)
    {attempt : Nat} (upTo : attempt ≤ maxRetries) :
    (tryConnect network (begins network start attempt)).2 ≤ start + longest bound := by
  calc
    (tryConnect network (begins network start attempt)).2
        ≤ begins network start attempt + connectTimeout + bound :=
      (ended_le network _).trans (Nat.add_le_add_left (punctual _) _)
    _ ≤ start + pauses attempt + attempt * attemptBound bound + connectTimeout + bound := by
      gcongr
      exact begins_le punctual upTo
    _ ≤ start + Duration.fromMillis 3100 + maxRetries * attemptBound bound + connectTimeout +
          bound := by
      gcongr
      exact pauses_le upTo
    _ = start + longest bound := by
      simp only [longest, attemptBound, maxRetries, connectTimeout, Duration.fromMillis,
        Duration.fromSecs, Duration.nanosPerSec]
      ring

/-- `connect` returns in time.  After an error, six attempts have failed. -/
theorem connect_returns (handle : ConnectHandle) {bound : Duration}
    (punctual : ∀ due, network.late due ≤ bound) (start : Instant) :
    ∃ result finish, handle.connect network start = (some result, finish) ∧
      finish ≤ start + longest bound ∧
      (∀ configure, result = .ok configure → configure.addr = handle.addr) ∧
      ∀ error, result = .error error → error.addr = handle.addr ∧
        error.attempt = maxRetries + 1 ∧ ∀ attempt ≤ maxRetries, Fails network start attempt := by
  rcases handle.connect_cases network start with
    ⟨attempt, upTo, stream, -, -, result⟩ | ⟨failed, source, -, result⟩
  · refine ⟨_, _, result, ended_le_longest punctual upTo, ?_, ?_⟩
    · rintro configure ⟨⟩
      rfl
    · intro error wrong
      cases wrong
  · refine ⟨_, _, result, ended_le_longest punctual le_rfl, ?_, ?_⟩
    · intro configure wrong
      cases wrong
    · rintro error ⟨⟩
      exact ⟨rfl, rfl, failed⟩

end ConnectHandle

/-- What `LoadTestRunner::run` has when it has joined all connect tasks. -/
structure ConnectPhase (Stream IoError : Type) where
  connected : List (ConfigureHandle Stream)
  firstError : Option (ConnectError IoError)
  joined : Instant

namespace ConnectPhase

open ConnectHandle

/-- The tasks are joined in their order; `none` if one of them has panicked. -/
def join : List (Option (Except (ConnectError IoError) (ConfigureHandle Stream)) × Instant) →
    ConnectPhase Stream IoError → Option (ConnectPhase Stream IoError)
  | [], phase => some phase
  | (none, _) :: _, _ => none
  | (some (.ok connected), ended) :: tasks, phase =>
      join tasks
        { phase with
          connected := phase.connected ++ [connected]
          joined := max phase.joined ended }
  | (some (.error error), ended) :: tasks, phase =>
      join tasks
        { phase with
          firstError := phase.firstError.or (some error)
          joined := max phase.joined ended }

/-- All tasks are spawned at once. -/
def connectAll (handles : List (ConnectHandle × Network Stream IoError)) (start : Instant) :
    Option (ConnectPhase Stream IoError) :=
  join (handles.map fun entry => entry.1.connect entry.2 start) ⟨[], none, start⟩

/-- How the task of a handle ends. -/
def errorOf (start : Instant) (entry : ConnectHandle × Network Stream IoError) :
    Option (ConnectError IoError) :=
  match (entry.1.connect entry.2 start).1 with
  | some (.error error) => some error
  | _ => none

theorem join_eq {start : Instant} {bound : Duration}
    {handles : List (ConnectHandle × Network Stream IoError)}
    (punctual : ∀ entry ∈ handles, ∀ due, entry.2.late due ≤ bound)
    {phase : ConnectPhase Stream IoError} (intime : phase.joined ≤ start + longest bound) :
    ∃ final, join (handles.map fun entry => entry.1.connect entry.2 start) phase =
        some final ∧ final.joined ≤ start + longest bound ∧
      final.connected.map (·.addr) = phase.connected.map (·.addr) ++
        (handles.filter fun entry => (errorOf start entry).isNone).map (·.1.addr) ∧
      final.firstError = phase.firstError.or (handles.findSome? (errorOf start)) := by
  induction handles generalizing phase with
  | nil => exact ⟨phase, rfl, intime, by simp, by simp⟩
  | cons entry handles ih =>
      have rest := fun entry member => punctual entry (.tail _ member)
      rcases entry.1.connect_returns (punctual entry List.mem_cons_self) start with
        ⟨error | configure, finish, connected, ended, addr, -⟩
      · have errorEq : errorOf start entry = some error := by
          rw [errorOf, connected]
        rw [List.map_cons, connected, join]
        rcases @ih rest ⟨phase.connected, phase.firstError.or (some error), _⟩
          (max_le intime ended) with ⟨final, joined, within, addrs, first⟩
        refine ⟨final, joined, within, ?_, ?_⟩
        · rw [addrs, List.filter_cons_of_neg (by simp [errorEq])]
        · rw [first, List.findSome?_cons, errorEq, Option.or_assoc, Option.some_or]
      · have errorEq : errorOf start entry = none := by
          rw [errorOf, connected]
        rw [List.map_cons, connected, join]
        rcases @ih rest ⟨phase.connected ++ [configure], phase.firstError, _⟩
          (max_le intime ended) with ⟨final, joined, within, addrs, first⟩
        refine ⟨final, joined, within, ?_, ?_⟩
        · rw [addrs, List.filter_cons_of_pos (by simp [errorEq]), List.map_append,
            List.append_assoc, List.map_singleton, addr configure rfl, List.map_cons]
          rfl
        · rw [first, List.findSome?_cons, errorEq]

theorem errorOf_eq_none {start : Instant} {entry : ConnectHandle × Network Stream IoError}
    (listens : ListensFrom entry.2 (start + Duration.fromMillis 3100)) :
    errorOf start entry = none := by
  rcases entry.1.connect_of_listensFrom listens le_rfl with ⟨stream, finish, connected⟩
  rw [errorOf, connected]

theorem errorOf_eq_some {start : Instant} {entry : ConnectHandle × Network Stream IoError}
    {error : ConnectError IoError} (failed : errorOf start entry = some error) :
    error.addr = entry.1.addr ∧ error.attempt = maxRetries + 1 ∧
      ∀ attempt ≤ maxRetries, Fails entry.2 start attempt := by
  rcases entry.1.connect_cases entry.2 start with
    ⟨attempt, -, stream, -, -, result⟩ | ⟨fails, source, -, result⟩
  · rw [errorOf, result] at failed
    cases failed
  · rw [errorOf, result] at failed
    cases failed
    exact ⟨rfl, rfl, fails⟩

/-- However many load generators there are, the phase takes little longer than 33 seconds.
All are connected, in their order, if each listens after 3.1 seconds.  Otherwise the error
is that of the first handle whose six attempts fail, and the others are connected. -/
theorem connect_phase (handles : List (ConnectHandle × Network Stream IoError))
    (start : Instant) {bound : Duration}
    (punctual : ∀ entry ∈ handles, ∀ due, entry.2.late due ≤ bound) :
    ∃ phase, connectAll handles start = some phase ∧
      phase.joined ≤ start + Duration.fromMillis 33100 + 11 * bound ∧
      ((∀ entry ∈ handles, ListensFrom entry.2 (start + Duration.fromMillis 3100)) →
        phase.firstError = none) ∧
      (phase.firstError = none → phase.connected.map (·.addr) = handles.map (·.1.addr)) ∧
      ∀ error, phase.firstError = some error → ∃ before entry after,
        handles = before ++ entry :: after ∧ error.addr = entry.1.addr ∧ error.attempt = 6 ∧
          (∀ attempt ≤ maxRetries, Fails entry.2 start attempt) ∧
          phase.connected.map (·.addr) = before.map (·.1.addr) ++
            (after.filter fun entry => (errorOf start entry).isNone).map (·.1.addr) := by
  have intime : (⟨[], none, start⟩ : ConnectPhase Stream IoError).joined ≤ start + longest bound :=
    Nat.le_add_right start _
  rcases join_eq punctual intime with ⟨phase, joined, within, addrs, first⟩
  rw [List.map_nil, List.nil_append] at addrs
  rw [Option.none_or] at first
  rw [longest, ← Nat.add_assoc] at within
  refine ⟨phase, joined, within, fun listen => ?_, fun none => ?_, fun error some => ?_⟩
  · rw [first, List.findSome?_eq_none_iff]
    exact fun entry member => errorOf_eq_none (listen entry member)
  · rw [first, List.findSome?_eq_none_iff] at none
    rw [addrs, List.filter_eq_self.mpr]
    intro entry member
    rw [none entry member]
    rfl
  · rw [first, List.findSome?_eq_some_iff] at some
    rcases some with ⟨before, entry, after, rfl, failed, connected⟩
    rcases errorOf_eq_some failed with ⟨addr, attempt, fails⟩
    refine ⟨before, entry, after, rfl, addr, attempt, fails, ?_⟩
    rw [addrs, List.filter_append, List.filter_cons_of_neg (by simp [failed]), List.map_append,
      List.filter_eq_self.mpr]
    intro earlier member
    rw [connected earlier member]
    rfl

/-- Two load generators; the second one listens just before it is too late. -/
private def lateHandles : List (ConnectHandle × Network Unit Unit) :=
  [(⟨"10.0.0.1:8080"⟩, opensAt () () 0),
    (⟨"10.0.0.2:8080"⟩, opensAt () () (Duration.fromMillis 3100))]

theorem connect_phase_lateListener : ∃ phase, connectAll lateHandles 0 = some phase ∧
    phase.firstError = none ∧ phase.connected.map (·.addr) = ["10.0.0.1:8080", "10.0.0.2:8080"] ∧
      phase.joined ≤ Duration.fromMillis 33100 := by
  have punctual : ∀ entry ∈ lateHandles, ∀ due, entry.2.late due ≤ 0 := by
    intro entry member due
    simp only [lateHandles, List.mem_cons, List.not_mem_nil, or_false] at member
    rcases member with rfl | rfl <;> exact le_rfl
  rcases connect_phase lateHandles 0 punctual with ⟨phase, joined, intime, listen, addrs, -⟩
  have first : phase.firstError = none := by
    apply listen
    intro entry member begun opened
    rw [Nat.zero_add] at opened
    simp only [lateHandles, List.mem_cons, List.not_mem_nil, or_false] at member
    rcases member with rfl | rfl
    · exact listensFrom_opensAt () () 0 begun (Nat.zero_le _)
    · exact listensFrom_opensAt () () _ begun opened
  exact ⟨phase, joined, first, addrs first, intime.trans (by decide)⟩

end ConnectPhase

end CreoBench
