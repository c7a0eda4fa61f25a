import CreoBench.Library.ListIndex
import CreoBench.Library.TransitionSystem
import CreoBench.Transaction
import Mathlib.Algebra.Order.BigOperators.Group.List
import Mathlib.Data.List.Nodup

/-!
# The virtual user pool

The pool keeps its free users under a mutex and counts them with a semaphore.
A call takes its permit before it removes a user, and returns its user before
it adds a permit, so between the two steps of a call the two structures
disagree.  The machine below interleaves the indivisible steps of any number of
callers: the accounts that relate the structures, and thus that a random user
is never drawn from an empty list, hold between any two of them.
-/

namespace CreoBench

/-- The shared state: the free users under the mutex, and the semaphore's permits. -/
structure Pool (User : Type) where
  users : List User
  available : Nat
  deriving DecidableEq

namespace Pool

variable {User Failure : Type}

/-- The ids `0..count`. -/
def userIds (count : UInt32) : List VirtualUserId :=
  (List.range count.toNat).map fun index => ⟨UInt32.ofNat index⟩

/-- Await the setup tasks in order; the first failure ends the pool's setup. -/
def setUpUsers (setup : VirtualUserId → Except Failure User) :
    List VirtualUserId → Except Failure (List User)
  | [] => .ok []
  | id :: ids => do
      let user ← setup id
      return user :: (← setUpUsers setup ids)

def withClientAndRng (setup : VirtualUserId → Except Failure User)
    (virtualUserCount : UInt32) : Except Failure (Pool User) := do
  let users ← setUpUsers setup (userIds virtualUserCount)
  return { users := users, available := users.length }

/-- `random_range(0..length)`, which panics on the empty range.  What the
generator draws is the environment's choice. -/
def randomRange (draw length : Nat) : Option Nat :=
  if length = 0 then none else some (draw % length)

/-- `none` is the panic of `random_range`. -/
def takeRandomUser (pool : Pool User) (draw : Nat) : Option (User × Pool User) := do
  let index ← randomRange draw pool.users.length
  let user ← pool.users[index]?
  return (user, { pool with users := pool.users.swapRemove index })

def takePermit (pool : Pool User) : Option (Pool User) :=
  if 0 < pool.available then some { pool with available := pool.available - 1 } else none

def addPermit (pool : Pool User) : Pool User :=
  { pool with available := pool.available + 1 }

def push (pool : Pool User) (user : User) : Pool User :=
  { pool with users := pool.users ++ [user] }

/-- A pool that is set up has one user of each id, in order. -/
theorem map_setUpUsers {id : User → VirtualUserId} {setup : VirtualUserId → Except Failure User}
    (keepsId : ∀ wanted user, setup wanted = .ok user → id user = wanted)
    {ids : List VirtualUserId} {users : List User} (done : setUpUsers setup ids = .ok users) :
    users.map id = ids := by
  induction ids generalizing users with
  | nil => cases done; rfl
  | cons first ids ih =>
      unfold setUpUsers at done
      cases ready : setup first with
      | error failure => rw [ready] at done; cases done
      | ok user =>
          rw [ready] at done
          cases rest : setUpUsers setup ids with
          | error failure => rw [rest] at done; cases done
          | ok others =>
              rw [rest] at done
              cases done
              rw [List.map_cons, keepsId first user ready, ih rest]

theorem exists_setup_of_mem {setup : VirtualUserId → Except Failure User}
    {ids : List VirtualUserId} {users : List User} (done : setUpUsers setup ids = .ok users)
    {user : User} (member : user ∈ users) : ∃ id, setup id = .ok user := by
  induction ids generalizing users with
  | nil => cases done; cases member
  | cons first ids ih =>
      unfold setUpUsers at done
      cases ready : setup first with
      | error failure => rw [ready] at done; cases done
      | ok user' =>
          rw [ready] at done
          cases rest : setUpUsers setup ids with
          | error failure => rw [rest] at done; cases done
          | ok others =>
              rw [rest] at done
              cases done
              rcases List.mem_cons.mp member with rfl | later
              · exact ⟨first, ready⟩
              · exact ih rest later

theorem setUpUsers_ok (ids : List VirtualUserId) :
    @setUpUsers VirtualUserId Empty .ok ids = .ok ids := by
  induction ids with
  | nil => rfl
  | cons id ids ih =>
      rw [setUpUsers, ih]
      rfl

theorem withClientAndRng_eq_ok {setup : VirtualUserId → Except Failure User} {count : UInt32}
    {pool : Pool User} (built : withClientAndRng setup count = .ok pool) :
    setUpUsers setup (userIds count) = .ok pool.users ∧ pool.available = pool.users.length := by
  unfold withClientAndRng at built
  cases users : setUpUsers setup (userIds count) with
  | error failure => rw [users] at built; cases built
  | ok users' =>
      rw [users] at built
      cases built
      exact ⟨rfl, rfl⟩

theorem count_userIds (count : UInt32) (id : VirtualUserId) :
    (userIds count).count id = if id.value < count then 1 else 0 := by
  have toNat_of_mem : ∀ index ∈ List.range count.toNat,
      (UInt32.ofNat index).toNat = index := by
    intro index member
    have bound : index < 2 ^ 32 :=
      Nat.lt_trans (List.mem_range.mp member) count.toNat_lt
    rw [UInt32.toNat_ofNat', Nat.mod_eq_of_lt bound]
  have nodup : (userIds count).Nodup := by
    apply List.Nodup.map_on _ List.nodup_range
    intro first firstMem second secondMem same
    have values := congrArg (fun user => user.value.toNat) same
    rwa [toNat_of_mem first firstMem, toNat_of_mem second secondMem] at values
  have mem_iff : id ∈ userIds count ↔ id.value < count := by
    rw [userIds, List.mem_map, UInt32.lt_iff_toNat_lt]
    constructor
    · rintro ⟨index, member, rfl⟩
      rw [toNat_of_mem index member]
      exact List.mem_range.mp member
    · intro below
      exact ⟨id.value.toNat, List.mem_range.mpr below, by simp⟩
  rw [nodup.count]
  simp only [mem_iff]

theorem nodup_userIds (count : UInt32) : (userIds count).Nodup := by
  rw [List.nodup_iff_count_le_one]
  intro id
  rw [count_userIds]
  split_ifs
  · exact Nat.le_refl 1
  · exact Nat.zero_le 1

theorem takePermit_eq_some {pool next : Pool User} (taken : pool.takePermit = some next) :
    next.users = pool.users ∧ pool.available = next.available + 1 := by
  unfold takePermit at taken
  split_ifs at taken with some_free
  cases taken
  exact ⟨rfl, (Nat.sub_add_cancel some_free).symm⟩

theorem takeRandomUser_eq_none {pool : Pool User} {draw : Nat} :
    pool.takeRandomUser draw = none ↔ pool.users = [] := by
  by_cases empty : pool.users = []
  · simp [takeRandomUser, randomRange, empty]
  · have positive : 0 < pool.users.length := List.length_pos_of_ne_nil empty
    have inRange : draw % pool.users.length < pool.users.length := Nat.mod_lt _ positive
    simp [takeRandomUser, randomRange, empty, inRange]

theorem takeRandomUser_eq_some {pool next : Pool User} {draw : Nat} {user : User}
    (taken : pool.takeRandomUser draw = some (user, next)) :
    pool.users.Perm (user :: next.users) ∧ next.available = pool.available := by
  unfold takeRandomUser at taken
  obtain ⟨index, -, rest⟩ := Option.bind_eq_some_iff.mp taken
  obtain ⟨found, foundEq, pair⟩ := Option.bind_eq_some_iff.mp rest
  cases pair
  exact ⟨List.swapRemove_perm foundEq, rfl⟩

/-! ## Callers -/

/-- Where a caller stands between two indivisible steps of its calls. -/
inductive Call where
  /-- No call in progress and no user held. -/
  | idle
  /-- Suspended in `acquire` without a permit. -/
  | acquiring
  /-- Suspended in `acquire` with a permit that the semaphore has assigned. -/
  | assigned
  /-- The permit is forgotten, and `take_random_user` comes next. -/
  | permitted
  | holding (user : VirtualUserId)
  /-- In `release`, before the user is pushed. -/
  | releasing (user : VirtualUserId)
  /-- In `release`, after the user is pushed. -/
  | released
  | panicked
  deriving DecidableEq

namespace Call

def user : Call → Option VirtualUserId
  | .holding user | .releasing user => some user
  | _ => none

/-- Permits taken from the semaphore whose user is not yet removed. -/
def takenPermits : Call → Nat
  | .assigned | .permitted => 1
  | _ => 0

/-- Users pushed whose permit is not yet added. -/
def pushedUsers : Call → Nat
  | .released => 1
  | _ => 0

/-- How often the caller has the user `id`. -/
def holds (id : VirtualUserId) (call : Call) : Nat :=
  if call.user = some id then 1 else 0

end Call

inductive CallEvent where
  | acquire
  | tryAcquire
  /-- The semaphore assigns a permit to a waiting `acquire`. -/
  | assign
  /-- `acquire` takes its permit and forgets it. -/
  | resume
  /-- `acquire` is dropped at its await point. -/
  | cancel
  | takeRandomUser (draw : Nat)
  | release
  | push
  | addPermits

/-- One indivisible step of one caller. -/
def callStep (pool : Pool VirtualUserId) : Call → CallEvent → Option (Pool VirtualUserId × Call)
  | .idle, .acquire => some (pool, .acquiring)
  | .idle, .tryAcquire =>
      match pool.takePermit with
      | some pool => some (pool, .permitted)
      | none => some (pool, .idle)
  | .acquiring, .assign => pool.takePermit.map fun pool => (pool, .assigned)
  | .assigned, .resume => some (pool, .permitted)
  | .acquiring, .cancel => some (pool, .idle)
  -- The semaphore gets a permit back that nobody will use.
  | .assigned, .cancel => some (pool.addPermit, .idle)
  | .permitted, .takeRandomUser draw =>
      match pool.takeRandomUser draw with
      | some (user, pool) => some (pool, .holding user)
      | none => some (pool, .panicked)
  | .holding user, .release => some (pool, .releasing user)
  | .releasing user, .push => some (pool.push user, .released)
  | .released, .addPermits => some (pool.addPermit, .idle)
  | _, _ => none

/-- What every step of a caller keeps, unless it panics: the places of each user,
and the difference between the free users and the permits that stand for them. -/
structure KeepsAccounts (pool : Pool VirtualUserId) (call : Call)
    (pool' : Pool VirtualUserId) (call' : Call) : Prop where
  users : ∀ id, pool'.users.count id + call'.holds id = pool.users.count id + call.holds id
  permits :
    pool'.users.length + (pool.available + call.takenPermits + call.pushedUsers) =
      pool.users.length + (pool'.available + call'.takenPermits + call'.pushedUsers)
  calm : call' ≠ .panicked

theorem KeepsAccounts.of_takePermit {pool next : Pool VirtualUserId} {call : Call}
    (noUser : call.user = none) (noPermit : call.takenPermits + call.pushedUsers = 0)
    (taken : pool.takePermit = some next) {call' : Call}
    (noUser' : call'.user = none) (permit' : call'.takenPermits + call'.pushedUsers = 1) :
    KeepsAccounts pool call next call' := by
  obtain ⟨sameUsers, oneLess⟩ := takePermit_eq_some taken
  constructor
  · intro id
    simp [Call.holds, noUser, noUser', sameUsers]
  · rw [sameUsers]
    omega
  · rintro rfl
    cases permit'

theorem KeepsAccounts.of_takeRandomUser {pool next : Pool VirtualUserId} {draw : Nat}
    {user : VirtualUserId} (taken : pool.takeRandomUser draw = some (user, next)) :
    KeepsAccounts pool .permitted next (.holding user) := by
  obtain ⟨perm, samePermits⟩ := takeRandomUser_eq_some taken
  constructor
  · intro id
    rw [perm.count_eq, List.count_cons]
    by_cases same : user = id <;> simp [Call.holds, Call.user, same]
  · have lengths := perm.length_eq
    simp only [List.length_cons] at lengths
    simp only [Call.takenPermits, Call.pushedUsers]
    omega
  · exact Call.noConfusion

theorem KeepsAccounts.of_push (pool : Pool VirtualUserId) (user : VirtualUserId) :
    KeepsAccounts pool (.releasing user) (pool.push user) .released := by
  constructor
  · intro id
    simp only [push, List.count_append, List.count_singleton, Call.holds, Call.user]
    by_cases same : user = id <;> simp [same]
  · simp [push, Call.takenPermits, Call.pushedUsers]
    omega
  · exact Call.noConfusion

/-- The only way to panic is to draw a user from the empty list. -/
theorem callStep_keepsAccounts {pool pool' : Pool VirtualUserId} {call call' : Call}
    {event : CallEvent} (stepped : callStep pool call event = some (pool', call')) :
    KeepsAccounts pool call pool' call' ∨
      call = .permitted ∧ call' = .panicked ∧ pool.users = [] := by
  revert stepped
  fun_cases callStep pool call event <;> intro stepped
  case case2 next taken =>
    cases stepped
    exact .inl (.of_takePermit rfl rfl taken rfl rfl)
  case case4 =>
    obtain ⟨next, taken, pair⟩ := Option.map_eq_some_iff.mp stepped
    cases pair
    exact .inl (.of_takePermit rfl rfl taken rfl rfl)
  case case8 taken =>
    cases stepped
    exact .inl (.of_takeRandomUser taken)
  case case9 taken =>
    cases stepped
    exact .inr ⟨rfl, rfl, takeRandomUser_eq_none.mp taken⟩
  case case11 =>
    cases stepped
    exact .inl (.of_push _ _)
  case case13 => cases stepped
  all_goals
    cases stepped
    exact .inl ⟨fun id => rfl,
      by simp +arith [addPermit, Call.takenPermits, Call.pushedUsers], Call.noConfusion⟩

/-! ## Any number of callers -/

/-- The pool and everyone who calls it. -/
structure Shared where
  pool : Pool VirtualUserId
  callers : List Call
  deriving DecidableEq

inductive Event where
  | enter
  | call (caller : Nat) (event : CallEvent)

def machine (virtualUserCount : UInt32) : Machine Shared Event where
  initial state :=
    @withClientAndRng VirtualUserId Empty .ok virtualUserCount = .ok state.pool ∧
      state.callers = []
  step state
    | .enter => some { state with callers := state.callers ++ [.idle] }
    | .call caller event => do
        let call ← state.callers[caller]?
        let (pool, call) ← callStep state.pool call event
        return { pool := pool, callers := state.callers.set caller call }

namespace Shared

/-- The number of places where the user `id` is: in the free list, or with a caller. -/
def places (state : Shared) (id : VirtualUserId) : Nat :=
  state.pool.users.count id + (state.callers.map (Call.holds id)).sum

def takenPermits (state : Shared) : Nat :=
  (state.callers.map Call.takenPermits).sum

def pushedUsers (state : Shared) : Nat :=
  (state.callers.map Call.pushedUsers).sum

/-- Every user in exactly one place, and as many free users as permits that are
available, permits whose user is not removed, and users whose permit is not added. -/
structure Conserved (virtualUserCount : UInt32) (state : Shared) : Prop where
  placed : ∀ id, state.places id = if id.value < virtualUserCount then 1 else 0
  balanced :
    state.pool.users.length =
      state.pool.available + state.takenPermits + state.pushedUsers
  calm : Call.panicked ∉ state.callers

/-- A permit that a caller has taken stands for a free user. -/
theorem users_ne_nil_of_permitted {virtualUserCount : UInt32} {state : Shared}
    (conserved : state.Conserved virtualUserCount) (permitted : Call.permitted ∈ state.callers) :
    state.pool.users ≠ [] := by
  have counted : Call.permitted.takenPermits ≤ state.takenPermits :=
    List.single_le_sum (fun _ _ => Nat.zero_le _) _ (List.mem_map_of_mem permitted)
  intro empty
  have balanced := conserved.balanced
  rw [empty] at balanced
  simp only [Call.takenPermits, List.length_nil] at counted balanced
  omega

theorem Conserved.step {virtualUserCount : UInt32} {state next : Shared} {event : Event}
    (conserved : state.Conserved virtualUserCount)
    (stepped : (machine virtualUserCount).step state event = some next) :
    next.Conserved virtualUserCount := by
  cases event with
  | enter =>
      cases stepped
      constructor
      · intro id
        simpa [places, Call.holds, Call.user] using conserved.placed id
      · simpa [Shared.takenPermits, Shared.pushedUsers, Call.takenPermits, Call.pushedUsers]
          using conserved.balanced
      · simpa using conserved.calm
  | call caller event =>
      obtain ⟨call, callEq, rest⟩ := Option.bind_eq_some_iff.mp stepped
      obtain ⟨⟨pool, call'⟩, moved, made⟩ := Option.bind_eq_some_iff.mp rest
      cases made
      have member : call ∈ state.callers := List.mem_of_getElem? callEq
      rcases callStep_keepsAccounts moved with keeps | ⟨rfl, -, empty⟩
      · constructor
        · intro id
          have total := List.sum_map_set callEq call' (Call.holds id)
          have same := keeps.users id
          have before := conserved.placed id
          simp only [places] at before ⊢
          omega
        · have taken := List.sum_map_set callEq call' Call.takenPermits
          have pushed := List.sum_map_set callEq call' Call.pushedUsers
          have same := keeps.permits
          have before := conserved.balanced
          simp only [Shared.takenPermits, Shared.pushedUsers] at before ⊢
          omega
        · intro panics
          rcases List.mem_or_eq_of_mem_set panics with old | new
          · exact conserved.calm old
          · exact keeps.calm new.symm
      · exact absurd empty (users_ne_nil_of_permitted conserved member)

theorem conserved_of_initial {virtualUserCount : UInt32} {state : Shared}
    (initial : (machine virtualUserCount).initial state) : state.Conserved virtualUserCount := by
  obtain ⟨built, noCallers⟩ := initial
  obtain ⟨users, permits⟩ := withClientAndRng_eq_ok built
  have sameUsers : state.pool.users = userIds virtualUserCount := by
    rw [setUpUsers_ok] at users
    exact (Except.ok.inj users).symm
  constructor
  · intro id
    rw [places, sameUsers, count_userIds, noCallers]
    rfl
  · simp [Shared.takenPermits, Shared.pushedUsers, noCallers, permits]
  · simp [noCallers]

theorem users_conserved {virtualUserCount : UInt32} {state : Shared}
    (reachable : (machine virtualUserCount).Reachable state) :
    state.Conserved virtualUserCount := by
  apply reachable.invariant fun _ initial => conserved_of_initial initial
  intro state event next conserved _ stepped
  exact conserved.step stepped

/-- Virtual users are conserved in every interleaving, so that nobody ever draws a
user from an empty list. -/
theorem conserved_of_reachable {virtualUserCount : UInt32} {state : Shared}
    (reachable : (machine virtualUserCount).Reachable state) :
    state.Conserved virtualUserCount ∧
      (Call.permitted ∈ state.callers → state.pool.users ≠ []) := by
  have conserved := users_conserved reachable
  exact ⟨conserved, users_ne_nil_of_permitted conserved⟩

/-- One user, released by the first caller while the second has been assigned a
permit by `add_permits` and the first is back to wait for the next one. -/
theorem conserved_of_reachable_handedOver :
    ∃ state : Shared, (state.callers = [.acquiring, .permitted] ∧ state.pool.available = 0) ∧
      state.Conserved 1 ∧ (Call.permitted ∈ state.callers → state.pool.users ≠ []) := by
  have ⟨state, reachable, shape⟩ := (machine 1).exists_reachable_of_exec
    (⟨rfl, rfl⟩ : (machine 1).initial ⟨⟨[⟨0⟩], 1⟩, []⟩)
    [.enter, .enter, .call 0 .tryAcquire, .call 1 .tryAcquire, .call 1 .acquire,
      .call 0 (.takeRandomUser 7), .call 0 .release, .call 0 .push, .call 0 .addPermits,
      .call 1 .assign, .call 0 .acquire, .call 1 .resume]
    (fun state => decide (state.callers = [.acquiring, .permitted] ∧ state.pool.available = 0))
    (by decide)
  exact ⟨state, of_decide_eq_true shape, conserved_of_reachable reachable⟩

end Shared

end Pool

end CreoBench
