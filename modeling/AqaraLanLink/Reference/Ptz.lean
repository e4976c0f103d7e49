import Mathlib.Logic.Function.Basic
import AqaraLanLink.Json
import AqaraLanLink.Library.Runs

/-!
# The sessions of a camera

`ptz/controller.py`: one controller connects, uses and closes the sessions of a camera.  Its
operations take turns by a lock, which `async_shutdown` does not take.  Between two awaits nothing
else runs, so a label is what one task does until it waits again.
-/

namespace AqaraLanLink
namespace Reference

open Library

namespace Ptz

/-! ## The reply to the authentication -/

/-- `AUTH_REPLY_IOTYPE`. -/
def authReplyIotype : ℕ := 4097

/-- What `_connect_and_auth` makes of a reply. -/
inductive Verdict where
  | accepted
  | refused
  /-- The body is not an object and has no `get`. -/
  | raised
  deriving DecidableEq

/-- Python's `value == 0`, of what `get` returns. -/
def isZero : Option Json → Bool
  | some (.number value) => value = 0
  | some (.bool value) => !value
  | _ => false

/-- The check of the reply: none, one of another type, or one with another code is refused. -/
def verdict : Option (ℕ × Json) → Verdict
  | none => .refused
  | some (iotype, body) =>
      if iotype ≠ authReplyIotype then .refused
      else
        match body with
        | .object fields => if isZero (fields.lookup "code") then .accepted else .refused
        | _ => .raised

/-! ## The machine -/

/-- What a session does. -/
inductive Status where
  /-- It has not been built. -/
  | absent
  | connecting
  | connected
  /-- `close` has begun, and waits for the keepalive task. -/
  | closing
  | closed
  deriving DecidableEq

/-- The tasks that take the lock. -/
inductive Task where
  /-- `send_command`. -/
  | command (recycleAfter : Bool)
  /-- `_eager_reconnect`. -/
  | reconnect
  /-- `_idle_teardown`. -/
  | idle
  deriving DecidableEq

/-- What the task that has the lock waits for; `retry` tells the second attempt to authenticate. -/
inductive Phase where
  /-- The credentials, or the address of the camera. -/
  | preparing (retry : Bool)
  /-- `connect`. -/
  | connecting (retry : Bool) (session : ℕ)
  /-- The reply to the authentication. -/
  | authenticating (retry : Bool) (session : ℕ)
  /-- `close` of a session that was refused. -/
  | refusing (retry : Bool) (session : ℕ)
  /-- The acknowledgement of the command. -/
  | exchanging (session : ℕ)
  /-- `close` of `_session`. -/
  | discarding (session : ℕ)
  deriving DecidableEq

/-- A task with its number. -/
structure Op where
  id : ℕ
  task : Task
  deriving DecidableEq

/-- What `async_shutdown` waits for. -/
inductive Stage where
  /-- The idle task and the reconnect task. -/
  | waiting
  /-- `close` of `_session`. -/
  | closing (session : ℕ)
  deriving DecidableEq

/-- The controller, its sessions and its tasks. -/
structure State where
  /-- The sessions by their numbers. -/
  status : ℕ → Status
  /-- The number of the next session. -/
  sessions : ℕ
  /-- `_session`. -/
  session : Option ℕ
  /-- The tasks that wait for the lock. -/
  waiting : List Op
  /-- The task that has the lock. -/
  active : Option (Op × Phase)
  /-- The number of the next task. -/
  ops : ℕ
  /-- `_reconnect_task`. -/
  reconnectTask : Option ℕ
  /-- `_idle_task`. -/
  idleTask : Option ℕ
  /-- `_closing`. -/
  closing : Bool
  /-- The call of `async_shutdown` that has not returned. -/
  shutdown : Option Stage
  /-- A call of `async_shutdown` has returned. -/
  returned : Bool

/-- What happens. -/
inductive Label where
  /-- `send_command` is called. -/
  | command (recycleAfter : Bool)
  /-- The idle timer fires. -/
  | idle
  /-- A task gets the lock. -/
  | acquired (op : Op)
  /-- The credentials and the address are there. -/
  | prepared
  /-- `connect` returns. -/
  | connected
  /-- `recv_ioctl` returns what it got for the authentication. -/
  | replied (reply : Option (ℕ × Json))
  /-- `close` returns to the task that has the lock. -/
  | closed
  /-- `recv_ioctl` returns to the command. -/
  | acked
  /-- An exception is raised in a task, or the task is cancelled. -/
  | interrupted (id : ℕ)
  /-- `async_shutdown` is called. -/
  | shutdown
  /-- The tasks that it waits for are done, and it looks at `_session`. -/
  | looked
  /-- `close` returns to it. -/
  | shutdownClosed

/-- A task is not done. -/
def State.pending (state : State) (id : ℕ) : Bool :=
  (state.waiting.any fun op => op.id = id) || state.active.any fun op => op.1.id = id

/-- The task has the lock and waits for something. -/
def State.enter (state : State) (op : Op) (phase : Phase) : State :=
  { state with active := some (op, phase) }

/-- The task that has the lock is over. -/
def State.release (state : State) : State := { state with active := none }

/-- A session changes. -/
def State.become (state : State) (session : ℕ) (status : Status) : State :=
  { state with status := Function.update state.status session status }

/-- `close` until it waits; one that has begun before is joined. -/
def State.beginClose (state : State) (session : ℕ) : State :=
  { state with
    status :=
      if state.status session = .connected then Function.update state.status session .closing
      else state.status }

/-- `_schedule_eager_reconnect`. -/
def State.scheduleEagerReconnect (state : State) : State :=
  if state.closing then state
  else if state.reconnectTask.any state.pending then state
  else
    { state with
      waiting := state.waiting ++ [⟨state.ops, .reconnect⟩]
      ops := state.ops + 1
      reconnectTask := some state.ops }

/-- When a label can occur. -/
def Possible (state : State) : Label → Prop
  | .command _ => True
  | .idle => state.closing = false
  | .acquired op => op ∈ state.waiting ∧ state.active = none
  | .prepared => ∃ op retry, state.active = some (op, .preparing retry)
  | .connected => ∃ op retry session, state.active = some (op, .connecting retry session)
  | .replied _ => ∃ op retry session, state.active = some (op, .authenticating retry session)
  | .closed =>
      (∃ op retry session, state.active = some (op, .refusing retry session)) ∨
        ∃ op session, state.active = some (op, .discarding session)
  | .acked => ∃ op session, state.active = some (op, .exchanging session)
  | .interrupted id => state.pending id = true
  | .shutdown => state.shutdown = none
  | .looked =>
      state.shutdown = some .waiting ∧ state.idleTask.any state.pending = false ∧
        state.reconnectTask.any state.pending = false
  | .shutdownClosed => ∃ session, state.shutdown = some (.closing session)

/-- A task goes on with the lock. -/
def acquire (state : State) (op : Op) : State :=
  match op.task, state.session with
  | .command _, some session =>
      -- A session that is not ready any more is replaced.
      if state.status session = .connected then state.enter op (.exchanging session)
      else state.enter op (.preparing false)
  | .command _, none => state.enter op (.preparing false)
  | .reconnect, some _ => state
  | .reconnect, none => if state.closing then state else state.enter op (.preparing false)
  | .idle, some session => (state.beginClose session).enter op (.discarding session)
  | .idle, none => state

/-- The authentication was accepted: the session is owned and used. -/
def own (state : State) (op : Op) (session : ℕ) : State :=
  let state := { state with session := some session }
  match op.task with
  | .command _ => state.enter op (.exchanging session)
  | .reconnect | .idle => state.release

/-- `_discard_session`, after a command that recycles the session. -/
def discard (state : State) (op : Op) : State :=
  match state.session with
  | none => state.release.scheduleEagerReconnect
  | some session => (state.beginClose session).enter op (.discarding session)

/-- The task that has the lock goes on with an exception. -/
def interrupt (state : State) : Phase → State
  | .connecting _ session => (state.become session .closed).release
  -- `close` suppresses the cancellation.
  | .refusing _ _ | .discarding _ => state
  | .preparing _ | .authenticating _ _ | .exchanging _ => state.release

/-- What a label does. -/
def perform (state : State) : Label → State
  | .command recycleAfter =>
      { state with
        waiting := state.waiting ++ [⟨state.ops, .command recycleAfter⟩]
        ops := state.ops + 1 }
  | .idle =>
      { state with
        waiting := state.waiting ++ [⟨state.ops, .idle⟩]
        ops := state.ops + 1
        idleTask := some state.ops }
  | .acquired op => acquire { state with waiting := state.waiting.erase op } op
  | .prepared =>
      match state.active with
      | some (op, .preparing retry) =>
          { state.become state.sessions .connecting with sessions := state.sessions + 1 }.enter op
            (.connecting retry state.sessions)
      | _ => state
  | .connected =>
      match state.active with
      | some (op, .connecting retry session) =>
          (state.become session .connected).enter op (.authenticating retry session)
      | _ => state
  | .replied reply =>
      match state.active with
      | some (op, .authenticating retry session) =>
          match verdict reply with
          | .accepted => own state op session
          | .refused => (state.beginClose session).enter op (.refusing retry session)
          | .raised => state.release
      | _ => state
  | .closed =>
      match state.active with
      | some (op, .refusing retry session) =>
          let state := state.become session .closed
          if retry then state.release else state.enter op (.preparing true)
      | some (op, .discarding session) =>
          let state := { state.become session .closed with session := none }.release
          match op.task with
          | .command _ => state.scheduleEagerReconnect
          | .reconnect | .idle => state
      | _ => state
  | .acked =>
      match state.active with
      | some (op, .exchanging _) =>
          if op.task = .command true then discard state op else state.release
      | _ => state
  | .interrupted id =>
      match state.active with
      | some (op, phase) =>
          if op.id = id then interrupt state phase
          else { state with waiting := state.waiting.filter fun op => op.id ≠ id }
      | none => { state with waiting := state.waiting.filter fun op => op.id ≠ id }
  | .shutdown => { state with closing := true, shutdown := some .waiting }
  | .looked =>
      let state := { state with idleTask := none, reconnectTask := none }
      match state.session with
      | none => { state with shutdown := none, returned := true }
      | some session => { state.beginClose session with shutdown := some (.closing session) }
  | .shutdownClosed =>
      match state.shutdown with
      | some (.closing session) =>
          { state.become session .closed with session := none, shutdown := none, returned := true }
      | _ => state

/-- A controller that has not been used. -/
def initial : State where
  status := fun _ => .absent
  sessions := 0
  session := none
  waiting := []
  active := none
  ops := 0
  reconnectTask := none
  idleTask := none
  closing := false
  shutdown := none
  returned := false

/-- The labelled transition system. -/
def machine : Machine State Label where
  initial state := state = initial
  step state label next := Possible state label ∧ next = perform state label

/-- No operation is in progress. -/
def State.Quiet (state : State) : Prop :=
  state.waiting = [] ∧ state.active = none ∧ state.shutdown = none

/-- No session is leaked. -/
structure Owned (state : State) : Prop where
  /-- When no operation is in progress, every session that was connected is owned or closed. -/
  owned : state.Quiet → ∀ session, state.status session = .connected ∨
    state.status session = .closing → state.session = some session
  /-- At most one session is connected. -/
  single : ∀ one other, state.status one = .connected → state.status other = .connected →
    one = other
  /-- After `async_shutdown` has returned, no session is connected. -/
  ended : state.returned = true → ∀ session, state.status session ≠ .connected

/-- Nothing interrupts an authentication, and its reply has an object for a body; when
`async_shutdown` looks at `_session`, and when it returns, no authentication is in progress; none is
accepted while it closes `_session`; and after it has returned no session becomes connected. -/
def Orderly (state : State) : Label → Prop
  | .interrupted id => ∀ op retry session,
      state.active = some (op, .authenticating retry session) → op.id ≠ id
  | .replied reply => verdict reply ≠ .raised ∧
      (verdict reply = .accepted → ∀ session, state.shutdown ≠ some (.closing session))
  | .connected => state.returned = false
  | .looked | .shutdownClosed => ∀ op retry session,
      state.active ≠ some (op, .authenticating retry session)
  | _ => True

/-! ## The invariant -/

/-- The task that has the lock is in a phase. -/
def State.At (state : State) (phase : Phase) : Prop := ∃ op, state.active = some (op, phase)

/-- What holds in an orderly run. -/
structure Consistent (state : State) : Prop where
  /-- A connected session is owned, or the camera has not answered yet. -/
  located : ∀ session, state.status session = .connected →
    state.session = some session ∨ ∃ retry, state.At (.authenticating retry session)
  /-- Somebody waits for a session that is closing. -/
  closers : ∀ session, state.status session = .closing →
    (∃ retry, state.At (.refusing retry session)) ∨ state.At (.discarding session) ∨
      state.shutdown = some (.closing session)
  /-- Unless a command uses it, the owned session is not connected. -/
  unready : ∀ phase, state.At phase → (∀ session, phase ≠ .exchanging session) →
    ∀ session, state.session = some session → state.status session ≠ .connected
  /-- While `async_shutdown` closes the owned session, it is not connected. -/
  emptying : ∀ session, state.shutdown = some (.closing session) →
    ∀ session, state.session = some session → state.status session ≠ .connected
  /-- After `async_shutdown` has returned, no session is connected. -/
  ended : state.returned = true → ∀ session, state.status session ≠ .connected
  /-- The owned session has been built. -/
  numbered : ∀ session, state.session = some session → session < state.sessions
  /-- A session that is connecting has been built, and is not the owned one. -/
  connecting : ∀ retry session, state.At (.connecting retry session) →
    session < state.sessions ∧ state.session ≠ some session
  /-- A session that authenticates has been built. -/
  authenticating : ∀ retry session, state.At (.authenticating retry session) →
    session < state.sessions

theorem owned_of_consistent {state : State} (consistent : Consistent state) : Owned state where
  owned := by
    rintro ⟨-, free, finished⟩ session (connected | closing)
    · rcases consistent.located session connected with owned | ⟨retry, op, active⟩
      · exact owned
      · cases free.symm.trans active
    · rcases consistent.closers session closing with ⟨retry, op, active⟩ | ⟨op, active⟩ | stage
      · cases free.symm.trans active
      · cases free.symm.trans active
      · cases finished.symm.trans stage
  single := by
    intro one other left right
    rcases consistent.located one left with owned | ⟨retry, op, active⟩
    · rcases consistent.located other right with owned' | at'
      · exact Option.some.inj (owned.symm.trans owned')
      · obtain ⟨retry, waits⟩ := at'
        exact absurd left (consistent.unready _ waits (by simp) one owned)
    · rcases consistent.located other right with owned' | ⟨retry', op', active'⟩
      · exact absurd right (consistent.unready _ ⟨op, active⟩ (by simp) other owned')
      · cases active.symm.trans active'
        rfl
  ended := consistent.ended

theorem at_iff {state : State} {op : Op} {phase other : Phase}
    (active : state.active = some (op, phase)) : state.At other ↔ other = phase := by
  simp [State.At, active, eq_comm]

@[simp] theorem at_enter {state : State} {op : Op} {phase other : Phase} :
    (state.enter op phase).At other ↔ other = phase := at_iff rfl

theorem not_at_of_unlocked {state : State} (unlocked : state.active = none) {phase : Phase} :
    ¬ state.At phase := by
  rintro ⟨op, active⟩
  cases unlocked.symm.trans active

theorem not_at_release {state : State} {phase : Phase} : ¬ state.release.At phase :=
  not_at_of_unlocked rfl

theorem at_eq_of_active {state next : State} (active : next.active = state.active) :
    next.At = state.At := by
  funext phase
  rw [State.At, active, State.At]

/-- The invariant is about the sessions, the task that has the lock and `async_shutdown`. -/
theorem Consistent.of_same {state next : State} (consistent : Consistent state)
    (status : next.status = state.status) (sessions : next.sessions = state.sessions)
    (session : next.session = state.session) (active : next.active = state.active)
    (shutdown : ∀ session, next.shutdown = some (.closing session) ↔
      state.shutdown = some (.closing session))
    (returned : next.returned = state.returned) : Consistent next := by
  have same := at_eq_of_active active
  refine
    { located := ?_
      closers := ?_
      unready := ?_
      emptying := ?_
      ended := ?_
      numbered := ?_
      connecting := ?_
      authenticating := ?_ }
  · rw [status, session, same]
    exact consistent.located
  · simp only [status, shutdown, same]
    exact consistent.closers
  · rw [status, session, same]
    exact consistent.unready
  · simp only [status, session, shutdown]
    exact consistent.emptying
  · rw [status, returned]
    exact consistent.ended
  · rw [session, sessions]
    exact consistent.numbered
  · rw [session, sessions, same]
    exact consistent.connecting
  · rw [sessions, same]
    exact consistent.authenticating

/-- When no session is connected, it matters only who waits for those that are closing. -/
theorem Consistent.of_unconnected {state next : State} (consistent : Consistent state)
    (unconnected : ∀ session, next.status session ≠ .connected)
    (closers : ∀ session, next.status session = .closing →
      (∃ retry, state.At (.refusing retry session)) ∨ state.At (.discarding session) ∨
        next.shutdown = some (.closing session))
    (sessions : next.sessions = state.sessions)
    (session : ∀ session, next.session = some session → state.session = some session)
    (active : next.active = state.active) : Consistent next := by
  have same := at_eq_of_active active
  refine
    { located := fun other connected => absurd connected (unconnected other)
      closers := ?_
      unready := fun _ _ _ other _ => unconnected other
      emptying := fun _ _ other _ => unconnected other
      ended := fun _ => unconnected
      numbered := fun other owned => ?_
      connecting := fun retry other waits => ?_
      authenticating := ?_ }
  · rw [same]
    exact closers
  · rw [sessions]
    exact consistent.numbered other (session other owned)
  · rw [same] at waits
    rw [sessions]
    have before := consistent.connecting retry other waits
    exact ⟨before.1, fun owned => before.2 (session other owned)⟩
  · rw [sessions, same]
    exact consistent.authenticating

/-- The task that has the lock has no open session in its hands. -/
structure State.Free (state : State) : Prop where
  authenticating : ∀ retry session, state.At (.authenticating retry session) →
    state.status session ≠ .connected
  refusing : ∀ retry session, state.At (.refusing retry session) → state.status session ≠ .closing
  discarding : ∀ session, state.At (.discarding session) → state.status session ≠ .closing

theorem free_of_active {state : State} {op : Op} {phase : Phase}
    (active : state.active = some (op, phase))
    (authenticating : ∀ retry session, phase ≠ .authenticating retry session)
    (refusing : ∀ retry session, phase ≠ .refusing retry session)
    (discarding : ∀ session, phase ≠ .discarding session) : state.Free where
  authenticating retry session waits :=
    absurd ((at_iff active).mp waits).symm (authenticating retry session)
  refusing retry session waits := absurd ((at_iff active).mp waits).symm (refusing retry session)
  discarding session waits := absurd ((at_iff active).mp waits).symm (discarding session)

theorem free_of_unlocked {state : State} (unlocked : state.active = none) : state.Free where
  authenticating _ _ waits := absurd waits (not_at_of_unlocked unlocked)
  refusing _ _ waits := absurd waits (not_at_of_unlocked unlocked)
  discarding _ waits := absurd waits (not_at_of_unlocked unlocked)

theorem Consistent.owned_of_free {state : State} (consistent : Consistent state)
    (free : state.Free) {session : ℕ} (connected : state.status session = .connected) :
    state.session = some session :=
  (consistent.located session connected).resolve_right fun ⟨retry, waits⟩ =>
    free.authenticating retry session waits connected

theorem Consistent.stage_of_free {state : State} (consistent : Consistent state)
    (free : state.Free) {session : ℕ} (closing : state.status session = .closing) :
    state.shutdown = some (.closing session) := by
  rcases consistent.closers session closing with ⟨retry, waits⟩ | waits | stage
  · exact absurd closing (free.refusing retry session waits)
  · exact absurd closing (free.discarding session waits)
  · exact stage

/-- A task without an open session in its hands can give the lock back. -/
theorem Consistent.release {state : State} (consistent : Consistent state) (free : state.Free) :
    Consistent state.release where
  located _ connected := Or.inl (consistent.owned_of_free free connected)
  closers _ closing := Or.inr (Or.inr (consistent.stage_of_free free closing))
  unready _ waits := absurd waits not_at_release
  emptying := consistent.emptying
  ended := consistent.ended
  numbered := consistent.numbered
  connecting _ _ waits := absurd waits not_at_release
  authenticating _ _ waits := absurd waits not_at_release

/-- A task without an open session in its hands can prepare one, or use the owned one. -/
theorem Consistent.enter {state : State} (consistent : Consistent state) (free : state.Free)
    (op : Op) {phase : Phase}
    (ready : (∀ session, phase ≠ .exchanging session) → ∀ session, state.session = some session →
      state.status session ≠ .connected)
    (connecting : ∀ retry session, phase = .connecting retry session →
      session < state.sessions ∧ state.session ≠ some session)
    (authenticating : ∀ retry session, phase ≠ .authenticating retry session) :
    Consistent (state.enter op phase) where
  located _ connected := Or.inl (consistent.owned_of_free free connected)
  closers _ closing := Or.inr (Or.inr (consistent.stage_of_free free closing))
  unready := by
    intro other waits
    obtain rfl := at_enter.mp waits
    exact ready
  emptying := consistent.emptying
  ended := consistent.ended
  numbered := consistent.numbered
  connecting retry session waits := connecting retry session (at_enter.mp waits).symm
  authenticating retry session waits :=
    absurd (at_enter.mp waits).symm (authenticating retry session)

/-- A session that changes to another status than `connected` and `closing` is in nobody's way. -/
theorem Consistent.become {state : State} (consistent : Consistent state) (session : ℕ)
    {status : Status} (idle : status ≠ .connected) (ended : status ≠ .closing) :
    Consistent (state.become session status) := by
  have before : ∀ {other old}, status ≠ old →
      (state.become session status).status other = old → state.status other = old := by
    intro other old differs became
    simp only [State.become, Function.update_apply] at became
    split at became
    · exact absurd became differs
    · exact became
  exact
    { located := fun other connected => consistent.located other (before idle connected)
      closers := fun other closing => consistent.closers other (before ended closing)
      unready := fun phase waits unused other owned connected =>
        consistent.unready phase waits unused other owned (before idle connected)
      emptying := fun other stage owned same connected =>
        consistent.emptying other stage owned same (before idle connected)
      ended := fun returned other connected =>
        consistent.ended returned other (before idle connected)
      numbered := consistent.numbered
      connecting := consistent.connecting
      authenticating := consistent.authenticating }

theorem status_beginClose {state : State} {session other : ℕ} :
    (state.beginClose session).status other =
      if other = session ∧ state.status session = .connected then .closing
      else state.status other := by
  simp only [State.beginClose]
  split
  · next connected =>
    simp [Function.update_apply, connected]
  · next differs =>
    simp [differs]

/-- The only session that is connected begins to be closed. -/
theorem status_beginClose_ne {state : State} {session : ℕ}
    (only : ∀ other, state.status other = .connected → other = session) (other : ℕ) :
    (state.beginClose session).status other ≠ .connected := by
  rw [status_beginClose]
  split
  · simp
  · next differs =>
    intro connected
    obtain rfl := only other connected
    exact differs ⟨rfl, connected⟩

/-- The task that has the lock waits until the only session that was connected is closed. -/
theorem Consistent.close {state : State} (consistent : Consistent state) (op : Op) {session : ℕ}
    {phase : Phase} (closes : phase = .discarding session ∨ ∃ retry, phase = .refusing retry session)
    (only : ∀ other, state.status other = .connected → other = session)
    (stages : ∀ other, state.status other = .closing → state.shutdown = some (.closing other)) :
    Consistent ((state.beginClose session).enter op phase) where
  located other connected := absurd connected (status_beginClose_ne only other)
  closers := by
    intro other closing
    change (state.beginClose session).status other = .closing at closing
    rw [status_beginClose] at closing
    split at closing
    · next same =>
      obtain ⟨rfl, -⟩ := same
      rcases closes with rfl | ⟨retry, rfl⟩
      · exact Or.inr (Or.inl (at_enter.mpr rfl))
      · exact Or.inl ⟨retry, at_enter.mpr rfl⟩
    · exact Or.inr (Or.inr (stages other closing))
  unready _ _ _ other _ := status_beginClose_ne only other
  emptying _ _ other _ := status_beginClose_ne only other
  ended _ other := status_beginClose_ne only other
  numbered := consistent.numbered
  connecting retry other waits := by
    have same := at_enter.mp waits
    rcases closes with rfl | ⟨retry', rfl⟩
    · cases same
    · cases same
  authenticating retry other waits := by
    have same := at_enter.mp waits
    rcases closes with rfl | ⟨retry', rfl⟩
    · cases same
    · cases same

/-! ## The steps -/

/-- While a session is being established, the owned one is not connected. -/
theorem Consistent.only_of_authenticating {state : State} (consistent : Consistent state)
    {retry : Bool} {session : ℕ} (waits : state.At (.authenticating retry session)) {other : ℕ}
    (connected : state.status other = .connected) : other = session := by
  rcases consistent.located other connected with owned | ⟨retry', op', active'⟩
  · exact absurd connected (consistent.unready _ waits (by simp) other owned)
  · obtain ⟨op, active⟩ := waits
    cases active.symm.trans active'
    rfl

theorem Consistent.stage_of_authenticating {state : State} (consistent : Consistent state)
    {op : Op} {retry : Bool} {session : ℕ}
    (active : state.active = some (op, .authenticating retry session)) {other : ℕ}
    (closing : state.status other = .closing) : state.shutdown = some (.closing other) := by
  rcases consistent.closers other closing with ⟨retry', waits⟩ | waits | stage
  · cases (at_iff active).mp waits
  · cases (at_iff active).mp waits
  · exact stage

/-- A session that has become connected is not owned yet. -/
theorem consistent_connected {state : State} (consistent : Consistent state) {op : Op}
    {retry : Bool} {session : ℕ} (active : state.active = some (op, .connecting retry session))
    (returned : state.returned = false) : Consistent (perform state .connected) := by
  obtain ⟨built, apart⟩ := consistent.connecting retry session ⟨op, active⟩
  have free : state.Free := free_of_active active (by simp) (by simp) (by simp)
  have elsewhere : ∀ {other}, other ≠ session →
      Function.update state.status session .connected other = state.status other :=
    fun differs => Function.update_of_ne differs _ _
  have here : Function.update state.status session .connected session = .connected :=
    Function.update_self ..
  have owned : ∀ {other}, state.session = some other → other ≠ session := by
    rintro other same rfl
    exact apart same
  simp only [perform, active]
  refine
    { located := fun other connected => ?_
      closers := fun other closing => ?_
      unready := fun phase waits unused other same => ?_
      emptying := fun stage closes other same => ?_
      ended := fun finished => ?_
      numbered := consistent.numbered
      connecting := fun retry other waits => ?_
      authenticating := fun retry other waits => ?_ }
  · rcases eq_or_ne other session with rfl | differs
    · exact Or.inr ⟨retry, at_enter.mpr rfl⟩
    · exact Or.inl (consistent.owned_of_free free ((elsewhere differs).symm.trans connected))
  · rcases eq_or_ne other session with rfl | differs
    · cases here.symm.trans closing
    · exact Or.inr (Or.inr (consistent.stage_of_free free
        ((elsewhere differs).symm.trans closing)))
  · intro connected
    exact consistent.unready _ ⟨op, active⟩ (by simp) other same
      ((elsewhere (owned same)).symm.trans connected)
  · intro connected
    exact consistent.emptying stage closes other same
      ((elsewhere (owned same)).symm.trans connected)
  · cases returned.symm.trans finished
  · cases at_enter.mp waits
  · cases at_enter.mp waits
    exact built

/-- A session that was accepted is owned from then on. -/
theorem consistent_own {state : State} (consistent : Consistent state) {op : Op} {retry : Bool}
    {session : ℕ} (active : state.active = some (op, .authenticating retry session))
    (open_ : ∀ other, state.shutdown ≠ some (.closing other)) :
    Consistent (own state op session) := by
  have waits : state.At (.authenticating retry session) := ⟨op, active⟩
  have only : ∀ other, state.status other = .connected → some session = some other :=
    fun other connected => congrArg some (consistent.only_of_authenticating waits connected).symm
  have unclosed : ∀ other, state.status other ≠ .closing := fun other closing =>
    open_ other (consistent.stage_of_authenticating active closing)
  let owner : State := { state with session := some session }
  have released : Consistent owner.release :=
    { located := fun other connected => Or.inl (only other connected)
      closers := fun other closing => absurd closing (unclosed other)
      unready := fun phase waits => absurd waits not_at_release
      emptying := fun other closes => absurd closes (open_ other)
      ended := consistent.ended
      numbered := fun other same => by
        cases same
        exact consistent.authenticating retry session waits
      connecting := fun retry other waits => absurd waits not_at_release
      authenticating := fun retry other waits => absurd waits not_at_release }
  rw [own]
  split
  · exact released.enter (free_of_unlocked rfl) op (fun unused => absurd rfl (unused session))
      (by simp) (by simp)
  · exact released
  · exact released

/-- A refused session begins to be closed. -/
theorem consistent_refused {state : State} (consistent : Consistent state) {op : Op} {retry : Bool}
    {session : ℕ} (active : state.active = some (op, .authenticating retry session)) :
    Consistent ((state.beginClose session).enter op (.refusing retry session)) :=
  consistent.close op (Or.inr ⟨retry, rfl⟩)
    (fun _ connected => consistent.only_of_authenticating ⟨op, active⟩ connected)
    fun _ closing => consistent.stage_of_authenticating active closing

/-- The owned session begins to be closed. -/
theorem consistent_discarding {state : State} (consistent : Consistent state) (free : state.Free)
    (op : Op) {session : ℕ} (owned : state.session = some session) :
    Consistent ((state.beginClose session).enter op (.discarding session)) :=
  consistent.close op (Or.inl rfl)
    (fun _ connected =>
      Option.some.inj ((consistent.owned_of_free free connected).symm.trans owned))
    fun _ closing => consistent.stage_of_free free closing

/-- A task that goes on with the lock has no session in its hands before. -/
theorem consistent_acquire {state : State} (consistent : Consistent state)
    (unlocked : state.active = none) (op : Op) : Consistent (acquire state op) := by
  have free := free_of_unlocked unlocked
  rw [acquire]
  split
  · next session _ owned =>
    split
    · next connected =>
      exact consistent.enter free op (fun unused => absurd rfl (unused session)) (by simp) (by simp)
    · next replaced =>
      refine consistent.enter free op (fun _ other same => ?_) (by simp) (by simp)
      cases owned.symm.trans same
      exact replaced
  · next absent =>
    exact consistent.enter free op (fun _ other same => absurd (absent.symm.trans same) (by simp))
      (by simp) (by simp)
  · exact consistent
  · next absent =>
    split
    · exact consistent
    · exact consistent.enter free op
        (fun _ other same => absurd (absent.symm.trans same) (by simp)) (by simp) (by simp)
  · next owned => exact consistent_discarding consistent free op owned
  · exact consistent

/-- A session is built. -/
theorem consistent_prepared {state : State} (consistent : Consistent state) {op : Op}
    {retry : Bool} (active : state.active = some (op, .preparing retry)) :
    Consistent (perform state .prepared) := by
  have ready := consistent.unready _ ⟨op, active⟩ (by simp)
  have became : Consistent (state.become state.sessions .connecting) :=
    consistent.become state.sessions (by simp) (by simp)
  have built : Consistent { state.become state.sessions .connecting with
      sessions := state.sessions + 1 } :=
    { became with
      numbered := fun session owned => Nat.lt_succ_of_lt (consistent.numbered session owned)
      connecting := fun retry session waits => by
        have before := consistent.connecting retry session waits
        exact ⟨Nat.lt_succ_of_lt before.1, before.2⟩
      authenticating := fun retry session waits =>
        Nat.lt_succ_of_lt (consistent.authenticating retry session waits) }
  simp only [perform, active]
  refine built.enter (free_of_active active (by simp) (by simp) (by simp)) op
    (fun _ other owned => ?_) (fun retry session connects => ?_) (by simp)
  · have older := consistent.numbered other owned
    rw [show State.status _ other = Function.update state.status state.sessions .connecting other
      from rfl, Function.update_of_ne (by omega)]
    exact ready other owned
  · cases connects
    refine ⟨Nat.lt_succ_self _, fun owned => ?_⟩
    exact absurd (consistent.numbered _ owned) (Nat.lt_irrefl _)

theorem consistent_scheduleEagerReconnect {state : State} (consistent : Consistent state) :
    Consistent state.scheduleEagerReconnect := by
  rw [State.scheduleEagerReconnect]
  split
  · exact consistent
  · split
    · exact consistent
    · exact consistent.of_same rfl rfl rfl rfl (fun _ => Iff.rfl) rfl

/-- A reply ends the wait for it. -/
theorem consistent_replied {state : State} (consistent : Consistent state) {op : Op}
    {retry : Bool} {session : ℕ} (active : state.active = some (op, .authenticating retry session))
    {reply : Option (ℕ × Json)} (orderly : Orderly state (.replied reply)) :
    Consistent (perform state (.replied reply)) := by
  simp only [perform, active]
  cases judged : verdict reply with
  | accepted => exact consistent_own consistent active (orderly.2 judged)
  | refused => exact consistent_refused consistent active
  | raised => exact absurd judged orderly.1

/-- The task that has the lock has no open session in its hands once it has been closed. -/
theorem free_of_closed {state : State} {op : Op} {phase : Phase} {session : ℕ}
    (active : state.active = some (op, phase))
    (closes : phase = .discarding session ∨ ∃ retry, phase = .refusing retry session) :
    (state.become session .closed).Free := by
  have closed : (state.become session .closed).status session = .closed := Function.update_self ..
  refine ⟨fun retry other waits => ?_, fun retry other waits => ?_, fun other waits => ?_⟩
  · have same := (at_iff active).mp waits
    rcases closes with rfl | ⟨retry', rfl⟩
    · cases same
    · cases same
  · have same := (at_iff active).mp waits
    rcases closes with rfl | ⟨retry', rfl⟩
    · cases same
    · cases same
      simp [closed]
  · have same := (at_iff active).mp waits
    rcases closes with rfl | ⟨retry', rfl⟩
    · cases same
      simp [closed]
    · cases same

/-- A session that the task with the lock waited for is closed. -/
theorem consistent_closed {state : State} (consistent : Consistent state)
    (possible : Possible state .closed) : Consistent (perform state .closed) := by
  have finished : ∀ session, Consistent (state.become session .closed) :=
    fun session => consistent.become session (by simp) (by simp)
  rcases possible with ⟨op, retry, session, active⟩ | ⟨op, session, active⟩
  · have free := free_of_closed active (Or.inr ⟨retry, rfl⟩)
    have ready := (finished session).unready _ ⟨op, active⟩ (by simp)
    simp only [perform, active]
    split
    · exact (finished session).release free
    · exact (finished session).enter free op (fun _ => ready) (by simp) (by simp)
  · have free := free_of_closed active (Or.inl rfl)
    have unconnected : ∀ other, (state.become session .closed).status other ≠ .connected := by
      intro other connected
      have owned := (finished session).owned_of_free free connected
      exact (finished session).unready _ ⟨op, active⟩ (by simp) other owned connected
    have disowned : Consistent { state.become session .closed with session := none } :=
      (finished session).of_unconnected unconnected (finished session).closers rfl
        (fun _ owned => by cases owned) rfl
    have released := disowned.release ⟨free.authenticating, free.refusing, free.discarding⟩
    simp only [perform, active]
    split
    · exact consistent_scheduleEagerReconnect released
    · exact released
    · exact released

/-- The command is acknowledged. -/
theorem consistent_acked {state : State} (consistent : Consistent state) {op : Op}
    {session : ℕ} (active : state.active = some (op, .exchanging session)) :
    Consistent (perform state .acked) := by
  have free : state.Free := free_of_active active (by simp) (by simp) (by simp)
  simp only [perform, active]
  split
  · rw [discard]
    split
    · exact consistent_scheduleEagerReconnect (consistent.release free)
    · next owned => exact consistent_discarding consistent free op owned
  · exact consistent.release free

/-- An exception or a cancellation ends a task that does not authenticate. -/
theorem consistent_interrupted {state : State} (consistent : Consistent state) (id : ℕ)
    (orderly : Orderly state (.interrupted id)) :
    Consistent (perform state (.interrupted id)) := by
  simp only [perform]
  split
  · next op phase active =>
    split
    · next same =>
      cases phase with
      | preparing retry =>
          exact consistent.release (free_of_active active (by simp) (by simp) (by simp))
      | connecting retry session =>
          exact (consistent.become session (by simp) (by simp)).release
            (free_of_active active (by simp) (by simp) (by simp))
      | authenticating retry session => exact absurd same (orderly op retry session active)
      | refusing retry session => exact consistent
      | exchanging session =>
          exact consistent.release (free_of_active active (by simp) (by simp) (by simp))
      | discarding session => exact consistent
    · exact consistent.of_same rfl rfl rfl rfl (fun _ => Iff.rfl) rfl
  · exact consistent.of_same rfl rfl rfl rfl (fun _ => Iff.rfl) rfl

/-- When no authentication is in progress, a connected session is owned. -/
theorem Consistent.owned_of_orderly {state : State} (consistent : Consistent state)
    (orderly : ∀ op retry session, state.active ≠ some (op, .authenticating retry session))
    {session : ℕ} (connected : state.status session = .connected) :
    state.session = some session := by
  refine (consistent.located session connected).resolve_right ?_
  rintro ⟨retry, op, active⟩
  exact orderly op retry session active

/-- `async_shutdown` looks at the owned session and begins to close it. -/
theorem consistent_looked {state : State} (consistent : Consistent state)
    (stage : state.shutdown = some .waiting) (orderly : Orderly state .looked) :
    Consistent (perform state .looked) := by
  have waits : ∀ session, state.shutdown ≠ some (.closing session) := by simp [stage]
  have others : ∀ session, state.status session = .closing →
      (∃ retry, state.At (.refusing retry session)) ∨ state.At (.discarding session) := by
    intro session closing
    rcases consistent.closers session closing with refusing | discarding | shutdown
    · exact Or.inl refusing
    · exact Or.inr discarding
    · exact absurd shutdown (waits session)
  simp only [perform]
  split
  · next absent =>
    refine consistent.of_unconnected (fun session connected => ?_) (fun session closing => ?_) rfl
      (fun _ owned => owned) rfl
    · cases absent.symm.trans (consistent.owned_of_orderly orderly connected)
    · exact (others session closing).imp_right Or.inl
  · next session owned =>
    have only : ∀ other, state.status other = .connected → other = session := fun other connected =>
      Option.some.inj ((consistent.owned_of_orderly orderly connected).symm.trans owned)
    refine consistent.of_unconnected (status_beginClose_ne only) (fun other closing => ?_) rfl
      (fun _ owned => owned) rfl
    change (state.beginClose session).status other = .closing at closing
    rw [status_beginClose] at closing
    split at closing
    · next same =>
      obtain ⟨rfl, -⟩ := same
      exact Or.inr (Or.inr rfl)
    · exact (others other closing).imp_right Or.inl

/-- `async_shutdown` returns after it has closed the owned session. -/
theorem consistent_shutdownClosed {state : State} (consistent : Consistent state) {session : ℕ}
    (stage : state.shutdown = some (.closing session)) (orderly : Orderly state .shutdownClosed) :
    Consistent (perform state .shutdownClosed) := by
  have finished : Consistent (state.become session .closed) :=
    consistent.become session (by simp) (by simp)
  have closed : (state.become session .closed).status session = .closed := Function.update_self ..
  simp only [perform, stage]
  refine finished.of_unconnected (fun other connected => ?_) (fun other closing => ?_) rfl
    (fun _ owned => by cases owned) rfl
  · have owned : state.session = some other := finished.owned_of_orderly orderly connected
    exact finished.emptying session stage other owned connected
  · rcases finished.closers other closing with refusing | discarding | shutdown
    · exact Or.inl refusing
    · exact Or.inr (Or.inl discarding)
    · cases stage.symm.trans shutdown
      cases closed.symm.trans closing

theorem consistent_initial : Consistent initial where
  located _ connected := by cases connected
  closers _ closing := by cases closing
  unready _ waits := absurd waits (not_at_of_unlocked rfl)
  emptying _ stage := by cases stage
  ended returned := by cases returned
  numbered _ owned := by cases owned
  connecting _ _ waits := absurd waits (not_at_of_unlocked rfl)
  authenticating _ _ waits := absurd waits (not_at_of_unlocked rfl)

theorem consistent_perform {state : State} (consistent : Consistent state) {label : Label}
    (orderly : Orderly state label) (possible : Possible state label) :
    Consistent (perform state label) := by
  cases label with
  | command recycleAfter => exact consistent.of_same rfl rfl rfl rfl (fun _ => Iff.rfl) rfl
  | idle => exact consistent.of_same rfl rfl rfl rfl (fun _ => Iff.rfl) rfl
  | acquired op =>
      have waited : Consistent { state with waiting := state.waiting.erase op } :=
        consistent.of_same rfl rfl rfl rfl (fun _ => Iff.rfl) rfl
      exact consistent_acquire waited possible.2 op
  | prepared =>
      obtain ⟨op, retry, active⟩ := possible
      exact consistent_prepared consistent active
  | connected =>
      obtain ⟨op, retry, session, active⟩ := possible
      exact consistent_connected consistent active orderly
  | replied reply =>
      obtain ⟨op, retry, session, active⟩ := possible
      exact consistent_replied consistent active orderly
  | closed => exact consistent_closed consistent possible
  | acked =>
      obtain ⟨op, session, active⟩ := possible
      exact consistent_acked consistent active
  | interrupted id => exact consistent_interrupted consistent id orderly
  | shutdown =>
      have idle : state.shutdown = none := possible
      exact consistent.of_same rfl rfl rfl rfl (by simp [perform, idle]) rfl
  | looked => exact consistent_looked consistent possible.1 orderly
  | shutdownClosed =>
      obtain ⟨session, stage⟩ := possible
      exact consistent_shutdownClosed consistent stage orderly

/-- No session is leaked in an orderly run. -/
theorem run_owned {labels : List Label} {state : State}
    (run : machine.Run Orderly labels state) : Owned state := by
  have consistent : Consistent state := run.invariant
    (fun start initial => initial ▸ consistent_initial)
    fun before label next consistent orderly step => by
      obtain ⟨possible, rfl⟩ := step
      exact consistent_perform consistent orderly possible
  exact owned_of_consistent consistent

/-- The reply of a camera that accepts the authentication. -/
def accepting : Option (ℕ × Json) := some (authReplyIotype, .object [("code", .number 0)])

theorem verdict_accepting : verdict accepting = .accepted := by
  simp [verdict, accepting, isZero]

/-- A camera is moved once, and the integration is unloaded. -/
theorem one_command_owned : ∃ labels state, machine.Run Orderly labels state ∧
    state.returned = true ∧ state.sessions = 1 ∧ state.status 0 = .closed ∧ Owned state := by
  have start : machine.Run Orderly [] initial := .start rfl
  have called := start.extend (.command false) trivial ⟨trivial, rfl⟩
  have locked := called.extend (.acquired ⟨0, .command false⟩) trivial
    ⟨⟨List.mem_singleton.mpr rfl, rfl⟩, rfl⟩
  have prepared := locked.extend .prepared trivial ⟨⟨_, _, rfl⟩, rfl⟩
  have connected := prepared.extend .connected rfl ⟨⟨_, _, _, rfl⟩, rfl⟩
  have replied := connected.extend (.replied accepting)
    ⟨by simp [verdict_accepting], fun _ _ closes => by cases closes⟩ ⟨⟨_, _, _, rfl⟩, rfl⟩
  have acked := replied.extend .acked trivial ⟨⟨_, _, rfl⟩, rfl⟩
  have unloaded := acked.extend .shutdown trivial ⟨rfl, rfl⟩
  have looked := unloaded.extend .looked (fun _ _ _ active => by cases active) ⟨⟨rfl, rfl, rfl⟩, rfl⟩
  have returned := looked.extend .shutdownClosed (fun _ _ _ active => by cases active)
    ⟨⟨_, rfl⟩, rfl⟩
  exact ⟨_, _, returned, rfl, rfl, rfl, run_owned returned⟩

/-- A camera whose reply has a list for a body leaves its session connected, and so does a command
after `async_shutdown` has returned. -/
theorem sessions_leak :
    (∃ labels state, machine.Run (fun _ _ => True) labels state ∧
      labels = [.command false, .acquired ⟨0, .command false⟩, .prepared, .connected,
        .replied (some (authReplyIotype, .array []))] ∧
      state.Quiet ∧ state.status 0 = .connected ∧ state.session = none ∧ ¬ Owned state) ∧
    ∃ labels state, machine.Run (fun _ _ => True) labels state ∧
      labels = [.shutdown, .looked, .command false, .acquired ⟨0, .command false⟩, .prepared,
        .connected] ∧
      state.returned = true ∧ state.status 0 = .connected ∧ ¬ Owned state := by
  have start : machine.Run (fun _ _ => True) [] initial := .start rfl
  constructor
  · have called := start.extend (.command false) trivial ⟨trivial, rfl⟩
    have locked := called.extend (.acquired ⟨0, .command false⟩) trivial
      ⟨⟨List.mem_singleton.mpr rfl, rfl⟩, rfl⟩
    have prepared := locked.extend .prepared trivial ⟨⟨_, _, rfl⟩, rfl⟩
    have connected := prepared.extend .connected trivial ⟨⟨_, _, _, rfl⟩, rfl⟩
    have replied := connected.extend (.replied (some (authReplyIotype, .array []))) trivial
      ⟨⟨_, _, _, rfl⟩, rfl⟩
    refine ⟨_, _, replied, rfl, ⟨rfl, rfl, rfl⟩, rfl, rfl, fun owned => ?_⟩
    cases owned.owned ⟨rfl, rfl, rfl⟩ 0 (Or.inl rfl)
  · have unloaded := start.extend .shutdown trivial ⟨rfl, rfl⟩
    have looked := unloaded.extend .looked trivial ⟨⟨rfl, rfl, rfl⟩, rfl⟩
    have called := looked.extend (.command false) trivial ⟨trivial, rfl⟩
    have locked := called.extend (.acquired ⟨0, .command false⟩) trivial
      ⟨⟨List.mem_singleton.mpr rfl, rfl⟩, rfl⟩
    have prepared := locked.extend .prepared trivial ⟨⟨_, _, rfl⟩, rfl⟩
    have connected := prepared.extend .connected trivial ⟨⟨_, _, _, rfl⟩, rfl⟩
    exact ⟨_, _, connected, rfl, rfl, rfl, fun owned => owned.ended rfl 0 rfl⟩

end Ptz
end Reference
end AqaraLanLink
