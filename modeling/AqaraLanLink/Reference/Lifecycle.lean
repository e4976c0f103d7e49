import AqaraLanLink.Library.Runs
import Mathlib.Logic.Function.Basic
import Mathlib.Order.Nat

/-!
# The connection lifecycle of the coordinator

`start`, `stop`, `_run`, `_run_session_once` and `_close_tunnel` of `HubCoordinator` as a labelled
transition system, with the writers and keepalive tasks of the tunnels they create.  A session loop
runs from one `await` to the next; a cancelled one receives its cancellation at an `await`.
-/

namespace AqaraLanLink
namespace Reference
namespace Lifecycle

open Library

/-! ## The machine -/

/-- The writer of a tunnel. -/
inductive Writer where
  /-- The TCP connection has not been opened. -/
  | none
  /-- It is open. -/
  | opened
  /-- It has been closed. -/
  | closed
  deriving DecidableEq, Repr

/-- How a session ends, as `_run` sees it. -/
inductive Ending where
  /-- `_run_session_once` returns. -/
  | clean
  /-- It raises `ConnectionError`. -/
  | failed
  /-- It raises another exception. -/
  | raised
  /-- It raises `CancelledError`. -/
  | cancelled
  deriving DecidableEq, Repr

/-- The `await` a session loop is at. -/
inductive Stage where
  /-- The task has been created and has not run. -/
  | created
  /-- `open_connection` for this tunnel. -/
  | connecting (tunnel : ℕ)
  /-- The handshake. -/
  | handshake (tunnel : ℕ)
  /-- `client.checkin()`. -/
  | checkin (tunnel : ℕ)
  /-- `await listen_task`. -/
  | session (tunnel : ℕ)
  /-- The cancelled listen task, in the `finally`. -/
  | cancelling (ending : Ending)
  /-- The cancelled keepalive task of a tunnel, in `tunnel.close()`. -/
  | closing (tunnel : ℕ) (ending : Ending)
  /-- `writer.wait_closed()`. -/
  | waiting (ending : Ending)
  /-- `_refresh_endpoint_via_mdns`. -/
  | discovery
  /-- `_reconnect_sleep`. -/
  | sleeping
  /-- The task has ended, or does not exist. -/
  | done
  deriving DecidableEq, Repr

/-- The `await` a call of `stop` is at. -/
inductive StopStage where
  /-- It waits for the task that it has cancelled. -/
  | task (runner : ℕ)
  /-- It waits for the keepalive task of a tunnel. -/
  | closing (tunnel : ℕ)
  /-- It waits for the writer. -/
  | waiting
  deriving DecidableEq, Repr

/-- A coordinator, with every session loop and every tunnel it has created, by their numbers. -/
structure Coordinator where
  /-- How many session loops have been created. -/
  spawned : ℕ
  /-- Where they are. -/
  stages : ℕ → Stage
  /-- Whether their cancellation has been requested and not delivered. -/
  cancelled : ℕ → Bool
  /-- `_task`. -/
  task : Option ℕ
  /-- `_stopping`. -/
  stopping : Bool
  /-- `_connected_event`. -/
  connected : Bool
  /-- `_tunnel`. -/
  tunnel : Option ℕ
  /-- How many tunnels have been created. -/
  count : ℕ
  /-- Their writers. -/
  writers : ℕ → Writer
  /-- Whether their keepalive task runs. -/
  keepalives : ℕ → Bool
  /-- The calls of `stop` that have not returned. -/
  stops : List StopStage
  /-- Whether a call of `stop` has returned, and `start` has not been called since. -/
  stopped : Bool

/-- What happens to a coordinator. -/
inductive Label where
  /-- `start`. -/
  | start
  /-- `stop` is called. -/
  | stop
  /-- The task that a `stop` waits for has ended. -/
  | taskEnded (runner : ℕ)
  /-- The keepalive task that a `stop` waits for has ended. -/
  | stopClosing (tunnel : ℕ)
  /-- The writer that a `stop` waits for is closed. -/
  | stopClosed
  /-- A new task runs. -/
  | taskRuns (runner : ℕ)
  /-- The TCP connection is opened. -/
  | tcpOpened (runner tunnel : ℕ)
  /-- `open_connection` raises. -/
  | tcpFailed (runner tunnel : ℕ)
  /-- The handshake is complete. -/
  | handshakeDone (runner tunnel : ℕ)
  /-- The handshake raises; `known` is whether it is an `OSError` or a `TunnelError`. -/
  | handshakeFailed (runner tunnel : ℕ) (known : Bool)
  /-- The hub accepts the check-in. -/
  | checkinAccepted (runner tunnel : ℕ)
  /-- The check-in is rejected or raises; `listening` is whether the listen task still runs. -/
  | checkinFailed (runner tunnel : ℕ) (known listening : Bool)
  /-- The listen task ends: EOF or an error of the tunnel. -/
  | listenEnded (runner tunnel : ℕ)
  /-- The cancelled listen task has ended. -/
  | listenCancelled (runner : ℕ) (ending : Ending)
  /-- The keepalive task of a tunnel that is being closed has ended. -/
  | keepaliveEnded (runner tunnel : ℕ) (ending : Ending)
  /-- The writer of a tunnel that is being closed is closed. -/
  | writerClosed (runner : ℕ) (ending : Ending)
  /-- The mDNS lookup is over; `changed` is whether the endpoint has changed. -/
  | discovered (runner : ℕ) (changed : Bool)
  /-- The backoff is over. -/
  | slept (runner : ℕ)
  /-- A cancellation is delivered; `listening` is whether the listen task still runs. -/
  | cancelDelivered (runner : ℕ) (listening : Bool)
  /-- A keepalive loop ends on its own; a silent hub makes it close the writer. -/
  | keepaliveStops (tunnel : ℕ) (silent : Bool)
  deriving DecidableEq, Repr

/-- A session loop moves on. -/
def Coordinator.proceed (coordinator : Coordinator) (runner : ℕ) (stage : Stage) : Coordinator :=
  { coordinator with stages := Function.update coordinator.stages runner stage }

/-- The head of the loop of `_run`, up to `open_connection`. -/
def Coordinator.beginSession (coordinator : Coordinator) (runner : ℕ) : Coordinator :=
  if coordinator.stopping then coordinator.proceed runner .done
  else
    { coordinator.proceed runner (.connecting coordinator.count) with
      tunnel := some coordinator.count
      count := coordinator.count + 1 }

/-- `_run` after a handled exception or a clean end. -/
def Coordinator.backOff (coordinator : Coordinator) (runner : ℕ) : Coordinator :=
  if coordinator.stopping then coordinator.proceed runner .done
  else coordinator.proceed runner .sleeping

/-- `_run` after `_run_session_once`. -/
def Coordinator.afterSession (coordinator : Coordinator) (runner : ℕ) : Ending → Coordinator
  | .clean => coordinator.backOff runner
  | .failed => coordinator.proceed runner .discovery
  | .raised => coordinator.backOff runner
  | .cancelled => coordinator.proceed runner .done

/-- `_close_tunnel` in the `finally`, up to its first `await`. -/
def Coordinator.closeTunnel (coordinator : Coordinator) (runner : ℕ) (ending : Ending) :
    Coordinator :=
  match coordinator.tunnel with
  | none => coordinator.afterSession runner ending
  | some tunnel => { coordinator.proceed runner (.closing tunnel ending) with tunnel := none }

/-- The `finally` of `_run_session_once`. -/
def Coordinator.endSession (coordinator : Coordinator) (runner : ℕ) (listening : Bool)
    (ending : Ending) : Coordinator :=
  let coordinator := { coordinator with connected := false }
  if listening then coordinator.proceed runner (.cancelling ending)
  else coordinator.closeTunnel runner ending

/-- `tunnel.close()` after its keepalive task has ended, up to `wait_closed`. -/
def Coordinator.closeWriter (coordinator : Coordinator) (tunnel : ℕ) : Coordinator :=
  { coordinator with
    keepalives := Function.update coordinator.keepalives tunnel false
    writers :=
      if coordinator.writers tunnel = .opened then
        Function.update coordinator.writers tunnel .closed
      else coordinator.writers }

/-- `_close_tunnel` in `stop`, up to its first `await`. -/
def Coordinator.stopTunnel (coordinator : Coordinator) : Coordinator :=
  match coordinator.tunnel with
  | none => { coordinator with stopped := true }
  | some tunnel =>
      { coordinator with
        tunnel := none
        stops := .closing tunnel :: coordinator.stops }

/-- `stop`, up to its first `await`. -/
def Coordinator.stop (coordinator : Coordinator) : Coordinator :=
  let stopping := { coordinator with stopping := true, task := none }
  match coordinator.task with
  | none => stopping.stopTunnel
  | some runner =>
      if coordinator.stages runner = .done then stopping.stopTunnel
      else
        { stopping with
          cancelled := Function.update coordinator.cancelled runner true
          stops := .task runner :: coordinator.stops }

/-- `start`. -/
def Coordinator.start (coordinator : Coordinator) : Coordinator :=
  if coordinator.task.isSome then coordinator
  else
    { coordinator.proceed coordinator.spawned .created with
      spawned := coordinator.spawned + 1
      cancelled := Function.update coordinator.cancelled coordinator.spawned false
      task := some coordinator.spawned
      stopping := false
      stopped := false }

/-- The delivery of a cancellation at the `await` of a stage. -/
def Coordinator.deliver (coordinator : Coordinator) (runner : ℕ) (listening : Bool) :
    Stage → Coordinator
  | .checkin _ => coordinator.endSession runner listening .cancelled
  | .session _ => coordinator.endSession runner listening .cancelled
  -- The two waits below swallow it.
  | .cancelling ending => coordinator.closeTunnel runner ending
  | .closing tunnel ending => (coordinator.closeWriter tunnel).proceed runner (.waiting ending)
  | _ => coordinator.proceed runner .done

/-- When a label is possible. -/
def Possible (coordinator : Coordinator) : Label → Prop
  | .start => True
  | .stop => True
  | .taskEnded runner => .task runner ∈ coordinator.stops ∧ coordinator.stages runner = .done
  | .stopClosing tunnel => .closing tunnel ∈ coordinator.stops
  | .stopClosed => .waiting ∈ coordinator.stops
  | .taskRuns runner => coordinator.stages runner = .created
  | .tcpOpened runner tunnel => coordinator.stages runner = .connecting tunnel
  | .tcpFailed runner tunnel => coordinator.stages runner = .connecting tunnel
  | .handshakeDone runner tunnel => coordinator.stages runner = .handshake tunnel
  | .handshakeFailed runner tunnel _ => coordinator.stages runner = .handshake tunnel
  | .checkinAccepted runner tunnel => coordinator.stages runner = .checkin tunnel
  | .checkinFailed runner tunnel _ _ => coordinator.stages runner = .checkin tunnel
  | .listenEnded runner tunnel => coordinator.stages runner = .session tunnel
  | .listenCancelled runner ending => coordinator.stages runner = .cancelling ending
  | .keepaliveEnded runner tunnel ending => coordinator.stages runner = .closing tunnel ending
  | .writerClosed runner ending => coordinator.stages runner = .waiting ending
  | .discovered runner _ => coordinator.stages runner = .discovery
  | .slept runner => coordinator.stages runner = .sleeping
  | .cancelDelivered runner _ =>
      coordinator.cancelled runner = true ∧ coordinator.stages runner ≠ .done
  | .keepaliveStops tunnel _ => coordinator.keepalives tunnel = true

/-- What a label does. -/
def perform (coordinator : Coordinator) : Label → Coordinator
  | .start => coordinator.start
  | .stop => coordinator.stop
  | .taskEnded runner =>
      Coordinator.stopTunnel
        { coordinator with stops := coordinator.stops.erase (.task runner) }
  | .stopClosing tunnel =>
      { coordinator.closeWriter tunnel with
        stops := .waiting :: coordinator.stops.erase (.closing tunnel) }
  | .stopClosed =>
      { coordinator with stops := coordinator.stops.erase .waiting, stopped := true }
  | .taskRuns runner => coordinator.beginSession runner
  | .tcpOpened runner tunnel =>
      { coordinator.proceed runner (.handshake tunnel) with
        writers := Function.update coordinator.writers tunnel .opened }
  | .tcpFailed runner _ => coordinator.proceed runner .discovery
  | .handshakeDone runner tunnel =>
      { coordinator.proceed runner (.checkin tunnel) with
        keepalives := Function.update coordinator.keepalives tunnel true }
  | .handshakeFailed runner _ known =>
      -- The exception leaves `_run_session_once` before its `try`.
      if known then coordinator.proceed runner .discovery else coordinator.backOff runner
  | .checkinAccepted runner tunnel =>
      { coordinator.proceed runner (.session tunnel) with connected := true }
  | .checkinFailed runner _ known listening =>
      coordinator.endSession runner listening (if known then .failed else .raised)
  | .listenEnded runner _ => coordinator.endSession runner false .clean
  | .listenCancelled runner ending => coordinator.closeTunnel runner ending
  | .keepaliveEnded runner tunnel ending =>
      (coordinator.closeWriter tunnel).proceed runner (.waiting ending)
  | .writerClosed runner ending => coordinator.afterSession runner ending
  | .discovered runner changed =>
      if changed then coordinator.beginSession runner else coordinator.backOff runner
  | .slept runner => coordinator.beginSession runner
  | .cancelDelivered runner listening =>
      Coordinator.deliver
        { coordinator with cancelled := Function.update coordinator.cancelled runner false }
        runner listening (coordinator.stages runner)
  | .keepaliveStops tunnel silent =>
      if silent then coordinator.closeWriter tunnel
      else { coordinator with keepalives := Function.update coordinator.keepalives tunnel false }

/-- A coordinator from its construction on. -/
def machine : Machine Coordinator Label where
  initial coordinator := (∀ runner, coordinator.stages runner = .done) ∧
    coordinator.task = none ∧ coordinator.stopping = false ∧ coordinator.connected = false ∧
    coordinator.tunnel = none ∧ (∀ tunnel, coordinator.writers tunnel = .none) ∧
    (∀ tunnel, coordinator.keepalives tunnel = false) ∧ coordinator.stops = [] ∧
    coordinator.stopped = false
  step coordinator label next := Possible coordinator label ∧ next = perform coordinator label

variable {coordinator next : Coordinator} {runner : ℕ} {stage : Stage}

/-! ## What the lifecycle promises -/

/-- A tunnel that is open, or whose keepalive task runs. -/
def Used (coordinator : Coordinator) (tunnel : ℕ) : Prop :=
  coordinator.writers tunnel = .opened ∨ coordinator.keepalives tunnel = true

/-- What the lifecycle of a coordinator promises. -/
structure Orderly (coordinator : Coordinator) : Prop where
  /-- Every tunnel that was opened is closed before the next one is opened. -/
  single : ∀ first second, coordinator.writers first = .opened →
    coordinator.writers second = .opened → first = second
  /-- The coordinator is connected only between a successful check-in and the session's end. -/
  connected : coordinator.connected = true →
    ∃ runner tunnel, coordinator.stages runner = .session tunnel
  /-- After `stop` has returned no tunnel is open and no keepalive task runs. -/
  stopped : coordinator.stopped = true → ∀ tunnel, ¬ Used coordinator tunnel

/-- A session begins after a failed one only when no tunnel is open, and `start` and `stop` are not
called while a `stop` is in progress. -/
def Careful (coordinator : Coordinator) : Label → Prop
  | .start => coordinator.stops = []
  | .stop => coordinator.stops = []
  | .slept _ => ∀ tunnel, coordinator.writers tunnel ≠ .opened
  | .discovered _ changed => changed = true → ∀ tunnel, coordinator.writers tunnel ≠ .opened
  | _ => True

/-! ## What the await of a session loop says -/

/-- The tunnel that may be in use while a session loop is at a stage. -/
def Coordinator.holder (coordinator : Coordinator) : Stage → Option ℕ
  | .created => none
  | .connecting _ => none
  | .closing tunnel _ => some tunnel
  | .waiting _ => none
  | _ => coordinator.tunnel

/-- What `_tunnel` is while a session loop is at a stage. -/
def Coordinator.Shaped (coordinator : Coordinator) : Stage → Prop
  | .created => coordinator.tunnel = none
  | .connecting tunnel => coordinator.tunnel = some tunnel
  | .handshake tunnel => coordinator.tunnel = some tunnel
  | .checkin tunnel => coordinator.tunnel = some tunnel
  | .session tunnel => coordinator.tunnel = some tunnel
  | .cancelling _ => ∃ tunnel, coordinator.tunnel = some tunnel
  | .closing _ _ => coordinator.tunnel = none
  | .waiting _ => coordinator.tunnel = none
  | _ => True

/-- The stages at which a keepalive task may run. -/
def Stage.Keeping : Stage → Prop
  | .checkin _ => True
  | .session _ => True
  | .cancelling _ => True
  | .closing _ _ => True
  | _ => False

/-- What the stage of the only session loop says about the coordinator. -/
structure Consistent (coordinator : Coordinator) (stage : Stage) : Prop where
  used : ∀ tunnel, Used coordinator tunnel → coordinator.holder stage = some tunnel
  keeping : ∀ tunnel, coordinator.keepalives tunnel = true → stage.Keeping
  connected : coordinator.connected = true → ∃ tunnel, stage = .session tunnel
  shaped : coordinator.Shaped stage

/-- Only one session loop has not ended: the current one, or one that a `stop` waits for. -/
structure Live (coordinator : Coordinator) (runner : ℕ) : Prop where
  role : coordinator.task = some runner ∧ coordinator.stops = [] ∨
    coordinator.task = none ∧ coordinator.stops = [.task runner]
  others : ∀ other, other ≠ runner → coordinator.stages other = .done
  stopped : coordinator.stopped = false

/-- The states of a careful run. -/
inductive Phase (coordinator : Coordinator) : Prop
  /-- One session loop may be at work. -/
  | live (runner : ℕ) (live : Live coordinator runner)
      (consistent : Consistent coordinator (coordinator.stages runner))
  /-- No session loop is at work, and `stop` closes a tunnel. -/
  | closing (tunnel : ℕ) (done : ∀ runner, coordinator.stages runner = .done)
      (task : coordinator.task = none) (stops : coordinator.stops = [.closing tunnel])
      (vacant : coordinator.tunnel = none) (connected : coordinator.connected = false)
      (stopped : coordinator.stopped = false)
      (used : ∀ other, Used coordinator other → other = tunnel)
  /-- Nothing is at work and nothing is open. -/
  | resting (done : ∀ runner, coordinator.stages runner = .done) (task : coordinator.task = none)
      (stops : coordinator.stops = [] ∨ coordinator.stops = [.waiting])
      (vacant : coordinator.tunnel = none) (connected : coordinator.connected = false)
      (unused : ∀ tunnel, ¬ Used coordinator tunnel)

theorem Phase.orderly (phase : Phase coordinator) : Orderly coordinator := by
  cases phase with
  | live runner live consistent =>
      refine ⟨fun first second firstOpen secondOpen => ?_, fun connected => ?_, fun stopped => ?_⟩
      · have held := consistent.used first (Or.inl firstOpen)
        exact Option.some.inj (held.symm.trans (consistent.used second (Or.inl secondOpen)))
      · exact ⟨runner, consistent.connected connected⟩
      · exact nomatch live.stopped.symm.trans stopped
  | closing tunnel done task stops vacant connected stopped used =>
      refine ⟨fun first second firstOpen secondOpen => ?_, fun isConnected => ?_, fun isStopped => ?_⟩
      · exact (used first (Or.inl firstOpen)).trans (used second (Or.inl secondOpen)).symm
      · exact nomatch connected.symm.trans isConnected
      · exact nomatch stopped.symm.trans isStopped
  | resting done task stops vacant connected unused =>
      refine ⟨fun first _ firstOpen _ => absurd (Or.inl firstOpen) (unused first),
        fun isConnected => ?_, fun _ => unused⟩
      exact nomatch connected.symm.trans isConnected

/-! ## What a step can do -/

/-- The loop whose stage is not the end is the only one. -/
theorem Phase.live_of_stage (phase : Phase coordinator) (alive : coordinator.stages runner ≠ .done) :
    Live coordinator runner ∧ Consistent coordinator (coordinator.stages runner) := by
  cases phase with
  | live other live consistent =>
      have same : runner = other := by
        by_contra different
        exact alive (live.others runner different)
      exact same ▸ ⟨live, consistent⟩
  | closing tunnel done => exact absurd (done runner) alive
  | resting done => exact absurd (done runner) alive

/-- The only loop moves on. -/
theorem Live.advance (live : Live coordinator runner)
    (stages : next.stages = Function.update coordinator.stages runner stage)
    (task : next.task = coordinator.task) (stops : next.stops = coordinator.stops)
    (stopped : next.stopped = coordinator.stopped) (consistent : Consistent next stage) :
    Phase next := by
  refine .live runner ⟨?_, fun other different => ?_, stopped.trans live.stopped⟩ ?_
  · rw [task, stops]
    exact live.role
  · rw [stages, Function.update_of_ne different]
    exact live.others other different
  · rwa [stages, Function.update_self]

/-- No keepalive task runs, and only `_tunnel` may be open. -/
structure Loose (coordinator : Coordinator) : Prop where
  opened : ∀ tunnel, coordinator.writers tunnel = .opened → coordinator.tunnel = some tunnel
  keepalives : ∀ tunnel, coordinator.keepalives tunnel = false
  connected : coordinator.connected = false

/-- At a stage that promises nothing of `_tunnel`, it may be the one in use. -/
theorem Loose.consistent (loose : Loose coordinator)
    (holds : coordinator.holder stage = coordinator.tunnel) (shaped : coordinator.Shaped stage) :
    Consistent coordinator stage := by
  have unkept : ∀ tunnel, coordinator.keepalives tunnel ≠ true := fun tunnel => by
    simp [loose.keepalives tunnel]
  have apart : coordinator.connected ≠ true := by simp [loose.connected]
  refine ⟨fun tunnel use => ?_, fun _ kept => absurd kept (unkept _), fun yes => absurd yes apart,
    shaped⟩
  exact holds.trans (loose.opened tunnel (use.resolve_right (unkept tunnel)))

theorem Live.proceed_loose (live : Live coordinator runner) (loose : Loose coordinator)
    (holds : coordinator.holder stage = coordinator.tunnel) (shaped : coordinator.Shaped stage) :
    Phase (coordinator.proceed runner stage) :=
  live.advance rfl rfl rfl rfl
    (Loose.consistent ⟨loose.opened, loose.keepalives, loose.connected⟩ holds shaped)

theorem Live.backOff (live : Live coordinator runner) (loose : Loose coordinator) :
    Phase (coordinator.backOff runner) := by
  rw [Coordinator.backOff]
  split
  · exact live.proceed_loose loose rfl trivial
  · exact live.proceed_loose loose rfl trivial

theorem Live.afterSession (live : Live coordinator runner) (loose : Loose coordinator)
    (ending : Ending) : Phase (coordinator.afterSession runner ending) := by
  cases ending with
  | clean => exact live.backOff loose
  | failed => exact live.proceed_loose loose rfl trivial
  | raised => exact live.backOff loose
  | cancelled => exact live.proceed_loose loose rfl trivial

/-- A new session begins while nothing is in use. -/
theorem Live.beginSession (live : Live coordinator runner)
    (unused : ∀ tunnel, ¬ Used coordinator tunnel) (connected : coordinator.connected = false) :
    Phase (coordinator.beginSession runner) := by
  have unkept : ∀ tunnel, coordinator.keepalives tunnel ≠ true :=
    fun tunnel kept => unused tunnel (Or.inr kept)
  have apart : coordinator.connected ≠ true := by simp [connected]
  rw [Coordinator.beginSession]
  split
  · refine live.proceed_loose ⟨fun tunnel isOpen => absurd (Or.inl isOpen) (unused tunnel), ?_,
      connected⟩ rfl trivial
    exact fun tunnel => Bool.eq_false_iff.mpr (unkept tunnel)
  · exact live.advance rfl rfl rfl rfl ⟨fun tunnel use => absurd use (unused tunnel),
      fun tunnel kept => absurd kept (unkept tunnel), fun yes => absurd yes apart, rfl⟩

/-- The tunnel of a session is closed. -/
theorem Live.closeTunnel (live : Live coordinator runner) {tunnel : ℕ}
    (held : coordinator.tunnel = some tunnel)
    (used : ∀ other, Used coordinator other → coordinator.tunnel = some other)
    (connected : coordinator.connected = false) (ending : Ending) :
    Phase (coordinator.closeTunnel runner ending) := by
  have apart : coordinator.connected ≠ true := by simp [connected]
  rw [Coordinator.closeTunnel, held]
  refine live.advance rfl rfl rfl rfl ⟨fun other use => ?_, fun _ _ => trivial,
    fun yes => absurd yes apart, rfl⟩
  exact held.symm.trans (used other use)

/-- The `finally` of a session begins. -/
theorem Live.endSession (live : Live coordinator runner) {tunnel : ℕ}
    (held : coordinator.tunnel = some tunnel)
    (used : ∀ other, Used coordinator other → coordinator.tunnel = some other)
    (listening : Bool) (ending : Ending) :
    Phase (coordinator.endSession runner listening ending) := by
  have still : Live { coordinator with connected := false } runner :=
    ⟨live.role, live.others, live.stopped⟩
  rw [Coordinator.endSession]
  split
  · exact still.advance rfl rfl rfl rfl ⟨used, fun _ _ => trivial, nofun, tunnel, held⟩
  · exact still.closeTunnel held used rfl ending

/-- Closing the writer of a tunnel ends its use. -/
theorem used_closeWriter {tunnel other : ℕ} (use : Used (coordinator.closeWriter tunnel) other) :
    Used coordinator other ∧ other ≠ tunnel := by
  by_cases same : other = tunnel
  · subst same
    exfalso
    rcases use with isOpen | kept
    · simp only [Coordinator.closeWriter] at isOpen
      split at isOpen
      · simp at isOpen
      · rename_i closed
        exact closed isOpen
    · simp [Coordinator.closeWriter] at kept
  · refine ⟨?_, same⟩
    rcases use with isOpen | kept
    · refine Or.inl ?_
      simp only [Coordinator.closeWriter] at isOpen
      split at isOpen
      · rwa [Function.update_of_ne same] at isOpen
      · exact isOpen
    · exact Or.inr (by simpa [Coordinator.closeWriter, same] using kept)

theorem unkept_closeWriter {tunnel other : ℕ}
    (kept : (coordinator.closeWriter tunnel).keepalives other = true) :
    coordinator.keepalives other = true := by
  simp only [Coordinator.closeWriter, Function.update_apply] at kept
  split at kept
  · exact nomatch kept
  · exact kept

/-- The keepalive task of a closing tunnel has ended. -/
theorem Live.closeWriter (live : Live coordinator runner) {tunnel : ℕ} {ending : Ending}
    (consistent : Consistent coordinator (.closing tunnel ending)) :
    Phase ((coordinator.closeWriter tunnel).proceed runner (.waiting ending)) := by
  have unused : ∀ other, ¬ Used (coordinator.closeWriter tunnel) other := fun other use => by
    obtain ⟨before, different⟩ := used_closeWriter use
    exact different (Option.some.inj (consistent.used other before)).symm
  refine live.advance rfl rfl rfl rfl ⟨fun other use => absurd use (unused other),
    fun other kept => absurd (Or.inr kept) (unused other), fun yes => ?_, consistent.shaped⟩
  obtain ⟨_, impossible⟩ := consistent.connected yes
  exact nomatch impossible

/-- `stop` closes `_tunnel` once no session loop is at work. -/
theorem phase_stopTunnel (done : ∀ runner, coordinator.stages runner = .done)
    (task : coordinator.task = none) (stops : coordinator.stops = [])
    (connected : coordinator.connected = false)
    (used : ∀ tunnel, Used coordinator tunnel → coordinator.tunnel = some tunnel)
    (stopped : coordinator.tunnel = none ∨ coordinator.stopped = false) :
    Phase coordinator.stopTunnel := by
  rw [Coordinator.stopTunnel]
  cases held : coordinator.tunnel with
  | none =>
      refine .resting done task (Or.inl stops) rfl connected fun tunnel use => ?_
      exact nomatch held.symm.trans (used tunnel use)
  | some tunnel =>
      have running : coordinator.stopped = false :=
        stopped.resolve_left fun none => nomatch held.symm.trans none
      refine .closing tunnel done task (by rw [stops]) rfl connected running fun other use => ?_
      exact Option.some.inj ((used other use).symm.trans held)

/-- `start` and `stop` between which no `stop` is in progress. -/
theorem Phase.start (phase : Phase coordinator) (idle : coordinator.stops = []) :
    Phase coordinator.start := by
  rw [Coordinator.start]
  split
  · exact phase
  · rename_i absent
    cases phase with
    | live runner live =>
        rcases live.role with ⟨task, -⟩ | ⟨-, stops⟩
        · simp [task] at absent
        · exact nomatch idle.symm.trans stops
    | closing tunnel _ _ stops => exact nomatch idle.symm.trans stops
    | resting done task stops vacant connected unused =>
        refine .live coordinator.spawned ⟨Or.inl ⟨rfl, idle⟩, fun other different => ?_, rfl⟩ ?_
        · exact (Function.update_of_ne different ..).trans (done other)
        · simp only [Coordinator.proceed, Function.update_self]
          exact ⟨fun tunnel use => absurd use (unused tunnel),
            fun tunnel kept => absurd (Or.inr kept) (unused tunnel),
            fun yes => (nomatch connected.symm.trans yes), vacant⟩

/-- A loop that has ended leaves at most `_tunnel` in use. -/
theorem Live.of_done (live : Live coordinator runner)
    (consistent : Consistent coordinator (coordinator.stages runner))
    (ended : coordinator.stages runner = .done) :
    (∀ other, coordinator.stages other = .done) ∧ coordinator.connected = false ∧
      ∀ tunnel, Used coordinator tunnel → coordinator.tunnel = some tunnel := by
  rw [ended] at consistent
  refine ⟨fun other => ?_, Bool.eq_false_iff.mpr fun yes => ?_, consistent.used⟩
  · by_cases same : other = runner
    · rw [same, ended]
    · exact live.others other same
  · obtain ⟨_, impossible⟩ := consistent.connected yes
    exact nomatch impossible

theorem Phase.stop (phase : Phase coordinator) (idle : coordinator.stops = []) :
    Phase coordinator.stop := by
  cases phase with
  | live runner live consistent =>
      rcases live.role with ⟨task, -⟩ | ⟨-, stops⟩
      · simp only [Coordinator.stop, task]
        split
        · rename_i ended
          obtain ⟨done, connected, used⟩ := live.of_done consistent ended
          exact phase_stopTunnel done rfl idle connected used (Or.inr live.stopped)
        · refine .live runner ⟨Or.inr ⟨rfl, by rw [idle]⟩, live.others, live.stopped⟩ ?_
          exact ⟨consistent.used, consistent.keeping, consistent.connected, consistent.shaped⟩
      · exact nomatch idle.symm.trans stops
  | closing tunnel _ _ stops => exact nomatch idle.symm.trans stops
  | resting done task stops vacant connected unused =>
      simp only [Coordinator.stop, task]
      exact phase_stopTunnel done rfl idle connected (fun tunnel use => absurd use (unused tunnel))
        (Or.inl vacant)

/-- A step that changes nothing but to end the use of a tunnel. -/
theorem Phase.fewer (phase : Phase coordinator) (stages : next.stages = coordinator.stages)
    (task : next.task = coordinator.task) (stops : next.stops = coordinator.stops)
    (stopped : next.stopped = coordinator.stopped)
    (connected : next.connected = coordinator.connected)
    (tunnel : next.tunnel = coordinator.tunnel)
    (used : ∀ tunnel, Used next tunnel → Used coordinator tunnel)
    (kept : ∀ tunnel, next.keepalives tunnel = true → coordinator.keepalives tunnel = true) :
    Phase next := by
  cases phase with
  | live runner live consistent =>
      refine .live runner ⟨by rw [task, stops]; exact live.role, by rw [stages]; exact live.others,
        stopped.trans live.stopped⟩ ?_
      rw [stages]
      refine ⟨fun other use => ?_, fun other keeps => consistent.keeping other (kept other keeps),
        by rw [connected]; exact consistent.connected, ?_⟩
      · have before := consistent.used other (used other use)
        revert before
        cases coordinator.stages runner <;> simp [Coordinator.holder, tunnel]
      · have before := consistent.shaped
        revert before
        cases coordinator.stages runner <;> simp [Coordinator.Shaped, tunnel]
  | closing held done task' stops' vacant connected' stopped' used' =>
      exact .closing held (by rw [stages]; exact done) (task.trans task') (stops.trans stops')
        (tunnel.trans vacant) (connected.trans connected') (stopped.trans stopped')
        fun other use => used' other (used other use)
  | resting done task' stops' vacant connected' unused =>
      exact .resting (by rw [stages]; exact done) (task.trans task') (by rw [stops]; exact stops')
        (tunnel.trans vacant) (connected.trans connected')
        fun other use => unused other (used other use)

/-- A session begins from a stage at which no keepalive task runs, while no tunnel is open. -/
theorem Phase.beginSession (phase : Phase coordinator) (at_stage : coordinator.stages runner = stage)
    (alive : stage ≠ .done) (unkept : ¬ stage.Keeping) (apart : ∀ tunnel, stage ≠ .session tunnel)
    (shut : ∀ tunnel, coordinator.writers tunnel ≠ .opened) :
    Phase (coordinator.beginSession runner) := by
  obtain ⟨live, consistent⟩ := phase.live_of_stage (at_stage ▸ alive)
  rw [at_stage] at consistent
  refine live.beginSession (fun tunnel use => ?_) (Bool.eq_false_iff.mpr fun yes => ?_)
  · rcases use with isOpen | kept
    · exact shut tunnel isOpen
    · exact unkept (consistent.keeping tunnel kept)
  · obtain ⟨tunnel, same⟩ := consistent.connected yes
    exact apart tunnel same

/-- The session loop of a stage without a session, or with no tunnel in use but `_tunnel`. -/
theorem Consistent.loose (consistent : Consistent coordinator stage) (unkept : ¬ stage.Keeping)
    (apart : ∀ tunnel, stage ≠ .session tunnel)
    (held : ∀ tunnel, coordinator.holder stage = some tunnel → coordinator.tunnel = some tunnel) :
    Loose coordinator where
  opened tunnel isOpen := held tunnel (consistent.used tunnel (Or.inl isOpen))
  keepalives tunnel := Bool.eq_false_iff.mpr fun kept => unkept (consistent.keeping tunnel kept)
  connected := Bool.eq_false_iff.mpr fun yes => by
    obtain ⟨tunnel, same⟩ := consistent.connected yes
    exact apart tunnel same

/-- A session loop ends where no keepalive task runs and no tunnel is in use but `_tunnel`. -/
theorem Live.quit (live : Live coordinator runner) (consistent : Consistent coordinator stage)
    (unkept : ¬ stage.Keeping) (apart : ∀ tunnel, stage ≠ .session tunnel)
    (held : ∀ tunnel, coordinator.holder stage = some tunnel → coordinator.tunnel = some tunnel) :
    Phase (coordinator.proceed runner .done) :=
  live.proceed_loose (consistent.loose unkept apart held) rfl trivial

/-- A delivered cancellation ends the loop, or the session first. -/
theorem Live.deliver (live : Live coordinator runner) (consistent : Consistent coordinator stage)
    (listening : Bool) : Phase (coordinator.deliver runner listening stage) := by
  cases stage with
  | created => exact live.quit consistent id nofun nofun
  | connecting tunnel => exact live.quit consistent id nofun nofun
  | handshake tunnel => exact live.quit consistent id nofun fun _ => id
  | checkin tunnel => exact live.endSession consistent.shaped consistent.used listening .cancelled
  | session tunnel => exact live.endSession consistent.shaped consistent.used listening .cancelled
  | cancelling ending =>
      obtain ⟨tunnel, held⟩ := consistent.shaped
      refine live.closeTunnel held consistent.used (Bool.eq_false_iff.mpr fun yes => ?_) ending
      obtain ⟨_, impossible⟩ := consistent.connected yes
      exact nomatch impossible
  | closing tunnel ending => exact live.closeWriter consistent
  | waiting ending => exact live.quit consistent id nofun nofun
  | discovery => exact live.quit consistent id nofun fun _ => id
  | sleeping => exact live.quit consistent id nofun fun _ => id
  | done => exact live.quit consistent id nofun fun _ => id

/-- The loop at a known stage is the only one, and its stage tells about the coordinator. -/
theorem Phase.at_stage (phase : Phase coordinator) (at_stage : coordinator.stages runner = stage)
    (alive : stage ≠ .done) : Live coordinator runner ∧ Consistent coordinator stage := by
  have facts := phase.live_of_stage (at_stage ▸ alive)
  rwa [at_stage] at facts

theorem Consistent.apart (consistent : Consistent coordinator stage)
    (apart : ∀ tunnel, stage ≠ .session tunnel) : coordinator.connected = false :=
  Bool.eq_false_iff.mpr fun yes => by
    obtain ⟨tunnel, same⟩ := consistent.connected yes
    exact apart tunnel same

theorem Phase.taskEnded (phase : Phase coordinator) (waits : .task runner ∈ coordinator.stops)
    (ended : coordinator.stages runner = .done) :
    Phase (perform coordinator (.taskEnded runner)) := by
  cases phase with
  | live other live consistent =>
      rcases live.role with ⟨-, stops⟩ | ⟨task, stops⟩
      · rw [stops] at waits
        exact nomatch waits
      · obtain rfl : runner = other := by simpa [stops] using waits
        obtain ⟨done, connected, used⟩ := live.of_done consistent ended
        refine phase_stopTunnel done task ?_ connected used (Or.inr live.stopped)
        simp [stops]
  | closing tunnel _ _ stops => simp [stops] at waits
  | resting _ _ stops =>
      rcases stops with stops | stops
      · simp [stops] at waits
      · simp [stops] at waits

theorem Phase.stopClosing (phase : Phase coordinator) {tunnel : ℕ}
    (waits : .closing tunnel ∈ coordinator.stops) :
    Phase (perform coordinator (.stopClosing tunnel)) := by
  cases phase with
  | live _ live =>
      rcases live.role with ⟨-, stops⟩ | ⟨-, stops⟩
      · simp [stops] at waits
      · simp [stops] at waits
  | closing other done task stops vacant connected stopped used =>
      obtain rfl : tunnel = other := by simpa [stops] using waits
      refine .resting done task (Or.inr (by simp [perform, stops])) vacant connected fun other use => ?_
      obtain ⟨before, different⟩ := used_closeWriter use
      exact different (used other before)
  | resting _ _ stops =>
      rcases stops with stops | stops
      · simp [stops] at waits
      · simp [stops] at waits

theorem Phase.stopClosed (phase : Phase coordinator) (waits : .waiting ∈ coordinator.stops) :
    Phase (perform coordinator .stopClosed) := by
  cases phase with
  | live _ live =>
      rcases live.role with ⟨-, stops⟩ | ⟨-, stops⟩
      · simp [stops] at waits
      · simp [stops] at waits
  | closing tunnel _ _ stops => simp [stops] at waits
  | resting done task stops vacant connected unused =>
      refine .resting done task (Or.inl ?_) vacant connected unused
      rcases stops with stops | stops
      · simp [perform, stops]
      · simp [perform, stops]

theorem Phase.keepaliveStops (phase : Phase coordinator) (tunnel : ℕ) (silent : Bool) :
    Phase (perform coordinator (.keepaliveStops tunnel silent)) := by
  rw [perform]
  split
  · exact phase.fewer rfl rfl rfl rfl rfl rfl (fun _ use => (used_closeWriter use).1)
      fun _ => unkept_closeWriter
  · have kept : ∀ other, Function.update coordinator.keepalives tunnel false other = true →
        coordinator.keepalives other = true := by
      intro other kept
      rw [Function.update_apply] at kept
      split at kept
      · exact nomatch kept
      · exact kept
    exact phase.fewer rfl rfl rfl rfl rfl rfl (fun other use => use.imp id (kept other)) kept

theorem Phase.tcpOpened (phase : Phase coordinator) {tunnel : ℕ}
    (at_stage : coordinator.stages runner = .connecting tunnel) :
    Phase (perform coordinator (.tcpOpened runner tunnel)) := by
  obtain ⟨live, consistent⟩ := phase.at_stage at_stage nofun
  refine live.advance rfl rfl rfl rfl ⟨fun other use => ?_, fun other kept => ?_, fun yes => ?_,
    consistent.shaped⟩
  · rcases use with isOpen | kept
    · by_cases same : other = tunnel
      · rw [same]
        exact consistent.shaped
      · simp only [perform, Function.update_of_ne same] at isOpen
        exact nomatch consistent.used other (Or.inl isOpen)
    · exact (consistent.keeping other kept).elim
  · exact consistent.keeping other kept
  · exact nomatch (consistent.apart nofun).symm.trans yes

theorem Phase.handshakeDone (phase : Phase coordinator) {tunnel : ℕ}
    (at_stage : coordinator.stages runner = .handshake tunnel) :
    Phase (perform coordinator (.handshakeDone runner tunnel)) := by
  obtain ⟨live, consistent⟩ := phase.at_stage at_stage nofun
  refine live.advance rfl rfl rfl rfl ⟨fun other use => ?_, fun _ _ => trivial, fun yes => ?_,
    consistent.shaped⟩
  · rcases use with isOpen | kept
    · exact consistent.used other (Or.inl isOpen)
    · by_cases same : other = tunnel
      · rw [same]
        exact consistent.shaped
      · simp only [perform, Function.update_of_ne same] at kept
        exact (consistent.keeping other kept).elim
  · exact nomatch (consistent.apart nofun).symm.trans yes

/-- A careful label leads from one phase to another. -/
theorem Phase.perform (phase : Phase coordinator) {label : Label}
    (possible : Possible coordinator label) (careful : Careful coordinator label) :
    Phase (perform coordinator label) := by
  cases label with
  | start => exact phase.start careful
  | stop => exact phase.stop careful
  | taskEnded runner => exact phase.taskEnded possible.1 possible.2
  | stopClosing tunnel => exact phase.stopClosing possible
  | stopClosed => exact phase.stopClosed possible
  | taskRuns runner =>
      obtain ⟨-, consistent⟩ := phase.at_stage possible nofun
      refine phase.beginSession possible nofun id nofun fun tunnel isOpen => ?_
      exact nomatch consistent.used tunnel (Or.inl isOpen)
  | tcpOpened runner tunnel => exact phase.tcpOpened possible
  | tcpFailed runner tunnel =>
      obtain ⟨live, consistent⟩ := phase.at_stage possible nofun
      exact live.proceed_loose (consistent.loose id nofun nofun) rfl trivial
  | handshakeDone runner tunnel => exact phase.handshakeDone possible
  | handshakeFailed runner tunnel known =>
      obtain ⟨live, consistent⟩ := phase.at_stage possible nofun
      have loose := consistent.loose id nofun fun _ => id
      rw [Lifecycle.perform]
      split
      · exact live.proceed_loose loose rfl trivial
      · exact live.backOff loose
  | checkinAccepted runner tunnel =>
      obtain ⟨live, consistent⟩ := phase.at_stage possible nofun
      exact live.advance rfl rfl rfl rfl ⟨consistent.used, fun _ _ => trivial,
        fun _ => ⟨tunnel, rfl⟩, consistent.shaped⟩
  | checkinFailed runner tunnel known listening =>
      obtain ⟨live, consistent⟩ := phase.at_stage possible nofun
      exact live.endSession consistent.shaped consistent.used listening _
  | listenEnded runner tunnel =>
      obtain ⟨live, consistent⟩ := phase.at_stage possible nofun
      exact live.endSession consistent.shaped consistent.used false .clean
  | listenCancelled runner ending =>
      obtain ⟨live, consistent⟩ := phase.at_stage possible nofun
      obtain ⟨tunnel, held⟩ := consistent.shaped
      exact live.closeTunnel held consistent.used (consistent.apart nofun) ending
  | keepaliveEnded runner tunnel ending =>
      obtain ⟨live, consistent⟩ := phase.at_stage possible nofun
      exact live.closeWriter consistent
  | writerClosed runner ending =>
      obtain ⟨live, consistent⟩ := phase.at_stage possible nofun
      exact live.afterSession (consistent.loose id nofun nofun) ending
  | discovered runner changed =>
      rw [Lifecycle.perform]
      split
      · rename_i moved
        exact phase.beginSession possible nofun id nofun (careful moved)
      · obtain ⟨live, consistent⟩ := phase.at_stage possible nofun
        exact live.backOff (consistent.loose id nofun fun _ => id)
  | slept runner => exact phase.beginSession possible nofun id nofun careful
  | cancelDelivered runner listening =>
      obtain ⟨live, consistent⟩ := phase.live_of_stage possible.2
      let heard : Coordinator :=
        { coordinator with cancelled := Function.update coordinator.cancelled runner false }
      have still : Live heard runner := ⟨live.role, live.others, live.stopped⟩
      exact still.deliver
        ⟨consistent.used, consistent.keeping, consistent.connected, consistent.shaped⟩ listening
  | keepaliveStops tunnel silent => exact phase.keepaliveStops tunnel silent

/-- In every careful run the coordinator's connection lifecycle is orderly. -/
theorem coordinator_orderly {labels : List Label} {coordinator : Coordinator}
    (run : machine.Run Careful labels coordinator) : Orderly coordinator := by
  refine Phase.orderly (run.invariant ?_ ?_)
  · rintro coordinator ⟨done, task, -, connected, vacant, writers, keepalives, stops, -⟩
    refine .resting done task (Or.inl stops) vacant connected fun tunnel use => ?_
    rcases use with isOpen | kept
    · exact nomatch (writers tunnel).symm.trans isOpen
    · exact nomatch (keepalives tunnel).symm.trans kept
  · rintro coordinator label next phase careful ⟨possible, rfl⟩
    exact phase.perform possible careful

/-- The coordinator after construction. -/
def constructed : Coordinator :=
  ⟨0, fun _ => .done, fun _ => false, none, false, false, none, 0, fun _ => .none, fun _ => false,
    [], false⟩

theorem run_constructed (good : Coordinator → Label → Prop) : machine.Run good [] constructed :=
  .start ⟨fun _ => rfl, rfl, rfl, rfl, rfl, fun _ => rfl, fun _ => rfl, rfl, rfl⟩

/-- A session comes up and the coordinator is stopped. -/
theorem coordinator_orderly_session :
    ∃ coordinator, coordinator.stopped = true ∧ coordinator.count = 1 ∧ Orderly coordinator := by
  have run := (run_constructed Careful)
    |>.extend .start rfl ⟨trivial, rfl⟩
    |>.extend (.taskRuns 0) trivial ⟨rfl, rfl⟩
    |>.extend (.tcpOpened 0 0) trivial ⟨rfl, rfl⟩
    |>.extend (.handshakeDone 0 0) trivial ⟨rfl, rfl⟩
    |>.extend (.checkinAccepted 0 0) trivial ⟨rfl, rfl⟩
    |>.extend .stop rfl ⟨trivial, rfl⟩
    |>.extend (.cancelDelivered 0 true) trivial ⟨⟨rfl, nofun⟩, rfl⟩
    |>.extend (.listenCancelled 0 .cancelled) trivial ⟨rfl, rfl⟩
    |>.extend (.keepaliveEnded 0 0 .cancelled) trivial ⟨rfl, rfl⟩
    |>.extend (.writerClosed 0 .cancelled) trivial ⟨rfl, rfl⟩
    |>.extend (.taskEnded 0) trivial ⟨⟨List.mem_singleton.mpr rfl, rfl⟩, rfl⟩
  exact ⟨_, rfl, rfl, coordinator_orderly run⟩

/-- After a failed handshake the next session leaves the first tunnel open. -/
theorem failed_handshake_leaks :
    ∃ labels coordinator, machine.Run (fun _ _ => True) labels coordinator ∧
      ¬ Orderly coordinator := by
  refine ⟨_, _, (run_constructed fun _ _ => True)
    |>.extend .start trivial ⟨trivial, rfl⟩
    |>.extend (.taskRuns 0) trivial ⟨rfl, rfl⟩
    |>.extend (.tcpOpened 0 0) trivial ⟨rfl, rfl⟩
    |>.extend (.handshakeFailed 0 0 true) trivial ⟨rfl, rfl⟩
    |>.extend (.discovered 0 false) trivial ⟨rfl, rfl⟩
    |>.extend (.slept 0) trivial ⟨rfl, rfl⟩
    |>.extend (.tcpOpened 0 1) trivial ⟨rfl, rfl⟩, fun orderly => ?_⟩
  exact absurd (orderly.single 0 1 rfl rfl) Nat.zero_ne_one

end Lifecycle
end Reference
end AqaraLanLink
