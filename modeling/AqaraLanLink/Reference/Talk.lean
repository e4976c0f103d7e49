import AqaraLanLink.Library.Runs
import AqaraLanLink.Reference.TalkPackets
import Mathlib.Logic.Function.Basic

/-!
# The sockets of a voice session

`connect`, `disconnect` and `_heartbeat_loop` of `AqaraLanTalkClient` (`device/camera/talk.py`) as a
labelled transition system.  Every call and every heartbeat loop runs from one `await` to the next;
a cancelled loop receives its cancellation at an `await`.  A writer or a transport is open from its
creation until the client closes it, whatever becomes of the other end.
-/

namespace AqaraLanLink
namespace Reference
namespace Talk

open Library TalkPackets

/-! ## The machine -/

/-- The `await` the call of `connect` that holds the lock is at. -/
inductive ConnectStage where
  /-- No call holds the lock. -/
  | idle
  /-- `asyncio.open_connection`. -/
  | opening
  /-- `drain` after the START packet. -/
  | starting
  /-- `read` of the answer. -/
  | answering
  /-- `wait_closed` of a writer, on the way to `return False`. -/
  | closing (writer : ℕ)
  /-- `create_datagram_endpoint`. -/
  | binding
  deriving DecidableEq, Repr

/-- The `await` a heartbeat loop is at, with its count of failures. -/
inductive Heartbeat where
  /-- The task has been created and has not run. -/
  | created
  /-- `asyncio.sleep`. -/
  | sleeping (failures : ℕ)
  /-- `drain` after the HEARTBEAT packet. -/
  | sending (failures : ℕ)
  /-- `read` of the answer. -/
  | listening (failures : ℕ)
  /-- `wait_closed` of a writer, once the session is given up. -/
  | closing (writer : ℕ)
  /-- The task has ended; `raised` is whether by an exception other than `CancelledError`. -/
  | done (raised : Bool)
  deriving DecidableEq, Repr

/-- The `await` a call of `disconnect` is at. -/
inductive DisconnectStage where
  /-- The heartbeat task it has cancelled. -/
  | heartbeat (task : ℕ)
  /-- `drain` after the STOP packet. -/
  | stopping
  /-- `wait_closed` of a writer. -/
  | closing (writer : ℕ)
  deriving DecidableEq, Repr

/-- How a call of `connect` ends. -/
inductive Result where
  | returned (value : Bool)
  | raised
  deriving DecidableEq, Repr

/-- What comes of a `read`, with its timeout. -/
inductive Answer where
  | timeout
  /-- `OSError` or `ConnectionError`. -/
  | failed
  /-- `RuntimeError`: another task waits for the same reader. -/
  | busy
  /-- Bytes, or none at the end of the stream. -/
  | data (bytes : List UInt8)
  deriving DecidableEq, Repr

/-- A talk client, with every writer, transport and heartbeat task it has created, by their
numbers. -/
structure TalkClient where
  /-- How many writers have been created. -/
  opened : ℕ
  /-- Which of them are open. -/
  writers : ℕ → Bool
  /-- Whose future behind `wait_closed` has been cancelled. -/
  cut : ℕ → Bool
  /-- `_writer`; `_reader` is the reader of the same connection. -/
  writer : Option ℕ
  /-- How many transports have been created. -/
  bound : ℕ
  /-- Which of them are open. -/
  transports : ℕ → Bool
  /-- `_udp_transport`. -/
  transport : Option ℕ
  /-- How many heartbeat tasks have been created. -/
  spawned : ℕ
  /-- Where they are. -/
  heartbeats : ℕ → Heartbeat
  /-- Whether their cancellation has been requested. -/
  cancelled : ℕ → Bool
  /-- `_heartbeat_task`. -/
  task : Option ℕ
  /-- `_connected`. -/
  connected : Bool
  /-- Where the call of `connect` that holds the lock is. -/
  stage : ConnectStage
  /-- How many calls of `connect` wait for the lock. -/
  waiting : ℕ
  /-- The calls of `disconnect` that have not ended. -/
  disconnects : List DisconnectStage
  /-- How a call of `connect` ended at the last step, if one did. -/
  ended : Option Result

/-- What happens to a talk client. -/
inductive Label where
  /-- `connect` is called. -/
  | connect
  /-- A call of `connect` that waits for the lock gets it. -/
  | lockPassed
  /-- The TCP connection is opened. -/
  | tcpOpened
  /-- `open_connection` raises or times out. -/
  | tcpFailed
  /-- The START packet is sent. -/
  | startSent
  /-- Its `write` or `drain` raises. -/
  | startFailed
  /-- The `read` of its answer ends. -/
  | answered (answer : Answer)
  /-- The writer that a `connect` waits for is closed. -/
  | connectClosed (writer : ℕ)
  /-- The datagram endpoint is created. -/
  | udpBound
  /-- `create_datagram_endpoint` raises. -/
  | udpFailed
  /-- A new heartbeat task runs. -/
  | taskRuns (task : ℕ)
  /-- The interval is over. -/
  | slept (task failures : ℕ)
  /-- The HEARTBEAT packet is sent. -/
  | beatSent (task failures : ℕ)
  /-- Its `write` or `drain` raises. -/
  | beatFailed (task failures : ℕ)
  /-- The `read` of its answer ends. -/
  | beatAnswered (task failures : ℕ) (answer : Answer)
  /-- The writer that a heartbeat loop waits for is closed. -/
  | beatClosed (task writer : ℕ)
  /-- A cancellation is delivered. -/
  | cancelDelivered (task : ℕ)
  /-- `disconnect` is called. -/
  | disconnect
  /-- The heartbeat task that a `disconnect` waits for has ended. -/
  | heartbeatEnded (task : ℕ)
  /-- The STOP packet is sent, or its `write` or `drain` raises. -/
  | stopSent
  /-- The writer that a `disconnect` waits for is closed. -/
  | disconnectClosed (writer : ℕ)
  deriving DecidableEq, Repr

/-- The session was accepted; an answer of the wrong form may raise. -/
def accepted (resp : List UInt8) : Except Exception Bool := do
  match ← parsePacket resp with
  | none => .ok false
  | some parsed => .ok (parsed.type = typeAck ∧ parsed.value = 0)

namespace TalkClient

/-- A call of `connect` ends. -/
def finish (client : TalkClient) (result : Result) : TalkClient :=
  { client with stage := .idle, ended := some result }

/-- `connect` under the lock, up to `open_connection`. -/
def enter (client : TalkClient) : TalkClient :=
  if client.connected then client.finish (.returned true) else { client with stage := .opening }

/-- `writer.close()`. -/
def close (client : TalkClient) (writer : ℕ) : TalkClient :=
  { client with writers := Function.update client.writers writer false }

/-- `_close_tcp` and `return False` in `connect`, up to `wait_closed`. -/
def refuse (client : TalkClient) : TalkClient :=
  match client.writer with
  | none => client.finish (.returned false)
  | some writer => { client.close writer with stage := .closing writer }

/-- `connect` after the answer to START. -/
def answer (client : TalkClient) : Answer → TalkClient
  | .timeout => client.refuse
  | .failed => client.finish .raised
  | .busy => client.finish .raised
  | .data resp =>
      if resp = [] then client.refuse
      else match accepted resp with
        | .error _ => client.finish .raised
        | .ok false => client.refuse
        | .ok true => { client with stage := .binding }

/-- `connect` after `create_datagram_endpoint`. -/
def start (client : TalkClient) : TalkClient :=
  TalkClient.finish
    { client with
      bound := client.bound + 1
      transports := Function.update client.transports client.bound true
      transport := some client.bound
      spawned := client.spawned + 1
      heartbeats := Function.update client.heartbeats client.spawned .created
      cancelled := Function.update client.cancelled client.spawned false
      task := some client.spawned
      connected := true } (.returned true)

/-- `_udp_transport` is closed and forgotten. -/
def closeUdp (client : TalkClient) : TalkClient :=
  match client.transport with
  | none => client
  | some transport =>
      { client with
        transports := Function.update client.transports transport false
        transport := none }

/-- A heartbeat loop moves on. -/
def proceed (client : TalkClient) (task : ℕ) (stage : Heartbeat) : TalkClient :=
  { client with heartbeats := Function.update client.heartbeats task stage }

/-- The head of the heartbeat loop. -/
def loop (client : TalkClient) (task failures : ℕ) : TalkClient :=
  if client.connected then client.proceed task (.sleeping failures)
  else client.proceed task (.done false)

/-- The heartbeat loop gives the session up; `_close_tcp` up to `wait_closed`. -/
def giveUp (client : TalkClient) (task : ℕ) : TalkClient :=
  let client := { client with connected := false }
  match client.writer with
  | none => client.closeUdp.proceed task (.done false)
  | some writer => (client.close writer).proceed task (.closing writer)

/-- The heartbeat loop after one more failure. -/
def miss (client : TalkClient) (task failures : ℕ) : TalkClient :=
  if 5 < failures + 1 then client.giveUp task else client.loop task (failures + 1)

/-- The heartbeat loop after an answer. -/
def beat (client : TalkClient) (task failures : ℕ) : Answer → TalkClient
  | .timeout => client.miss task failures
  | .failed => client.miss task failures
  | .busy => client.proceed task (.done true)
  | .data resp =>
      if resp = [] then client.giveUp task
      else match accepted resp with
        | .error _ => client.proceed task (.done true)
        | .ok false => client.miss task failures
        | .ok true => client.loop task 0

/-- `disconnect` from `_close_tcp` on, up to `wait_closed`. -/
def leave (client : TalkClient) : TalkClient :=
  match client.writer with
  | none => client.closeUdp
  | some writer =>
      { client.close writer with disconnects := .closing writer :: client.disconnects }

/-- `disconnect` once the heartbeat task has ended, up to its next `await`. -/
def stop (client : TalkClient) : TalkClient :=
  let client := { client with task := none }
  match client.writer with
  | none => client.leave
  | some writer =>
      if client.writers writer then { client with disconnects := .stopping :: client.disconnects }
      else client.leave

/-- `_heartbeat_task.cancel()`; a loop at `wait_closed` cancels the future behind it. -/
def cancel (client : TalkClient) (task : ℕ) : TalkClient :=
  { client with
    cancelled := Function.update client.cancelled task true
    cut :=
      match client.heartbeats task with
      | .closing writer => Function.update client.cut writer true
      | _ => client.cut
    disconnects := .heartbeat task :: client.disconnects }

/-- `disconnect` after `await self._heartbeat_task`: what the task has raised is raised again. -/
def await (client : TalkClient) (task : ℕ) : TalkClient :=
  if client.heartbeats task = .done true then client else client.stop

/-- `disconnect`, up to its first `await`. -/
def disconnect (client : TalkClient) : TalkClient :=
  let client := { client with connected := false }
  match client.task with
  | none => client.stop
  | some task =>
      match client.heartbeats task with
      | .done _ => client.await task
      | _ => client.cancel task

end TalkClient

/-- When a label is possible. -/
def Possible (client : TalkClient) : Label → Prop
  | .connect => True
  | .lockPassed => client.stage = .idle ∧ 0 < client.waiting
  | .tcpOpened => client.stage = .opening
  | .tcpFailed => client.stage = .opening
  | .startSent => client.stage = .starting
  | .startFailed => client.stage = .starting
  | .answered _ => client.stage = .answering
  | .connectClosed writer => client.stage = .closing writer
  | .udpBound => client.stage = .binding
  | .udpFailed => client.stage = .binding
  | .taskRuns task => client.heartbeats task = .created ∧ client.cancelled task = false
  | .slept task failures =>
      client.heartbeats task = .sleeping failures ∧ client.cancelled task = false
  | .beatSent task failures =>
      client.heartbeats task = .sending failures ∧ client.cancelled task = false
  | .beatFailed task failures =>
      client.heartbeats task = .sending failures ∧ client.cancelled task = false
  | .beatAnswered task failures _ =>
      client.heartbeats task = .listening failures ∧ client.cancelled task = false
  | .beatClosed task writer =>
      client.heartbeats task = .closing writer ∧ client.cancelled task = false
  | .cancelDelivered task =>
      client.cancelled task = true ∧ ∀ raised, client.heartbeats task ≠ .done raised
  | .disconnect => True
  | .heartbeatEnded task =>
      .heartbeat task ∈ client.disconnects ∧ ∃ raised, client.heartbeats task = .done raised
  | .stopSent => .stopping ∈ client.disconnects
  | .disconnectClosed writer => .closing writer ∈ client.disconnects

/-- What a label does, but for `ended`. -/
def effect (client : TalkClient) : Label → TalkClient
  | .connect =>
      if client.stage = .idle ∧ client.waiting = 0 then client.enter
      else { client with waiting := client.waiting + 1 }
  | .lockPassed => TalkClient.enter { client with waiting := client.waiting - 1 }
  | .tcpOpened =>
      { client with
        opened := client.opened + 1
        writers := Function.update client.writers client.opened true
        writer := some client.opened
        stage := .starting }
  | .tcpFailed => client.finish (.returned false)
  | .startSent =>
      -- `self._reader.read`.
      if client.writer = none then client.finish .raised else { client with stage := .answering }
  | .startFailed => client.finish .raised
  | .answered answer => client.answer answer
  | .connectClosed writer =>
      if client.cut writer then client.finish .raised
      else TalkClient.finish { client with writer := none } (.returned false)
  | .udpBound => client.start
  | .udpFailed => client.finish .raised
  | .taskRuns task => client.loop task 0
  | .slept task failures =>
      if client.connected = false ∨ client.writer = none then client.proceed task (.done false)
      else client.proceed task (.sending failures)
  | .beatSent task failures =>
      -- `self._reader.read`.
      if client.writer = none then client.proceed task (.done true)
      else client.proceed task (.listening failures)
  | .beatFailed task failures => client.miss task failures
  | .beatAnswered task failures answer => client.beat task failures answer
  | .beatClosed task writer =>
      if client.cut writer then client.proceed task (.done false)
      else (TalkClient.closeUdp { client with writer := none }).proceed task (.done false)
  | .cancelDelivered task => client.proceed task (.done false)
  | .disconnect => client.disconnect
  | .heartbeatEnded task =>
      let client := { client with disconnects := client.disconnects.erase (.heartbeat task) }
      client.await task
  | .stopSent => TalkClient.leave { client with disconnects := client.disconnects.erase .stopping }
  | .disconnectClosed writer =>
      let client := { client with disconnects := client.disconnects.erase (.closing writer) }
      if client.cut writer then client else TalkClient.closeUdp { client with writer := none }

/-- What a label does. -/
def perform (client : TalkClient) (label : Label) : TalkClient :=
  effect { client with ended := none } label

/-- A talk client from its construction on. -/
def machine : Machine TalkClient Label where
  initial client := (∀ writer, client.writers writer = false) ∧
    (∀ writer, client.cut writer = false) ∧ client.writer = none ∧
    (∀ transport, client.transports transport = false) ∧ client.transport = none ∧
    (∀ task, client.heartbeats task = .done false) ∧ client.task = none ∧
    client.connected = false ∧ client.stage = .idle ∧ client.waiting = 0 ∧
    client.disconnects = [] ∧ client.ended = none
  step client label next := Possible client label ∧ next = perform client label

/-! ## Who owns the sockets -/

/-- No call is in progress, and no heartbeat loop is giving the session up. -/
structure Idle (client : TalkClient) : Prop where
  stage : client.stage = .idle
  waiting : client.waiting = 0
  disconnects : client.disconnects = []
  heartbeats : ∀ task writer, client.heartbeats task ≠ .closing writer

/-- Exactly one is open. -/
def One (isOpen : ℕ → Bool) : Prop := ∃ number, ∀ other, isOpen other = true ↔ other = number

/-- What the ownership of the sockets means. -/
structure Owned (client : TalkClient) : Prop where
  /-- A client at rest that is not connected holds nothing open. -/
  idle : Idle client → client.connected = false →
    (∀ writer, client.writers writer = false) ∧ ∀ transport, client.transports transport = false
  /-- `connect` returns false or leaves exactly one of each open. -/
  connect : ∀ result, client.ended = some result →
    result = .returned false ∨ One client.writers ∧ One client.transports
  /-- No earlier writer is open behind a new one. -/
  writers : ∀ first second, client.writers first = true → client.writers second = true →
    first = second
  /-- No earlier transport is open behind a new one. -/
  transports : ∀ first second, client.transports first = true → client.transports second = true →
    first = second

/-- A `read` that neither raises what `connect` does not catch nor makes the parser raise. -/
def Answer.Handled : Answer → Prop
  | .timeout => True
  | .failed => False
  | .busy => False
  | .data resp => ¬ IsEmptyAck resp

/-- The steps at which nothing slips: nothing is raised in `connect` once the TCP connection is
open, no socket is created while the session is being closed, and `disconnect` is not called on a
heartbeat loop that has raised or is giving up. -/
def Careful (client : TalkClient) : Label → Prop
  | .tcpOpened =>
      client.disconnects = [] ∧ ∀ task writer, client.heartbeats task ≠ .closing writer
  | .startSent => client.writer ≠ none
  | .startFailed => False
  | .answered answer => answer.Handled
  | .udpBound => client.disconnects = [] ∧ client.writer ≠ none
  | .udpFailed => False
  | .disconnect => ∀ task, client.task = some task →
      client.heartbeats task ≠ .done true ∧ ∀ writer, client.heartbeats task ≠ .closing writer
  | _ => True

variable {client : TalkClient} {task failures : ℕ}

/-! ## The invariant -/

/-- The stages at which `connect` has a new writer. -/
def ConnectStage.Holding : ConnectStage → Prop
  | .starting => True
  | .answering => True
  | .binding => True
  | _ => False

/-- The stages of `disconnect` at which it has not closed the writer. -/
def DisconnectStage.Early : DisconnectStage → Prop
  | .closing _ => False
  | _ => True

/-- A heartbeat task has not ended. -/
def TalkClient.Alive (client : TalkClient) (task : ℕ) : Prop :=
  ∀ raised, client.heartbeats task ≠ .done raised

/-- The client is connected. -/
structure Session (client : TalkClient) : Prop where
  connected : client.connected = true
  stage : client.stage = .idle
  disconnects : client.disconnects = []
  uncut : ∀ writer, client.cut writer = false
  writer : ∃ writer, client.writer = some writer ∧
    ∀ other, client.writers other = true ↔ other = writer
  transport : ∃ transport, client.transport = some transport ∧
    ∀ other, client.transports other = true ↔ other = transport
  alive : ∀ task, client.Alive task → client.task = some task ∧ client.cancelled task = false ∧
    ∀ writer, client.heartbeats task ≠ .closing writer

/-- The heartbeat loop gives the session up. -/
structure GivingUp (client : TalkClient) (task : ℕ) : Prop where
  connected : client.connected = false
  stage : client.stage = .idle ∨ client.stage = .opening
  disconnects : client.disconnects = []
  uncut : ∀ writer, client.cut writer = false
  writers : ∀ writer, client.writers writer = false
  transports : ∀ transport, client.transports transport = true → client.transport = some transport
  closing : ∃ writer, client.heartbeats task = .closing writer
  cancelled : client.cancelled task = false
  current : client.task = some task
  alive : ∀ other, client.Alive other → other = task
  ended : ∀ result, client.ended = some result → result = .returned false

/-- The client is not connected, and its calls know of what is open. -/
structure Loose (client : TalkClient) : Prop where
  connected : client.connected = false
  uncut : ∀ writer, client.cut writer = false
  writers : ∀ writer, client.writers writer = true → client.writer = some writer
  transports : ∀ transport, client.transports transport = true → client.transport = some transport
  /-- Nothing is opened while a call waits for its writer to be closed. -/
  shut : ∀ writer, client.stage = .closing writer ∨ .closing writer ∈ client.disconnects →
    ∀ other, client.writers other = false
  /-- Only `disconnect` takes the writer of a `connect` away. -/
  held : client.stage.Holding → ∀ writer, client.writer = some writer →
    client.writers writer = true ∨ ∃ other, .closing other ∈ client.disconnects
  waits : ∀ task, .heartbeat task ∈ client.disconnects →
    (client.task = some task ∨ client.task = none) ∧ client.heartbeats task ≠ .done true
  ended : ∀ result, client.ended = some result → result = .returned false

/-- Every heartbeat task that has not ended is cancelled, and a `disconnect` waits for it. -/
def Doomed (client : TalkClient) : Prop :=
  ∀ task, client.Alive task → client.task = some task ∧ client.cancelled task = true ∧
    .heartbeat task ∈ client.disconnects ∧ ∀ writer, client.heartbeats task ≠ .closing writer

/-- And what is open is in the hands of a call. -/
structure Apart (client : TalkClient) : Prop extends Loose client where
  doomed : Doomed client
  owner : ∀ writer, client.writers writer = true →
    client.stage.Holding ∨ ∃ stage ∈ client.disconnects, stage.Early
  leaving : ∀ transport, client.transports transport = true → client.disconnects ≠ []

/-- The states of a careful run. -/
inductive Phase (client : TalkClient) : Prop
  | session (session : Session client)
  | givingUp (task : ℕ) (givingUp : GivingUp client task)
  | apart (apart : Apart client)

/-! ## Sockets -/

section

variable {isOpen : ℕ → Bool} {current : Option ℕ} {number : ℕ}

theorem shut_of_none (own : ∀ other, isOpen other = true → current = some other)
    (vacant : current = none) (other : ℕ) : isOpen other = false :=
  Bool.eq_false_iff.mpr fun yes => by rw [own other yes] at vacant; cases vacant

/-- What has been closed was the only one that was open. -/
theorem shut_of_some (own : ∀ other, isOpen other = true → current = some other)
    (held : current = some number) (other : ℕ) :
    Function.update isOpen number false other = false := by
  rw [Function.update_apply]
  split
  · rfl
  · rename_i different
    refine Bool.eq_false_iff.mpr fun yes => different ?_
    exact Option.some.inj ((own other yes).symm.trans held)

theorem One.unique (one : One isOpen) (first second : ℕ) (firstly : isOpen first = true)
    (secondly : isOpen second = true) : first = second := by
  obtain ⟨number, only⟩ := one
  rw [(only first).mp firstly, (only second).mp secondly]

end

/-- The datagram transport is closed, and nothing else is changed. -/
theorem closeUdp_eq (client : TalkClient)
    (own : ∀ transport, client.transports transport = true → client.transport = some transport) :
    client.closeUdp = { client with transports := fun _ => false, transport := none } := by
  rw [TalkClient.closeUdp]
  split
  · rename_i vacant
    have shut : client.transports = fun _ => false := funext (shut_of_none own vacant)
    rw [← shut, ← vacant]
  · rename_i transport held
    have shut : Function.update client.transports transport false = fun _ => false :=
      funext (shut_of_some own held)
    rw [shut]

/-- A writer is closed while it is the only one, and nothing else is changed. -/
theorem close_eq (client : TalkClient) {writer : ℕ} (held : client.writer = some writer)
    (own : ∀ writer, client.writers writer = true → client.writer = some writer) :
    client.close writer = { client with writers := fun _ => false } := by
  rw [TalkClient.close, show Function.update client.writers writer false = fun _ => false from
    funext (shut_of_some own held)]

/-! ## What the invariant promises -/

theorem Session.owned (session : Session client) : Owned client := by
  obtain ⟨writer, -, writers⟩ := session.writer
  obtain ⟨transport, -, transports⟩ := session.transport
  have oneWriter : One client.writers := ⟨writer, writers⟩
  have oneTransport : One client.transports := ⟨transport, transports⟩
  refine ⟨fun _ off => ?_, fun _ _ => .inr ⟨oneWriter, oneTransport⟩, oneWriter.unique,
    oneTransport.unique⟩
  exact absurd (session.connected.symm.trans off) Bool.true_eq_false.mp

theorem GivingUp.owned (givingUp : GivingUp client task) : Owned client := by
  refine ⟨fun idle _ => ?_, fun result ended => .inl (givingUp.ended result ended),
    fun first _ firstly _ => ?_, fun first second firstly secondly => ?_⟩
  · obtain ⟨writer, closing⟩ := givingUp.closing
    exact absurd closing (idle.heartbeats task writer)
  · exact absurd firstly (Bool.eq_false_iff.mp (givingUp.writers first))
  · exact Option.some.inj
      ((givingUp.transports first firstly).symm.trans (givingUp.transports second secondly))

theorem Apart.owned (apart : Apart client) : Owned client := by
  refine ⟨fun idle _ => ⟨fun writer => ?_, fun transport => ?_⟩,
    fun result ended => .inl (apart.ended result ended),
    fun first second firstly secondly => ?_, fun first second firstly secondly => ?_⟩
  · refine Bool.eq_false_iff.mpr fun yes => ?_
    rcases apart.owner writer yes with holding | ⟨stage, member, -⟩
    · rw [idle.stage] at holding
      exact holding
    · rw [idle.disconnects] at member
      exact absurd member List.not_mem_nil
  · exact Bool.eq_false_iff.mpr fun yes => apart.leaving transport yes idle.disconnects
  · exact Option.some.inj
      ((apart.writers first firstly).symm.trans (apart.writers second secondly))
  · exact Option.some.inj
      ((apart.transports first firstly).symm.trans (apart.transports second secondly))

theorem Phase.owned (phase : Phase client) : Owned client := by
  cases phase with
  | session session => exact session.owned
  | givingUp task givingUp => exact givingUp.owned
  | apart apart => exact apart.owned

/-! ## `disconnect` -/

/-- When no writer is open, a `disconnect` that goes on to the transport leaves nothing open. -/
theorem Loose.closeUdp (loose : Loose client) (doomed : Doomed client)
    (shut : ∀ writer, client.writers writer = false) : Apart client.closeUdp := by
  rw [closeUdp_eq client loose.transports]
  refine ⟨⟨loose.connected, loose.uncut, loose.writers, fun _ isOpen => ?_, loose.shut, loose.held,
    loose.waits, loose.ended⟩, doomed, fun writer isOpen => ?_, fun _ isOpen => ?_⟩
  · exact absurd isOpen Bool.false_ne_true
  · exact absurd isOpen (Bool.eq_false_iff.mp (shut writer))
  · exact absurd isOpen Bool.false_ne_true

/-- `_close_tcp` in `disconnect`. -/
theorem Loose.leave (loose : Loose client) (doomed : Doomed client) : Apart client.leave := by
  rw [TalkClient.leave]
  split
  · rename_i vacant
    exact loose.closeUdp doomed (shut_of_none loose.writers vacant)
  · rename_i writer held
    rw [close_eq client held loose.writers]
    refine ⟨⟨loose.connected, loose.uncut, fun _ isOpen => ?_, loose.transports,
      fun _ _ _ => rfl, fun _ _ _ => .inr ⟨writer, List.mem_cons_self⟩, fun task waits => ?_,
      loose.ended⟩, fun task alive => ?_, fun _ isOpen => ?_, fun _ _ => List.cons_ne_nil _ _⟩
    · exact absurd isOpen Bool.false_ne_true
    · exact loose.waits task (List.mem_of_ne_of_mem (by simp) waits)
    · obtain ⟨current, cancelled, member, unclosed⟩ := doomed task alive
      exact ⟨current, cancelled, List.mem_cons_of_mem _ member, unclosed⟩
    · exact absurd isOpen Bool.false_ne_true

/-- `disconnect` once every heartbeat task has ended. -/
theorem Loose.stop (loose : Loose client) (done : ∀ task, ¬ client.Alive task) :
    Apart client.stop := by
  have forgotten : Loose { client with task := none } :=
    ⟨loose.connected, loose.uncut, loose.writers, loose.transports, loose.shut, loose.held,
      fun task waits => ⟨.inr rfl, (loose.waits task waits).2⟩, loose.ended⟩
  have leave := forgotten.leave fun task alive => absurd alive (done task)
  rw [TalkClient.stop]
  split
  · exact leave
  · rename_i writer held
    split
    · rename_i isOpen
      have open_shut {other : ℕ} (closing : client.stage = .closing other ∨
          .closing other ∈ DisconnectStage.stopping :: client.disconnects) :
          client.writers writer = false := by
        rcases closing with closing | closing
        · exact loose.shut other (.inl closing) writer
        · exact loose.shut other (.inr (List.mem_of_ne_of_mem (by simp) closing)) writer
      refine ⟨⟨loose.connected, loose.uncut, loose.writers, loose.transports,
        fun other closing => ?_, fun holding other current => ?_,
        fun task waits => ⟨.inr rfl, ?_⟩, loose.ended⟩, fun task alive => absurd alive (done task),
        fun _ _ => .inr ⟨.stopping, List.mem_cons_self, trivial⟩,
        fun _ _ => List.cons_ne_nil _ _⟩
      · exact absurd isOpen (Bool.eq_false_iff.mp (open_shut closing))
      · exact (loose.held holding other current).imp id fun ⟨last, member⟩ =>
          ⟨last, List.mem_cons_of_mem _ member⟩
      · exact (loose.waits task (List.mem_of_ne_of_mem (by simp) waits)).2
    · exact leave

/-- A cancelled heartbeat loop is not at `wait_closed`. -/
theorem cancel_eq (client : TalkClient)
    (unclosed : ∀ writer, client.heartbeats task ≠ .closing writer) :
    client.cancel task =
      { client with
        cancelled := Function.update client.cancelled task true
        disconnects := .heartbeat task :: client.disconnects } := by
  rw [TalkClient.cancel]
  split
  · rename_i writer closing
    exact absurd closing (unclosed writer)
  · rfl

/-- The only heartbeat task is cancelled, and a `disconnect` waits for it. -/
theorem Loose.cancel (loose : Loose client) (current : client.task = some task)
    (only : ∀ other, client.Alive other → other = task)
    (unraised : client.heartbeats task ≠ .done true)
    (unclosed : ∀ writer, client.heartbeats task ≠ .closing writer) :
    Apart (client.cancel task) := by
  rw [cancel_eq client unclosed]
  have later {stage : DisconnectStage} (different : stage ≠ .heartbeat task)
      (member : stage ∈ DisconnectStage.heartbeat task :: client.disconnects) :
      stage ∈ client.disconnects := List.mem_of_ne_of_mem different member
  refine ⟨⟨loose.connected, loose.uncut, loose.writers, loose.transports,
    fun writer closing => loose.shut writer (closing.imp id (later (by simp))),
    fun holding writer current => ?_, fun other waits => ?_, loose.ended⟩,
    fun other alive => ?_, fun _ _ => .inr ⟨_, List.mem_cons_self, trivial⟩,
    fun _ _ => List.cons_ne_nil _ _⟩
  · exact (loose.held holding writer current).imp id fun ⟨last, member⟩ =>
      ⟨last, List.mem_cons_of_mem _ member⟩
  · by_cases same : other = task
    · rw [same]
      exact ⟨.inl current, unraised⟩
    · exact loose.waits other (later (by simpa using same) waits)
  · obtain rfl := only other alive
    exact ⟨current, Function.update_self .., List.mem_cons_self, unclosed⟩

/-- `disconnect` is called while the current heartbeat task is the only one. -/
theorem Loose.disconnect (loose : Loose { client with connected := false })
    (current : ∀ task, client.Alive task → client.task = some task)
    (careful : Careful client .disconnect) : Apart client.disconnect := by
  rw [TalkClient.disconnect]
  dsimp only
  split
  · rename_i vacant
    refine loose.stop fun task alive => ?_
    cases vacant.symm.trans (current task alive)
  · rename_i task held
    obtain ⟨unraised, unclosed⟩ := careful task held
    have only (other : ℕ) (alive : client.Alive other) : other = task :=
      Option.some.inj ((current other alive).symm.trans held)
    split
    · rename_i raised ended
      rw [TalkClient.await, if_neg unraised]
      refine loose.stop fun other alive => ?_
      rw [only other alive] at alive
      exact alive raised ended
    · exact loose.cancel held only unraised unclosed

theorem Apart.disconnect (apart : Apart client) (careful : Careful client .disconnect) :
    Apart client.disconnect := by
  have loose := apart.toLoose
  rw [show client = { client with connected := false } by rw [← apart.connected]] at loose
  exact loose.disconnect (fun task alive => (apart.doomed task alive).1) careful

theorem Session.disconnect (session : Session client) (forgotten : client.ended = none)
    (careful : Careful client .disconnect) : Apart client.disconnect := by
  obtain ⟨writer, held, writers⟩ := session.writer
  obtain ⟨transport, bound, transports⟩ := session.transport
  have nobody {stage : DisconnectStage} (member : stage ∈ client.disconnects) : False := by
    rw [session.disconnects] at member
    exact absurd member List.not_mem_nil
  refine Loose.disconnect ⟨rfl, session.uncut, fun other isOpen => ?_, fun other isOpen => ?_,
    fun other closing => ?_, fun holding => ?_, fun _ waits => (nobody waits).elim,
    fun _ ended => ?_⟩ (fun task alive => (session.alive task alive).1) careful
  · exact ((writers other).mp isOpen).symm ▸ held
  · exact ((transports other).mp isOpen).symm ▸ bound
  · rcases closing with closing | closing
    · cases session.stage.symm.trans closing
    · exact (nobody closing).elim
  · change client.stage.Holding at holding
    rw [session.stage] at holding
    exact holding.elim
  · cases forgotten.symm.trans ended

/-- A `disconnect` at an `await` goes on. -/
theorem Apart.erase (apart : Apart client) (stage : DisconnectStage)
    (held : ∀ other, stage ≠ .closing other) :
    Loose { client with disconnects := client.disconnects.erase stage } where
  connected := apart.connected
  uncut := apart.uncut
  writers := apart.writers
  transports := apart.transports
  shut writer closing := apart.shut writer (closing.imp id List.mem_of_mem_erase)
  held holding writer current := by
    refine (apart.held holding writer current).imp id fun ⟨other, member⟩ => ⟨other, ?_⟩
    exact (List.mem_erase_of_ne (held other).symm).mpr member
  waits task waits := apart.waits task (List.mem_of_mem_erase waits)
  ended := apart.ended

/-- A heartbeat task stays waited for when another `disconnect` goes on. -/
theorem Doomed.erase (doomed : Doomed client) (stage : DisconnectStage)
    (other : ∀ task, stage ≠ .heartbeat task) :
    Doomed { client with disconnects := client.disconnects.erase stage } := by
  intro task alive
  obtain ⟨current, cancelled, member, unclosed⟩ := doomed task alive
  exact ⟨current, cancelled, (List.mem_erase_of_ne (other task).symm).mpr member, unclosed⟩

theorem Apart.heartbeatEnded (apart : Apart client) (waits : .heartbeat task ∈ client.disconnects)
    (done : ∃ raised, client.heartbeats task = .done raised) :
    Apart (effect client (.heartbeatEnded task)) := by
  obtain ⟨raised, ended⟩ := done
  obtain ⟨held, unraised⟩ := apart.waits task waits
  rw [effect, TalkClient.await, if_neg unraised]
  refine (apart.erase (.heartbeat task) fun _ => by simp).stop fun other alive => ?_
  obtain ⟨current, -⟩ := apart.doomed other alive
  rcases held with same | vacant
  · obtain rfl := Option.some.inj (current.symm.trans same)
    exact alive raised ended
  · cases current.symm.trans vacant

theorem Apart.stopSent (apart : Apart client) : Apart (effect client .stopSent) :=
  (apart.erase .stopping fun _ => by simp).leave (apart.doomed.erase .stopping fun _ => by simp)

/-- The writer that a `disconnect` has waited for is forgotten. -/
theorem Apart.disconnectClosed (apart : Apart client) {writer : ℕ}
    (waits : .closing writer ∈ client.disconnects) :
    Apart (effect client (.disconnectClosed writer)) := by
  have shut := apart.shut writer (.inr waits)
  rw [effect, if_neg (by rw [apart.uncut writer]; exact Bool.false_ne_true)]
  refine Loose.closeUdp ⟨apart.connected, apart.uncut, fun other isOpen => ?_, apart.transports,
    fun _ _ => shut, fun _ _ current => ?_, fun task waits => ?_, apart.ended⟩
    (apart.doomed.erase _ fun _ => by simp) shut
  · exact absurd isOpen (Bool.eq_false_iff.mp (shut other))
  · cases current
  · exact apart.waits task (List.mem_of_mem_erase waits)

/-! ## `connect` -/

/-- `connect` gets the lock. -/
theorem Phase.enter (phase : Phase client) (idle : client.stage = .idle) :
    Phase client.enter := by
  rw [TalkClient.enter]
  cases phase with
  | session session =>
      rw [if_pos session.connected]
      exact .session ⟨session.connected, rfl, session.disconnects, session.uncut, session.writer,
        session.transport, session.alive⟩
  | givingUp task givingUp =>
      rw [if_neg (by rw [givingUp.connected]; exact Bool.false_ne_true)]
      exact .givingUp task ⟨givingUp.connected, .inr rfl, givingUp.disconnects, givingUp.uncut,
        givingUp.writers, givingUp.transports, givingUp.closing, givingUp.cancelled,
        givingUp.current, givingUp.alive, givingUp.ended⟩
  | apart apart =>
      rw [if_neg (by rw [apart.connected]; exact Bool.false_ne_true)]
      refine .apart ⟨⟨apart.connected, apart.uncut, apart.writers, apart.transports,
        fun writer closing => apart.shut writer (closing.imp (fun h => by cases h) id),
        fun holding => holding.elim, apart.waits, apart.ended⟩, apart.doomed,
        fun writer isOpen => (apart.owner writer isOpen).imp (fun holding => ?_) id, apart.leaving⟩
      rwa [idle] at holding

/-- The number of waiting calls plays no part. -/
theorem Phase.queue (phase : Phase client) (waiting : ℕ) :
    Phase { client with waiting := waiting } := by
  cases phase with
  | session session =>
      exact .session ⟨session.connected, session.stage, session.disconnects, session.uncut,
        session.writer, session.transport, session.alive⟩
  | givingUp task givingUp =>
      exact .givingUp task ⟨givingUp.connected, givingUp.stage, givingUp.disconnects,
        givingUp.uncut, givingUp.writers, givingUp.transports, givingUp.closing,
        givingUp.cancelled, givingUp.current, givingUp.alive, givingUp.ended⟩
  | apart apart =>
      exact .apart ⟨⟨apart.connected, apart.uncut, apart.writers, apart.transports, apart.shut,
        apart.held, apart.waits, apart.ended⟩, apart.doomed, apart.owner, apart.leaving⟩

/-- What a step found, but for the last result. -/
theorem Phase.forget (phase : Phase client) : Phase { client with ended := none } := by
  cases phase with
  | session session =>
      exact .session ⟨session.connected, session.stage, session.disconnects, session.uncut,
        session.writer, session.transport, session.alive⟩
  | givingUp task givingUp =>
      exact .givingUp task ⟨givingUp.connected, givingUp.stage, givingUp.disconnects,
        givingUp.uncut, givingUp.writers, givingUp.transports, givingUp.closing,
        givingUp.cancelled, givingUp.current, givingUp.alive, fun _ ended => by cases ended⟩
  | apart apart =>
      exact .apart ⟨⟨apart.connected, apart.uncut, apart.writers, apart.transports, apart.shut,
        apart.held, apart.waits, fun _ ended => by cases ended⟩, apart.doomed, apart.owner,
        apart.leaving⟩

/-- A call of `connect` moves on with the writer it has. -/
theorem Apart.advance (apart : Apart client) (holding : client.stage.Holding)
    {stage : ConnectStage} (stays : stage.Holding) : Apart { client with stage := stage } := by
  refine ⟨⟨apart.connected, apart.uncut, apart.writers, apart.transports,
    fun writer closing => apart.shut writer (closing.imp (fun now => ?_) id),
    fun _ => apart.held holding, apart.waits, apart.ended⟩, apart.doomed,
    fun _ _ => .inl stays, apart.leaving⟩
  rw [show stage = .closing writer from now] at stays
  exact stays.elim

/-- A call of `connect` returns false and leaves no writer open. -/
theorem Apart.finish (apart : Apart client) (shut : ∀ writer, client.writers writer = false) :
    Apart (client.finish (.returned false)) :=
  ⟨⟨apart.connected, apart.uncut, apart.writers, apart.transports, fun _ _ => shut,
    fun holding => holding.elim, apart.waits, fun _ ended => (Option.some.inj ended).symm⟩,
    apart.doomed, fun writer isOpen => absurd isOpen (Bool.eq_false_iff.mp (shut writer)),
    apart.leaving⟩

/-- `_close_tcp` in `connect`. -/
theorem Apart.refuse (apart : Apart client) : Apart client.refuse := by
  rw [TalkClient.refuse]
  split
  · rename_i vacant
    exact apart.finish (shut_of_none apart.writers vacant)
  · rename_i writer held
    rw [close_eq client held apart.writers]
    exact ⟨⟨apart.connected, apart.uncut, fun _ isOpen => absurd isOpen Bool.false_ne_true,
      apart.transports, fun _ _ _ => rfl, fun holding => holding.elim, apart.waits, apart.ended⟩,
      apart.doomed, fun _ isOpen => absurd isOpen Bool.false_ne_true, apart.leaving⟩

/-- An answer that is not the empty acknowledgement is parsed. -/
theorem accepted_of_not_isEmptyAck {resp : List UInt8} (handled : ¬ IsEmptyAck resp) :
    ∃ verdict, accepted resp = .ok verdict := by
  obtain ⟨parsed, read⟩ := (returns_iff resp).mpr handled
  rw [accepted, read, ok_bind]
  cases parsed with
  | none => exact ⟨_, rfl⟩
  | some parsed => exact ⟨_, rfl⟩

theorem Apart.answer (apart : Apart client) (answering : client.stage = .answering)
    {answer : Answer} (handled : answer.Handled) : Apart (client.answer answer) := by
  cases answer with
  | timeout => exact apart.refuse
  | failed => exact handled.elim
  | busy => exact handled.elim
  | data resp =>
      rw [TalkClient.answer]
      obtain ⟨verdict, parsed⟩ := accepted_of_not_isEmptyAck handled
      rw [parsed]
      split
      · exact apart.refuse
      · cases verdict with
        | false => exact apart.refuse
        | true => exact apart.advance (by rw [answering]; trivial) trivial

/-- A TCP connection is opened while nothing is open. -/
theorem Apart.tcpOpened (apart : Apart client) (opening : client.stage = .opening)
    (alone : client.disconnects = []) : Apart (effect client .tcpOpened) := by
  have nobody {stage : DisconnectStage} (member : stage ∈ client.disconnects) : False := by
    rw [alone] at member
    exact absurd member List.not_mem_nil
  have shut (other : ℕ) : client.writers other = false := by
    refine Bool.eq_false_iff.mpr fun yes => ?_
    rcases apart.owner other yes with holding | ⟨stage, member, -⟩
    · rw [opening] at holding
      exact holding
    · exact nobody member
  refine ⟨⟨apart.connected, apart.uncut, fun other isOpen => ?_, apart.transports,
    fun other closing => ?_, fun _ writer current => .inl ?_, apart.waits, apart.ended⟩,
    apart.doomed, fun _ _ => .inl trivial, apart.leaving⟩
  · by_cases same : other = client.opened
    · rw [same]
      rfl
    · simp only [effect, Function.update_of_ne same, shut] at isOpen
      exact absurd isOpen Bool.false_ne_true
  · rcases closing with closing | closing
    · cases closing
    · exact (nobody closing).elim
  · cases current
    exact Function.update_self ..

/-- The session is established: one writer and one transport are open. -/
theorem Apart.start (apart : Apart client) (binding : client.stage = .binding)
    (alone : client.disconnects = []) (present : client.writer ≠ none) : Session client.start := by
  have nobody {stage : DisconnectStage} (member : stage ∈ client.disconnects) : False := by
    rw [alone] at member
    exact absurd member List.not_mem_nil
  obtain ⟨writer, held⟩ := Option.ne_none_iff_exists'.mp present
  have isOpen : client.writers writer = true :=
    (apart.held (by rw [binding]; trivial) writer held).resolve_right
      fun ⟨_, member⟩ => nobody member
  refine ⟨rfl, rfl, alone, apart.uncut, ⟨writer, held, fun other => ⟨fun yes => ?_, ?_⟩⟩,
    ⟨client.bound, rfl, fun other => ?_⟩, fun task alive => ?_⟩
  · exact Option.some.inj ((apart.writers other yes).symm.trans held)
  · intro same
    rw [same]
    exact isOpen
  · have shut : client.transports other = false :=
      Bool.eq_false_iff.mpr fun yes => apart.leaving other yes alone
    simp only [TalkClient.start, TalkClient.finish, Function.update_apply, shut]
    split
    · rename_i same
      simp [same]
    · rename_i different
      simp [different]
  · by_cases same : task = client.spawned
    · rw [same]
      exact ⟨rfl, Function.update_self .., fun _ closing => by
        simp [TalkClient.start, TalkClient.finish] at closing⟩
    · refine (nobody (apart.doomed task fun raised ended => alive raised ?_).2.2.1).elim
      simpa [TalkClient.start, TalkClient.finish, Function.update_of_ne same] using ended

/-! ## The heartbeat loop -/

/-- A heartbeat loop of a connected client moves on. -/
theorem Session.proceed (session : Session client) (alive : client.Alive task) {stage : Heartbeat}
    (unclosed : ∀ writer, stage ≠ .closing writer) : Session (client.proceed task stage) := by
  refine ⟨session.connected, session.stage, session.disconnects, session.uncut, session.writer,
    session.transport, fun other living => ?_⟩
  by_cases same : other = task
  · obtain ⟨current, cancelled, -⟩ := session.alive task alive
    rw [same]
    refine ⟨current, cancelled, fun writer closing => unclosed writer ?_⟩
    simpa [TalkClient.proceed] using closing
  · have untouched : (client.proceed task stage).heartbeats other = client.heartbeats other :=
      Function.update_of_ne same ..
    rw [untouched]
    refine session.alive other fun raised ended => living raised ?_
    rw [untouched, ended]

theorem Session.loop (session : Session client) (alive : client.Alive task) (failures : ℕ) :
    Session (client.loop task failures) := by
  rw [TalkClient.loop, if_pos session.connected]
  exact session.proceed alive fun _ => by simp

/-- A session that is given up has its writer closed first. -/
theorem Session.giveUp (session : Session client) (alive : client.Alive task)
    (forgotten : client.ended = none) : GivingUp (client.giveUp task) task := by
  obtain ⟨writer, held, writers⟩ := session.writer
  obtain ⟨transport, bound, transports⟩ := session.transport
  obtain ⟨current, cancelled, -⟩ := session.alive task alive
  have own (other : ℕ) (isOpen : client.writers other = true) : client.writer = some other :=
    ((writers other).mp isOpen).symm ▸ held
  rw [TalkClient.giveUp]
  dsimp only
  rw [held]
  dsimp only
  refine ⟨rfl, .inl session.stage, session.disconnects, session.uncut,
    fun other => shut_of_some own held other, fun other isOpen => ?_,
    ⟨writer, Function.update_self ..⟩, cancelled, current, fun other living => ?_,
    fun _ ended => ?_⟩
  · exact ((transports other).mp isOpen).symm ▸ bound
  · by_contra different
    have untouched : client.Alive other := fun raised ended => living raised
      ((Function.update_of_ne different ..).trans ended)
    exact different (Option.some.inj ((session.alive other untouched).1.symm.trans current))
  · cases forgotten.symm.trans ended

theorem Session.miss (session : Session client) (alive : client.Alive task)
    (forgotten : client.ended = none) (failures : ℕ) : Phase (client.miss task failures) := by
  rw [TalkClient.miss]
  split
  · exact .givingUp task (session.giveUp alive forgotten)
  · exact .session (session.loop alive _)

theorem Session.beat (session : Session client) (alive : client.Alive task)
    (forgotten : client.ended = none) (failures : ℕ) (answer : Answer) :
    Phase (client.beat task failures answer) := by
  cases answer with
  | timeout => exact session.miss alive forgotten failures
  | failed => exact session.miss alive forgotten failures
  | busy => exact .session (session.proceed alive fun _ => by simp)
  | data resp =>
      rw [TalkClient.beat]
      split
      · exact .givingUp task (session.giveUp alive forgotten)
      · split
        · exact .session (session.proceed alive fun _ => by simp)
        · exact session.miss alive forgotten failures
        · exact .session (session.loop alive 0)

/-- The heartbeat loop has closed the writer: nothing is open any more. -/
theorem GivingUp.beatClosed (givingUp : GivingUp client task) (writer : ℕ) :
    Apart (effect client (.beatClosed task writer)) := by
  rw [effect, if_neg (by rw [givingUp.uncut writer]; exact Bool.false_ne_true),
    closeUdp_eq { client with writer := none } givingUp.transports]
  have nobody {stage : DisconnectStage} (member : stage ∈ client.disconnects) : False := by
    rw [givingUp.disconnects] at member
    exact absurd member List.not_mem_nil
  refine ⟨⟨givingUp.connected, givingUp.uncut, fun other isOpen => ?_, fun _ isOpen => ?_,
    fun _ _ => givingUp.writers, fun _ _ current => (by cases current),
    fun _ waits => (nobody waits).elim, givingUp.ended⟩, fun other alive => ?_,
    fun other isOpen => ?_, fun _ isOpen => ?_⟩
  · exact absurd isOpen (Bool.eq_false_iff.mp (givingUp.writers other))
  · exact absurd isOpen Bool.false_ne_true
  · by_cases same : other = task
    · rw [same] at alive
      exact absurd (Function.update_self ..) (alive false)
    · refine absurd (givingUp.alive other fun raised ended => alive raised ?_) same
      exact (Function.update_of_ne same ..).trans ended
  · exact absurd isOpen (Bool.eq_false_iff.mp (givingUp.writers other))
  · exact absurd isOpen Bool.false_ne_true

/-- A cancellation ends a heartbeat loop. -/
theorem Apart.cancelDelivered (apart : Apart client) :
    Apart (effect client (.cancelDelivered task)) := by
  have untouched {other : ℕ} (different : other ≠ task) :
      (effect client (.cancelDelivered task)).heartbeats other = client.heartbeats other :=
    Function.update_of_ne different ..
  refine ⟨⟨apart.connected, apart.uncut, apart.writers, apart.transports, apart.shut, apart.held,
    fun other waits => ?_, apart.ended⟩, fun other alive => ?_, apart.owner, apart.leaving⟩
  · obtain ⟨held, unraised⟩ := apart.waits other waits
    refine ⟨held, ?_⟩
    by_cases same : other = task
    · rw [same]
      simp [effect, TalkClient.proceed]
    · rwa [untouched same]
  · by_cases same : other = task
    · rw [same] at alive
      exact absurd (Function.update_self ..) (alive false)
    · rw [untouched same]
      exact apart.doomed other fun raised ended => alive raised ((untouched same).trans ended)

/-! ## Careful runs -/

/-- The heartbeat loops that a label is about. -/
theorem alive_of_eq {stage : Heartbeat} (now : client.heartbeats task = stage)
    (living : ∀ raised, stage ≠ .done raised) : client.Alive task :=
  fun raised => now ▸ living raised

theorem Session.effect (session : Session client) (forgotten : client.ended = none) {label : Label}
    (possible : Possible client label) (careful : Careful client label) :
    Phase (effect client label) := by
  obtain ⟨writer, held, -⟩ := session.writer
  have present : client.writer ≠ none := by simp [held]
  have idle := session.stage
  have nobody := session.disconnects
  cases label with
  | connect =>
      rw [Talk.effect]
      split
      · exact (Phase.session session).enter idle
      · exact (Phase.session session).queue _
  | lockPassed => exact ((Phase.session session).queue _).enter idle
  | tcpOpened => cases idle.symm.trans possible
  | tcpFailed => cases idle.symm.trans possible
  | startSent => cases idle.symm.trans possible
  | startFailed => cases idle.symm.trans possible
  | answered answer => cases idle.symm.trans possible
  | connectClosed writer => cases idle.symm.trans possible
  | udpBound => cases idle.symm.trans possible
  | udpFailed => cases idle.symm.trans possible
  | taskRuns task => exact .session (session.loop (alive_of_eq possible.1 fun _ => by simp) 0)
  | slept task failures =>
      rw [Talk.effect, if_neg (by simp [session.connected, present])]
      exact .session (session.proceed (alive_of_eq possible.1 fun _ => by simp) fun _ => by simp)
  | beatSent task failures =>
      rw [Talk.effect, if_neg present]
      exact .session (session.proceed (alive_of_eq possible.1 fun _ => by simp) fun _ => by simp)
  | beatFailed task failures =>
      exact session.miss (alive_of_eq possible.1 fun _ => by simp) forgotten failures
  | beatAnswered task failures answer =>
      exact session.beat (alive_of_eq possible.1 fun _ => by simp) forgotten failures answer
  | beatClosed task writer =>
      have alive : client.Alive task := alive_of_eq possible.1 fun _ => by simp
      exact absurd possible.1 ((session.alive task alive).2.2 writer)
  | cancelDelivered task =>
      cases possible.1.symm.trans (session.alive task possible.2).2.1
  | disconnect => exact .apart (session.disconnect forgotten careful)
  | heartbeatEnded task => simp [Possible, nobody] at possible
  | stopSent => simp [Possible, nobody] at possible
  | disconnectClosed writer => simp [Possible, nobody] at possible

theorem GivingUp.effect (givingUp : GivingUp client task) {label : Label}
    (possible : Possible client label) (careful : Careful client label) :
    Phase (effect client label) := by
  obtain ⟨writer, closing⟩ := givingUp.closing
  have nobody := givingUp.disconnects
  have elsewhere {stage : ConnectStage} (now : client.stage = stage) (other : stage ≠ .idle)
      (another : stage ≠ .opening) : False := by
    rcases givingUp.stage with idle | opening
    · exact other (now.symm.trans idle)
    · exact another (now.symm.trans opening)
  have busy {other : ℕ} {stage : Heartbeat} (now : client.heartbeats other = stage)
      (living : ∀ raised, stage ≠ .done raised) (unclosed : ∀ writer, stage ≠ .closing writer) :
      False := by
    have same := givingUp.alive other (alive_of_eq now living)
    rw [same, closing] at now
    exact unclosed writer now.symm
  cases label with
  | connect =>
      rw [Talk.effect]
      split
      · rename_i free
        exact (Phase.givingUp task givingUp).enter free.1
      · exact (Phase.givingUp task givingUp).queue _
  | lockPassed => exact ((Phase.givingUp task givingUp).queue _).enter possible.1
  | tcpOpened => exact absurd closing (careful.2 task writer)
  | tcpFailed =>
      exact .givingUp task ⟨givingUp.connected, .inl rfl, nobody, givingUp.uncut, givingUp.writers,
        givingUp.transports, givingUp.closing, givingUp.cancelled, givingUp.current,
        givingUp.alive, fun _ ended => (Option.some.inj ended).symm⟩
  | startSent => exact (elsewhere possible (by simp) (by simp)).elim
  | startFailed => exact (elsewhere possible (by simp) (by simp)).elim
  | answered answer => exact (elsewhere possible (by simp) (by simp)).elim
  | connectClosed writer => exact (elsewhere possible (by simp) (by simp)).elim
  | udpBound => exact (elsewhere possible (by simp) (by simp)).elim
  | udpFailed => exact (elsewhere possible (by simp) (by simp)).elim
  | taskRuns other => exact (busy possible.1 (by simp) (by simp)).elim
  | slept other failures => exact (busy possible.1 (by simp) (by simp)).elim
  | beatSent other failures => exact (busy possible.1 (by simp) (by simp)).elim
  | beatFailed other failures => exact (busy possible.1 (by simp) (by simp)).elim
  | beatAnswered other failures answer => exact (busy possible.1 (by simp) (by simp)).elim
  | beatClosed other writer =>
      obtain rfl := givingUp.alive other (alive_of_eq possible.1 (by simp))
      exact .apart (givingUp.beatClosed writer)
  | cancelDelivered other =>
      have same := givingUp.alive other possible.2
      exact absurd possible.1 (by rw [same, givingUp.cancelled]; exact Bool.false_ne_true)
  | disconnect => exact absurd closing ((careful task givingUp.current).2 writer)
  | heartbeatEnded other => simp [Possible, nobody] at possible
  | stopSent => simp [Possible, nobody] at possible
  | disconnectClosed writer => simp [Possible, nobody] at possible

theorem Apart.effect (apart : Apart client) {label : Label} (possible : Possible client label)
    (careful : Careful client label) : Phase (effect client label) := by
  have still {task : ℕ} {stage : Heartbeat} (now : client.heartbeats task = stage)
      (uncancelled : client.cancelled task = false) (living : ∀ raised, stage ≠ .done raised) :
      False := by
    cases uncancelled.symm.trans (apart.doomed task (alive_of_eq now living)).2.1
  cases label with
  | connect =>
      rw [Talk.effect]
      split
      · rename_i free
        exact (Phase.apart apart).enter free.1
      · exact (Phase.apart apart).queue _
  | lockPassed => exact ((Phase.apart apart).queue _).enter possible.1
  | tcpOpened => exact .apart (apart.tcpOpened possible careful.1)
  | tcpFailed =>
      refine .apart ⟨⟨apart.connected, apart.uncut, apart.writers, apart.transports,
        fun writer closing => apart.shut writer (closing.imp (fun now => by cases now) id),
        fun holding => holding.elim, apart.waits, fun _ ended => (Option.some.inj ended).symm⟩,
        apart.doomed, fun writer isOpen => ?_, apart.leaving⟩
      refine (apart.owner writer isOpen).imp (fun holding => ?_) id
      rwa [show client.stage = .opening from possible] at holding
  | startSent =>
      rw [Talk.effect, if_neg careful]
      exact .apart (apart.advance (by rw [show client.stage = .starting from possible]; trivial)
        trivial)
  | startFailed => exact careful.elim
  | answered answer => exact .apart (apart.answer possible careful)
  | connectClosed writer =>
      have shut := apart.shut writer (.inl possible)
      rw [Talk.effect, if_neg (by rw [apart.uncut writer]; exact Bool.false_ne_true)]
      refine .apart (Apart.finish ⟨⟨apart.connected, apart.uncut, fun other isOpen => ?_,
        apart.transports, fun _ _ => shut, fun _ _ current => (by cases current), apart.waits,
        apart.ended⟩, apart.doomed, fun other isOpen => ?_, apart.leaving⟩ shut)
      · exact absurd isOpen (Bool.eq_false_iff.mp (shut other))
      · exact absurd isOpen (Bool.eq_false_iff.mp (shut other))
  | udpBound => exact .session (apart.start possible careful.1 careful.2)
  | udpFailed => exact careful.elim
  | taskRuns task => exact (still possible.1 possible.2 (by simp)).elim
  | slept task failures => exact (still possible.1 possible.2 (by simp)).elim
  | beatSent task failures => exact (still possible.1 possible.2 (by simp)).elim
  | beatFailed task failures => exact (still possible.1 possible.2 (by simp)).elim
  | beatAnswered task failures answer => exact (still possible.1 possible.2 (by simp)).elim
  | beatClosed task writer => exact (still possible.1 possible.2 (by simp)).elim
  | cancelDelivered task => exact .apart apart.cancelDelivered
  | disconnect => exact .apart (apart.disconnect careful)
  | heartbeatEnded task => exact .apart (apart.heartbeatEnded possible.1 possible.2)
  | stopSent => exact .apart apart.stopSent
  | disconnectClosed writer => exact .apart (apart.disconnectClosed possible)

/-- A careful label leads from one phase to another. -/
theorem Phase.perform (phase : Phase client) {label : Label} (possible : Possible client label)
    (careful : Careful client label) : Phase (perform client label) := by
  have possible' : Possible { client with ended := none } label := by
    cases label <;> exact possible
  have careful' : Careful { client with ended := none } label := by
    cases label <;> exact careful
  cases phase.forget with
  | session session => exact session.effect rfl possible' careful'
  | givingUp task givingUp => exact givingUp.effect possible' careful'
  | apart apart => exact apart.effect possible' careful'

/-- A client that nothing has happened to is in a phase. -/
theorem phase_of_initial (starts : machine.initial client) : Phase client := by
  obtain ⟨writers, uncut, vacant, transports, unbound, done, -, off, idle, -, nobody, ended⟩ := starts
  have shut (writer : ℕ) : client.writers writer ≠ true := Bool.eq_false_iff.mp (writers writer)
  have unopened (transport : ℕ) : client.transports transport ≠ true :=
    Bool.eq_false_iff.mp (transports transport)
  have loose : Loose client :=
    { connected := off
      uncut
      writers := fun writer isOpen => absurd isOpen (shut writer)
      transports := fun transport isOpen => absurd isOpen (unopened transport)
      shut := fun _ _ => writers
      held := fun _ writer held => by cases vacant.symm.trans held
      waits := fun task waits => by cases nobody ▸ waits
      ended := fun result now => by cases ended.symm.trans now }
  exact .apart { toLoose := loose
                 doomed := fun task alive => absurd (done task) (alive false)
                 owner := fun writer isOpen => absurd isOpen (shut writer)
                 leaving := fun transport isOpen => absurd isOpen (unopened transport) }

/-- In a careful run, a client that is connected has a transport. -/
theorem bound_of_connected {labels : List Label} (run : machine.Run Careful labels client)
    (on : client.connected = true) : client.transport ≠ none := by
  have phase : Phase client := run.invariant (fun _ => phase_of_initial) <| by
    intro client label next phase careful ⟨possible, performed⟩
    rw [performed]
    exact phase.perform possible careful
  cases phase with
  | session session =>
      obtain ⟨transport, bound, -⟩ := session.transport
      rw [bound]
      exact Option.some_ne_none transport
  | givingUp task givingUp => exact absurd (givingUp.connected.symm.trans on) Bool.false_ne_true
  | apart apart => exact absurd (apart.connected.symm.trans on) Bool.false_ne_true

/-- In every careful run the talk client owns its sockets. -/
theorem client_owned {labels : List Label} {client : TalkClient}
    (run : machine.Run Careful labels client) : Owned client := by
  refine Phase.owned (run.invariant ?_ ?_)
  · intro client ⟨writers, uncut, _, transports, _, done, _, off, idle, _, nobody, ended⟩
    have unheld : ¬ client.stage.Holding := by
      rw [idle]
      exact id
    have undone {stage : DisconnectStage} : stage ∉ client.disconnects := by
      rw [nobody]
      exact List.not_mem_nil
    refine .apart ⟨⟨off, uncut, fun writer isOpen => ?_, fun transport isOpen => ?_,
      fun _ _ => writers, fun holding => absurd holding unheld, fun _ waits => absurd waits undone,
      fun result now => ?_⟩, fun task alive => absurd (done task) (alive false),
      fun writer isOpen => ?_, fun transport isOpen => ?_⟩
    · exact absurd isOpen (Bool.eq_false_iff.mp (writers writer))
    · exact absurd isOpen (Bool.eq_false_iff.mp (transports transport))
    · cases ended.symm.trans now
    · exact absurd isOpen (Bool.eq_false_iff.mp (writers writer))
    · exact absurd isOpen (Bool.eq_false_iff.mp (transports transport))
  · intro client label next phase careful ⟨possible, performed⟩
    rw [performed]
    exact phase.perform possible careful

/-- The client after construction. -/
def constructed : TalkClient :=
  ⟨0, fun _ => false, fun _ => false, none, 0, fun _ => false, none, 0, fun _ => .done false,
    fun _ => false, none, false, .idle, 0, [], none⟩

theorem run_constructed (good : TalkClient → Label → Prop) : machine.Run good [] constructed :=
  .start ⟨fun _ => rfl, fun _ => rfl, rfl, fun _ => rfl, rfl, fun _ => rfl, rfl, rfl, rfl, rfl, rfl,
    rfl⟩

/-- The camera accepts a session, a heartbeat is sent, and the client disconnects. -/
theorem client_owned_session :
    ∃ client, client.opened = 1 ∧ client.bound = 1 ∧ client.disconnects = [] ∧ Owned client := by
  have run := (run_constructed Careful)
    |>.extend .connect trivial ⟨trivial, rfl⟩
    |>.extend .tcpOpened ⟨rfl, fun _ _ => nofun⟩ ⟨rfl, rfl⟩
    |>.extend .startSent (Option.some_ne_none 0) ⟨rfl, rfl⟩
    |>.extend (.answered (.data [0xFE, 0xEF, 0x02, 0x00, 0x01, 0x00, 0xDC, 0x70]))
      (show ¬ IsEmptyAck _ from fun empty => by cases empty.1) ⟨rfl, rfl⟩
    |>.extend .udpBound ⟨rfl, Option.some_ne_none 0⟩ ⟨rfl, rfl⟩
    |>.extend (.taskRuns 0) trivial ⟨⟨rfl, rfl⟩, rfl⟩
    |>.extend (.slept 0 0) trivial ⟨⟨rfl, rfl⟩, rfl⟩
    |>.extend (.beatSent 0 0) trivial ⟨⟨rfl, rfl⟩, rfl⟩
    |>.extend (.beatAnswered 0 0 .timeout) trivial ⟨⟨rfl, rfl⟩, rfl⟩
    |>.extend .disconnect (fun _ held => Option.some.inj held ▸ ⟨nofun, fun _ => nofun⟩)
      ⟨trivial, rfl⟩
    |>.extend (.cancelDelivered 0) trivial ⟨⟨rfl, nofun⟩, rfl⟩
    |>.extend (.heartbeatEnded 0) trivial ⟨⟨List.mem_singleton.mpr rfl, false, rfl⟩, rfl⟩
    |>.extend .stopSent trivial ⟨List.mem_singleton.mpr rfl, rfl⟩
    |>.extend (.disconnectClosed 0) trivial ⟨List.mem_singleton.mpr rfl, rfl⟩
  exact ⟨_, rfl, rfl, rfl, client_owned run⟩

/-- After the empty acknowledgement, and one byte, `connect` leaves its writer open. -/
theorem empty_ack_leaks :
    ∃ labels client, machine.Run (fun _ _ => True) labels client ∧ ¬ Owned client := by
  have run := (run_constructed fun _ _ => True)
    |>.extend .connect trivial ⟨trivial, rfl⟩
    |>.extend .tcpOpened trivial ⟨rfl, rfl⟩
    |>.extend .startSent trivial ⟨rfl, rfl⟩
    |>.extend (.answered (.data (emptyAck ++ [0]))) trivial ⟨rfl, rfl⟩
  refine ⟨_, _, run, fun owned => ?_⟩
  have shut := (owned.idle ⟨rfl, rfl, rfl, fun _ _ => nofun⟩ rfl).1 0
  cases shut

end Talk
end Reference
end AqaraLanLink
