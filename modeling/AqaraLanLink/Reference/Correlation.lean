import AqaraLanLink.Hub
import AqaraLanLink.Library.Ledger
import AqaraLanLink.Library.Runs
import AqaraLanLink.Reference.Session
import Mathlib.Tactic.NormNum

/-!
# Calls and replies in the reference

The session client as a labelled transition system: calls, what becomes of their messages, timeouts
and cancellations, keepalives, hub frames, and the end of the tunnel or of `listen` in any order.  A
call finishes once, and with its own reply as long as no frame that the hub pushes can be looked up as
the `seq` of a waiting call.
-/

namespace AqaraLanLink
namespace Reference
namespace Correlation

open Library

/-! ## The machine -/

/-- What happens to a client. -/
inductive Label where
  /-- Someone calls `async_send_and_await`. -/
  | call (cmd : String)
  /-- `tunnel.send` returns to a call. -/
  | sent (seq : ℕ)
  /-- A timeout or a cancellation reaches the future of a call. -/
  | interrupt (seq : ℕ) (error : String)
  /-- A call is resumed because its future is done. -/
  | resume (seq : ℕ)
  /-- A call raises: `tunnel.send` raises, or it is cancelled there or before it is resumed. -/
  | abandon (seq : ℕ) (error : String)
  /-- The tunnel sends a keepalive, which has `seq` 1 and no call. -/
  | keepalive
  /-- The hub sends a frame. -/
  | frame (message : Json) (origin : Origin)
  /-- The hub sends a frame at whose text `json.loads` raises, though it is no `JSONDecodeError`: a
  `ValueError` at a number of too many digits, a `RecursionError`. -/
  | unloadable (message : Json) (origin : Origin) (error : String)
  /-- `receive` raises at a frame of another type. -/
  | receiveRaises (error : String)
  /-- The tunnel ends, or `receive` returns nothing for a frame that says no object. -/
  | tunnelClosed
  /-- The task of `listen` is cancelled. -/
  | listenCancelled

/-- A client and its history. -/
structure State where
  /-- The client. -/
  client : LANLinkClient
  /-- The calls that have been made: `seq` and command. -/
  issued : List (ℕ × String)
  /-- What has happened and what the client did about it. -/
  history : List (Label × List Event)

/-- What the client does when something happens. -/
def respond (client : LANLinkClient) : Label → LANLinkClient × List Event
  | .call _ => client.call
  | .sent seq =>
      match client.calls.find? fun call => call.seq == seq with
      | some call => client.sent call
      | none => (client, [])
  | .interrupt seq error => (client.interrupt seq error, [])
  | .resume seq =>
      match client.calls.find? fun call => call.seq == seq with
      | some call => client.resume call
      | none => (client, [])
  | .abandon seq error =>
      match client.calls.find? fun call => call.seq == seq with
      | some call => client.finish call.seq (.exception error)
      | none => (client, [])
  | .keepalive => (client, [])
  | .frame message _ => client.receive message
  | .unloadable _ _ error => (client.failPending error, [])
  | .receiveRaises error => (client.failPending error, [])
  | .tunnelClosed => (client.tunnelClosed, [])
  | .listenCancelled => (client.cancelled, [])

/-- The call that a label adds. -/
def issuedBy (client : LANLinkClient) : Label → List (ℕ × String)
  | .call cmd => [(client.seq + 1, cmd)]
  | _ => []

/-- A call is suspended in `tunnel.send`, or in `wait_for`. -/
def Suspended (state : State) (seq : ℕ) (sent : Bool) : Prop :=
  ∃ call ∈ state.client.calls, call.seq = seq ∧ call.sent = sent

/-- The hub can send a message: as the reply to a call, or on its own. -/
def Sends (state : State) (message : Json) : Origin → Prop
  | .reply seq => ∃ cmd, (seq, cmd) ∈ state.issued ∧ Answers message seq cmd
  | .push => ∃ fields, message = .object fields

/-- What can happen in a state: `wait_for` is reached once the message is sent, only `listen` reads
frames, and what the tunnel gives it is an object. -/
def Possible (state : State) : Label → Prop
  | .sent seq => Suspended state seq false
  | .interrupt seq _ => Suspended state seq true
  | .resume seq => Suspended state seq true
  | .frame message origin => state.client.listening = true ∧ Sends state message origin
  | .unloadable message origin _ => state.client.listening = true ∧ Sends state message origin
  | .receiveRaises _ => state.client.listening = true
  | .tunnelClosed => state.client.listening = true
  | .listenCancelled => state.client.listening = true
  | _ => True

/-- The state after a label. -/
def next (state : State) (label : Label) : State where
  client := (respond state.client label).1
  issued := state.issued ++ issuedBy state.client label
  history := state.history ++ [(label, (respond state.client label).2)]

/-- The session: `listen` has been started and nobody has called. -/
def machine : Machine State Label where
  initial state := state.client.pending = [] ∧ state.client.calls = [] ∧
    state.client.listening = true ∧ state.issued = [] ∧ state.history = []
  step state label after := Possible state label ∧ after = next state label

/-! ## What a session promises -/

/-- The call that an event finishes. -/
def finishes : Event → Option ℕ
  | .finished seq _ => some seq
  | _ => none

/-- The finished calls of a run, in order. -/
def finishedBy (history : List (Label × List Event)) : List ℕ :=
  (history.flatMap Prod.snd).filterMap finishes

/-- The calls of a run as tickets. -/
def ledger (state : State) : Ledger ℕ where
  issued := state.issued.map Prod.fst
  waiting := state.client.calls.map Call.seq
  settled := finishedBy state.history

/-- The hub has sent this message in answer to the call with this `seq`. -/
def Replied (state : State) (seq : ℕ) (message : Json) : Prop :=
  (∃ events, (.frame message (.reply seq), events) ∈ state.history) ∧
    ∃ cmd, (seq, cmd) ∈ state.issued ∧ Answers message seq cmd

/-- What the session promises. -/
structure Correlated (state : State) : Prop where
  /-- A call is running or has finished, once. -/
  once : (ledger state).Balanced
  /-- A call that is suspended in `tunnel.send` finishes when that raises, and when it returns the call
  finishes or awaits its future. -/
  sends : ∀ call ∈ state.client.calls, call.sent = false →
    (∀ error, (respond state.client (.abandon call.seq error)).2 =
      [.finished call.seq (.exception error)]) ∧
    ((∃ outcome, (respond state.client (.sent call.seq)).2 = [.finished call.seq outcome]) ∨
      ∃ later ∈ (respond state.client (.sent call.seq)).1.calls,
        later.seq = call.seq ∧ later.sent = true)
  /-- A call that awaits its future finishes after its timeout. -/
  timeouts : ∀ call ∈ state.client.calls, call.sent = true → ∃ outcome,
    (respond (state.client.interrupt call.seq "timed out") (.resume call.seq)).2 =
      [.finished call.seq outcome]
  /-- A call returns the hub's reply to it, or it raises. -/
  replies : ∀ label events, (label, events) ∈ state.history →
    ∀ seq message, .finished seq (.reply message) ∈ events → Replied state seq message
  /-- A frame that the hub pushes reaches `on_report` or `on_async`. -/
  pushes : ∀ message events, (.frame message .push, events) ∈ state.history →
    (∀ report, LANReport.fromEntity message = some report → events = [.report report]) ∧
      (¬ IsReport message → events = [.async message])
  /-- No frame that the hub pushes is lost in `receive`. -/
  loads : ∀ message error events, (.unloadable message .push error, events) ∉ state.history
  /-- Nothing is pending once `listen` has returned. -/
  drained : state.client.listening = false → state.client.pending = []

/-- A pushed frame is loaded, can be looked up and finds no waiting call, nobody calls after `listen`
has returned, and `listen` is cancelled when nothing is pending. -/
def Undisturbed (state : State) : Label → Prop
  | .call _ => state.client.listening = true
  | .unloadable _ .push _ => False
  | .listenCancelled => state.client.pending = []
  | .frame message .push => ∀ value, message.get? "seq" = some value →
      LANLinkClient.hashable value = true ∧ state.client.waitingFor value = none
  | _ => True

/-! ## What a step can do -/

/-- The ways in which a label can change a client. -/
inductive Move (client : LANLinkClient) : Label → LANLinkClient → List Event → Prop
  /-- A call starts. -/
  | started (cmd : String) :
      Move client (.call cmd)
        { client with
          seq := client.seq + 1
          pending := client.pending ++ [client.seq + 1]
          calls := client.calls ++ [⟨client.seq + 1, false, .waiting⟩] } []
  /-- A running call finishes, with the reply that its future holds or with an exception. -/
  | finished {label : Label} (call : Call) (outcome : Outcome) (member : call ∈ client.calls)
      (held : ∀ message, outcome = .reply message → call.future = .result message)
      (issues : issuedBy client label = []) (frame : ∀ message origin, label ≠ .frame message origin) :
      Move client label (client.finish call.seq outcome).1 [.finished call.seq outcome]
  /-- At most calls that wait are changed, and their futures failed. -/
  | idle {label : Label} (calls : List Call) (issues : issuedBy client label = [])
      (frame : ∀ message origin, label ≠ .frame message origin)
      (same : calls.map Call.seq = client.calls.map Call.seq)
      (results : ∀ call ∈ calls, ∀ message, call.future = .result message → call ∈ client.calls) :
      Move client label { client with calls } []
  /-- A frame goes to the callbacks. -/
  | dispatched (message : Json) (origin : Origin) :
      Move client (.frame message origin) client (LANLinkClient.dispatchAsync message)
  /-- A frame is handed to the call that its `seq` finds. -/
  | answered (message : Json) (origin : Origin) (value : Json) (seq : ℕ)
      (carries : message.get? "seq" = some value) (found : client.waitingFor value = some seq) :
      Move client (.frame message origin)
        ({ client with pending := client.pending.filter fun other => other != seq }.setFuture seq
          (.result message)) []
  /-- `listen` returns, at a frame because its `seq` cannot be looked up. -/
  | stopped {label : Label} (error : String) (issues : issuedBy client label = [])
      (frame : ∀ message origin, label = .frame message origin → ∃ value,
        message.get? "seq" = some value ∧ LANLinkClient.hashable value = false) :
      Move client label (client.failPending error) []
  /-- `listen` ends and leaves what is pending. -/
  | cancelled : Move client .listenCancelled client.cancelled []

/-- Whichever calls wait and become sent, all keep their numbers. -/
theorem seqs_sent (calls : List Call) (seq : ℕ) :
    (calls.map fun other =>
      if other.seq = seq ∧ ¬ other.future.done then { other with sent := true } else other).map
        Call.seq = calls.map Call.seq := by
  rw [List.map_map]
  refine List.map_congr_left fun call _ => ?_
  simp only [Function.comp_apply]
  split <;> rfl

/-- Whichever futures are set, the calls keep their numbers. -/
theorem seqs_refuture (calls : List Call) (picks : Call → Prop) [DecidablePred picks]
    (future : Future) :
    (calls.map fun call => if picks call then { call with future } else call).map Call.seq =
      calls.map Call.seq := by
  rw [List.map_map]
  refine List.map_congr_left fun call _ => ?_
  simp only [Function.comp_apply]
  split <;> rfl

/-- A call that holds a result while others are failed has held it before. -/
theorem mem_of_failed {calls : List Call} {picks : Call → Prop} [DecidablePred picks] {call : Call}
    {error : String} {message : Json}
    (member : call ∈ calls.map fun call =>
      if picks call then { call with future := .failed error } else call)
    (held : call.future = .result message) : call ∈ calls := by
  obtain ⟨before, inside, rfl⟩ := List.mem_map.mp member
  split at held
  · exact nomatch held
  · rename_i kept
    rw [if_neg kept]
    exact inside

theorem interrupt_move (client : LANLinkClient) (seq : ℕ) (error : String) :
    Move client (.interrupt seq error) (client.interrupt seq error) [] :=
  .idle _ rfl (fun _ _ => nofun) (seqs_refuture client.calls _ _)
    fun _ member _ held => mem_of_failed member held

/-- A suspended call goes on, and finishes if its future is done. -/
theorem resume_move {client : LANLinkClient} {call : Call} (member : call ∈ client.calls)
    {label : Label} (issues : issuedBy client label = [])
    (frame : ∀ message origin, label ≠ .frame message origin) :
    Move client label (client.resume call).1 (client.resume call).2 := by
  rw [LANLinkClient.resume]
  split
  · exact .idle _ issues frame rfl fun _ inside _ _ => inside
  · rename_i held
    refine .finished call _ member (fun message same => ?_) issues frame
    rw [held]
    cases same
    rfl
  · exact .finished call _ member nofun issues frame

theorem sent_move {client : LANLinkClient} {call : Call} (member : call ∈ client.calls) (seq : ℕ) :
    Move client (.sent seq) (client.sent call).1 (client.sent call).2 := by
  rw [LANLinkClient.sent]
  split
  · refine .idle _ rfl (fun _ _ => nofun) (seqs_sent client.calls call.seq) ?_
    intro other inside message held
    obtain ⟨before, old, rfl⟩ := List.mem_map.mp inside
    split at held
    · rename_i marked
      have result : before.future = .result message := held
      exact absurd rfl (result ▸ marked.2)
    · rename_i kept
      rw [if_neg kept]
      exact old
  · exact resume_move member rfl fun _ _ => nofun

theorem receive_move (client : LANLinkClient) (message : Json) (origin : Origin) :
    Move client (.frame message origin) (client.receive message).1 (client.receive message).2 := by
  rw [LANLinkClient.receive]
  split
  · exact .dispatched message origin
  · exact .dispatched message origin
  · rename_i value _ carries
    split
    · rename_i unhashable
      refine .stopped _ rfl fun other origin' same => ?_
      cases same
      exact ⟨value, carries, by simpa using unhashable⟩
    · split
      · rename_i seq found
        exact .answered message origin value seq carries found
      · exact .dispatched message origin

/-- Everything the client can do about a label. -/
theorem move_of_respond {client : LANLinkClient} (fresh : client.seq + 1 ∉ client.pending)
    (label : Label) : Move client label (respond client label).1 (respond client label).2 := by
  cases label with
  | call cmd =>
      rw [respond, LANLinkClient.call]
      simp only [if_neg fresh]
      exact .started cmd
  | sent seq =>
      rw [respond]
      split
      · rename_i found
        exact sent_move (List.mem_of_find?_eq_some found) seq
      · exact .idle _ rfl (fun _ _ => nofun) rfl fun _ inside _ _ => inside
  | interrupt seq error => exact interrupt_move client seq error
  | resume seq =>
      rw [respond]
      split
      · rename_i found
        exact resume_move (List.mem_of_find?_eq_some found) rfl fun _ _ => nofun
      · exact .idle _ rfl (fun _ _ => nofun) rfl fun _ inside _ _ => inside
  | abandon seq error =>
      rw [respond]
      split
      · rename_i found
        exact .finished _ _ (List.mem_of_find?_eq_some found) nofun rfl (fun _ _ => nofun)
      · exact .idle _ rfl (fun _ _ => nofun) rfl fun _ inside _ _ => inside
  | keepalive => exact .idle _ rfl (fun _ _ => nofun) rfl fun _ inside _ _ => inside
  | frame message origin => exact receive_move client message origin
  | unloadable message origin error => exact .stopped error rfl fun _ _ => nofun
  | receiveRaises error => exact .stopped error rfl fun _ _ => nofun
  | tunnelClosed => exact .stopped _ rfl fun _ _ => nofun
  | listenCancelled => exact .cancelled

/-! ## What a run preserves -/

/-- What holds in every state of an undisturbed session. -/
structure Invariant (state : State) : Prop where
  once : (ledger state).Balanced
  /-- A future holds the hub's reply to its call. -/
  results : ∀ call ∈ state.client.calls, ∀ message, call.future = .result message →
    Replied state call.seq message
  replies : ∀ label events, (label, events) ∈ state.history →
    ∀ seq message, .finished seq (.reply message) ∈ events → Replied state seq message
  pushes : ∀ message events, (.frame message .push, events) ∈ state.history →
    events = LANLinkClient.dispatchAsync message
  loads : ∀ message error events, (.unloadable message .push error, events) ∉ state.history
  drained : state.client.listening = false → state.client.pending = []
  /-- Sequence numbers are not used ahead of time. -/
  below : ∀ call ∈ state.issued, call.1 ≤ state.client.seq
  /-- Pending keys belong to calls that have been made. -/
  known : ∀ seq ∈ state.client.pending, seq ∈ state.issued.map Prod.fst

variable {state : State} {label : Label} {client : LANLinkClient} {events : List Event}

/-- The state after a label, with the client and the events that the move gives. -/
def record (state : State) (label : Label) (client : LANLinkClient) (events : List Event) : State where
  client := client
  issued := state.issued ++ issuedBy state.client label
  history := state.history ++ [(label, events)]

theorem fresh_seq (invariant : Invariant state) :
    state.client.seq + 1 ∉ state.issued.map Prod.fst := by
  intro member
  obtain ⟨call, inside, same⟩ := List.mem_map.mp member
  have := invariant.below call inside
  omega

theorem Replied.record {seq : ℕ} {message : Json} (replied : Replied state seq message)
    (label : Label) (client : LANLinkClient) (events : List Event) :
    Replied (record state label client events) seq message := by
  obtain ⟨⟨events', sent⟩, cmd, issued, answer⟩ := replied
  exact ⟨⟨events', List.mem_append_left _ sent⟩, cmd, List.mem_append_left _ issued, answer⟩

theorem finishedBy_append (history : List (Label × List Event)) (label : Label)
    (events : List Event) :
    finishedBy (history ++ [(label, events)]) = finishedBy history ++ events.filterMap finishes := by
  simp [finishedBy]

theorem dispatchAsync_finishes (message : Json) :
    (LANLinkClient.dispatchAsync message).filterMap finishes = [] := by
  rw [LANLinkClient.dispatchAsync]
  split
  · split <;> rfl
  · rfl

theorem balanced_record (invariant : Invariant state) (moves : Move state.client label client events) :
    (ledger (record state label client events)).Balanced := by
  have before : Ledger.Balanced ⟨state.issued.map Prod.fst, state.client.calls.map Call.seq,
    finishedBy state.history⟩ := invariant.once
  have unfinished : Ledger.Balanced ⟨state.issued.map Prod.fst, state.client.calls.map Call.seq,
      finishedBy state.history ++ []⟩ := by
    rw [List.append_nil]
    exact before
  simp only [ledger, record, finishedBy_append]
  cases moves with
  | started cmd =>
      rw [issuedBy, List.map_append, List.map_append]
      exact unfinished.issue (fresh_seq invariant)
  | finished call outcome member _ issues =>
      rw [issues, List.append_nil]
      have dropped : (state.client.finish call.seq outcome).1.calls.map Call.seq =
          (state.client.calls.map Call.seq).filter fun other => other != call.seq := by
        rw [List.filter_map]
        rfl
      rw [dropped]
      exact before.settle (List.mem_map_of_mem member)
  | idle calls issues _ same =>
      rw [issues, List.append_nil, same]
      exact unfinished
  | dispatched message origin =>
      rw [dispatchAsync_finishes]
      simpa [issuedBy] using unfinished
  | answered message origin value seq =>
      rw [LANLinkClient.setFuture, seqs_refuture]
      simpa [issuedBy] using unfinished
  | stopped error issues =>
      rw [issues, List.append_nil, LANLinkClient.failPending, seqs_refuture]
      exact unfinished
  | cancelled => simpa [issuedBy, LANLinkClient.cancelled] using unfinished

/-- A frame that finds a waiting call in an undisturbed session is the hub's reply to it. -/
theorem reply_of_found {message value : Json} {origin : Origin} {seq : ℕ}
    (possible : Possible state (.frame message origin))
    (undisturbed : Undisturbed state (.frame message origin))
    (carries : message.get? "seq" = some value) (found : state.client.waitingFor value = some seq) :
    origin = .reply seq ∧ ∃ cmd, (seq, cmd) ∈ state.issued ∧ Answers message seq cmd := by
  cases origin with
  | push => exact nomatch found.symm.trans (undisturbed value carries).2
  | reply number =>
      obtain ⟨-, cmd, issued, answer⟩ := possible
      cases Option.some.inj (carries.symm.trans answer.1)
      have key := List.find?_some found
      simp only [LANLinkClient.isKey, Bool.and_eq_true, beq_iff_eq, Nat.cast_inj] at key
      rw [← key.1]
      exact ⟨rfl, cmd, issued, answer⟩

/-- No frame of an undisturbed session has a `seq` that cannot be looked up. -/
theorem hashable_of_undisturbed {message value : Json} {origin : Origin}
    (possible : Possible state (.frame message origin))
    (undisturbed : Undisturbed state (.frame message origin))
    (carries : message.get? "seq" = some value) : LANLinkClient.hashable value = true := by
  cases origin with
  | push => exact (undisturbed value carries).1
  | reply number =>
      obtain ⟨-, cmd, -, answer⟩ := possible
      cases Option.some.inj (carries.symm.trans answer.1)
      rfl

theorem results_record (invariant : Invariant state) (possible : Possible state label)
    (undisturbed : Undisturbed state label) (moves : Move state.client label client events) :
    ∀ call ∈ client.calls, ∀ message, call.future = .result message →
      Replied (record state label client events) call.seq message := by
  intro call member message held
  have old : call ∈ state.client.calls →
      Replied (record state label client events) call.seq message :=
    fun inside => (invariant.results call inside message held).record label client events
  cases moves with
  | started cmd =>
      rcases List.mem_append.mp member with inside | new
      · exact old inside
      · rw [List.mem_singleton.mp new] at held
        exact nomatch held
  | finished => exact old (List.mem_filter.mp member).1
  | idle calls _ _ _ results => exact old (results call member message held)
  | dispatched => exact old member
  | answered message' origin value seq carries found =>
      obtain ⟨before, inside, rfl⟩ := List.mem_map.mp member
      split at held
      · rename_i own
        cases held
        obtain ⟨rfl, cmd, issued, answer⟩ := reply_of_found possible undisturbed carries found
        rw [if_pos own, own]
        exact ⟨⟨[], List.mem_append_right _ (List.mem_singleton.mpr rfl)⟩, cmd,
          List.mem_append_left _ issued, answer⟩
      · rename_i other
        rw [if_neg other] at old ⊢
        exact old inside
  | stopped => exact old (mem_of_failed member held)
  | cancelled => exact old member

theorem replies_of_move (invariant : Invariant state) (moves : Move state.client label client events)
    {seq : ℕ} {message : Json} (finished : .finished seq (.reply message) ∈ events) :
    Replied state seq message := by
  cases moves with
  | finished call outcome member held =>
      simp only [List.mem_singleton, Event.finished.injEq] at finished
      obtain ⟨rfl, rfl⟩ := finished
      exact invariant.results call member message (held message rfl)
  | dispatched message' origin =>
      have finishing : seq ∈ (LANLinkClient.dispatchAsync message').filterMap finishes :=
        List.mem_filterMap.mpr ⟨_, finished, rfl⟩
      rw [dispatchAsync_finishes] at finishing
      exact nomatch finishing
  | started => exact nomatch finished
  | idle => exact nomatch finished
  | answered => exact nomatch finished
  | stopped => exact nomatch finished
  | cancelled => exact nomatch finished

theorem push_of_move {message : Json} (possible : Possible state (.frame message .push))
    (undisturbed : Undisturbed state (.frame message .push))
    (moves : Move state.client (.frame message .push) client events) :
    events = LANLinkClient.dispatchAsync message := by
  cases moves with
  | finished _ _ _ _ _ frame => exact absurd rfl (frame message .push)
  | idle _ _ frame => exact absurd rfl (frame message .push)
  | dispatched => rfl
  | answered _ _ value seq carries found =>
      exact nomatch found.symm.trans (undisturbed value carries).2
  | stopped error issues frame =>
      obtain ⟨value, carries, unhashable⟩ := frame message .push rfl
      rw [hashable_of_undisturbed possible undisturbed carries] at unhashable
      exact nomatch unhashable

theorem drained_record (invariant : Invariant state) (undisturbed : Undisturbed state label)
    (moves : Move state.client label client events) (returned : client.listening = false) :
    client.pending = [] := by
  cases moves with
  | started cmd => exact nomatch returned.symm.trans undisturbed
  | finished call =>
      have empty := invariant.drained returned
      simp [LANLinkClient.finish, empty]
  | idle => exact invariant.drained returned
  | dispatched => exact invariant.drained returned
  | answered =>
      have empty := invariant.drained returned
      simp [LANLinkClient.setFuture, empty]
  | stopped => rfl
  | cancelled => exact undisturbed

theorem below_record (invariant : Invariant state) (moves : Move state.client label client events) :
    ∀ call ∈ (record state label client events).issued, call.1 ≤ client.seq := by
  intro call member
  have old : issuedBy state.client label = [] → call.1 ≤ state.client.seq := by
    intro issues
    simp only [record, issues, List.append_nil] at member
    exact invariant.below call member
  cases moves with
  | started cmd =>
      rcases List.mem_append.mp member with inside | new
      · exact (invariant.below call inside).trans (Nat.le_succ _)
      · rw [List.mem_singleton.mp new]
  | finished _ _ _ _ issues => exact old issues
  | idle _ issues => exact old issues
  | dispatched => exact old rfl
  | answered => exact old rfl
  | stopped _ issues => exact old issues
  | cancelled => exact old rfl

theorem known_record (invariant : Invariant state) (moves : Move state.client label client events) :
    ∀ seq ∈ client.pending, seq ∈ (record state label client events).issued.map Prod.fst := by
  intro seq member
  rw [record, List.map_append, List.mem_append]
  cases moves with
  | started cmd =>
      refine (List.mem_append.mp member).imp (invariant.known seq) fun new => ?_
      exact List.mem_map.mpr ⟨_, List.mem_singleton.mpr rfl, (List.mem_singleton.mp new).symm⟩
  | finished => exact Or.inl (invariant.known seq (List.mem_filter.mp member).1)
  | idle => exact Or.inl (invariant.known seq member)
  | dispatched => exact Or.inl (invariant.known seq member)
  | answered => exact Or.inl (invariant.known seq (List.mem_filter.mp member).1)
  | stopped => exact nomatch member
  | cancelled => exact Or.inl (invariant.known seq member)

theorem invariant_record (invariant : Invariant state) (possible : Possible state label)
    (undisturbed : Undisturbed state label) (moves : Move state.client label client events) :
    Invariant (record state label client events) where
  once := balanced_record invariant moves
  results := results_record invariant possible undisturbed moves
  replies label' events' member seq message finished := by
    simp only [record, List.mem_append, List.mem_singleton, Prod.mk.injEq] at member
    rcases member with old | ⟨rfl, rfl⟩
    · exact (invariant.replies label' events' old seq message finished).record _ _ _
    · exact (replies_of_move invariant moves finished).record _ _ _
  pushes message events' member := by
    simp only [record, List.mem_append, List.mem_singleton, Prod.mk.injEq] at member
    rcases member with old | ⟨rfl, rfl⟩
    · exact invariant.pushes message events' old
    · exact push_of_move possible undisturbed moves
  loads message error events' member := by
    simp only [record, List.mem_append, List.mem_singleton, Prod.mk.injEq] at member
    rcases member with old | ⟨rfl, rfl⟩
    · exact invariant.loads message error events' old
    · exact undisturbed
  drained returned := drained_record invariant undisturbed moves returned
  below := below_record invariant moves
  known := known_record invariant moves

theorem resume_of_done {call : Call} (done : call.future.done = true) :
    ∃ outcome, (client.resume call).2 = [.finished call.seq outcome] := by
  rw [LANLinkClient.resume]
  cases future : call.future with
  | waiting => simp [future, Future.done] at done
  | result message => exact ⟨_, rfl⟩
  | failed error => exact ⟨_, rfl⟩

/-- A call that is suspended in `tunnel.send` goes on when that ends. -/
theorem send_ends {call : Call} (member : call ∈ client.calls) :
    (∀ error, (respond client (.abandon call.seq error)).2 =
      [.finished call.seq (.exception error)]) ∧
    ((∃ outcome, (respond client (.sent call.seq)).2 = [.finished call.seq outcome]) ∨
      ∃ later ∈ (respond client (.sent call.seq)).1.calls,
        later.seq = call.seq ∧ later.sent = true) := by
  have absent : (client.calls.find? fun other => other.seq == call.seq) ≠ none := fun none =>
    List.find?_eq_none.mp none call member (beq_self_eq_true _)
  obtain ⟨other, found⟩ := Option.ne_none_iff_exists'.mp absent
  have own : other.seq = call.seq := by simpa using List.find?_some found
  simp only [respond, found]
  rw [← own]
  refine ⟨fun error => rfl, ?_⟩
  cases future : other.future with
  | waiting =>
      refine .inr ⟨{ other with sent := true }, ?_, rfl, rfl⟩
      rw [LANLinkClient.sent, future]
      refine List.mem_map.mpr ⟨other, List.mem_of_find?_eq_some found, ?_⟩
      rw [if_pos ⟨rfl, by simp [future, Future.done]⟩, future]
  | result message =>
      refine .inl ⟨.reply message, ?_⟩
      simp only [LANLinkClient.sent, future, LANLinkClient.resume]
      rfl
  | failed error =>
      refine .inl ⟨.exception error, ?_⟩
      simp only [LANLinkClient.sent, future, LANLinkClient.resume]
      rfl

/-- A call whose future has been reached by its timeout finishes when it is resumed. -/
theorem timeout_finishes {call : Call} (member : call ∈ client.calls) :
    ∃ outcome, (respond (client.interrupt call.seq "timed out") (.resume call.seq)).2 =
      [.finished call.seq outcome] := by
  have reached : ∀ other ∈ (client.interrupt call.seq "timed out").calls,
      other.seq = call.seq → other.future.done = true := by
    intro other inside own
    obtain ⟨before, -, rfl⟩ := List.mem_map.mp inside
    split
    · rfl
    · rename_i kept
      rw [if_neg kept] at own
      by_contra waits
      exact kept ⟨own, waits⟩
  rw [respond]
  split
  · rename_i other found
    have own : other.seq = call.seq := by
      have key := List.find?_some found
      rwa [beq_iff_eq] at key
    rw [← own]
    exact resume_of_done (reached other (List.mem_of_find?_eq_some found) own)
  · rename_i absent
    refine absurd ?_ (List.find?_eq_none.mp absent _ (List.mem_map_of_mem member))
    rw [beq_iff_eq]
    split <;> rfl

theorem dispatchAsync_of_report {message : Json} {report : LANReport}
    (accepted : LANReport.fromEntity message = some report) :
    LANLinkClient.dispatchAsync message = [.report report] := by
  have isReport : message.get? "cmd" = some (.string "report") := by
    rw [LANReport.fromEntity] at accepted
    split at accepted
    · assumption
    · exact nomatch accepted
  simp [LANLinkClient.dispatchAsync, isReport, Json.strictEq, accepted]

theorem dispatchAsync_of_not_report {message : Json} (other : ¬ IsReport message) :
    LANLinkClient.dispatchAsync message = [.async message] := by
  rw [LANLinkClient.dispatchAsync, if_neg]
  intro named
  obtain ⟨cmd, carries, same⟩ := (Option.any_eq_true _ _).mp named
  exact other (carries.trans (congrArg some (Json.eq_of_strictEq same)))

theorem Invariant.correlated (invariant : Invariant state) : Correlated state where
  once := invariant.once
  sends _ member _ := send_ends member
  timeouts _ member _ := timeout_finishes member
  replies := invariant.replies
  pushes message events member := by
    rw [invariant.pushes message events member]
    exact ⟨fun report => dispatchAsync_of_report, dispatchAsync_of_not_report⟩
  loads := invariant.loads
  drained := invariant.drained

/-- In every run in which no pushed frame disturbs a call or ends `listen`, nobody calls after `listen`
has returned and it is not cancelled while a call is pending, every state keeps the session's
promises. -/
theorem client_session_correlated {labels : List Label} {state : State}
    (run : machine.Run Undisturbed labels state) : Correlated state := by
  refine Invariant.correlated (run.invariant ?_ ?_)
  · rintro ⟨client, issued, history⟩ ⟨pending, calls, listening, rfl, rfl⟩
    simp only at pending calls listening
    refine ⟨?_, ?_, nofun, nofun, nofun, fun _ => pending, nofun, ?_⟩
    · simp only [ledger, calls]
      exact Ledger.balanced_nil
    · rw [calls]
      exact nofun
    · rw [pending]
      exact nofun
  · rintro state label after invariant undisturbed ⟨possible, rfl⟩
    refine invariant_record invariant possible undisturbed (move_of_respond ?_ label)
    exact fun pending => fresh_seq invariant (invariant.known _ pending)

/-- A client whose `listen` has been started. -/
def start : State := ⟨⟨0, [], [], true⟩, [], []⟩

/-- The hub accepts the check-in. -/
def checkinDone : Json :=
  .object [("seq", .number 1), ("type", .string "session"), ("cmd", .string "checkin_done"),
    ("data", .object [("code", .number 0)])]

/-- The hub acknowledges a keepalive, under the `seq` that every keepalive has. -/
def keepaliveDone : Json :=
  .object [("seq", .number 1), ("type", .string "session"), ("cmd", .string "keepalive_done")]

/-- The check-in has been sent and a keepalive after it. -/
def checkingIn : State := next (next start (.call "checkin")) .keepalive

theorem run_checkingIn {good : State → Label → Prop} (first : good start (.call "checkin"))
    (second : good (next start (.call "checkin")) .keepalive) :
    machine.Run good ([] ++ [.call "checkin"] ++ [.keepalive]) checkingIn :=
  .step (.step (.start ⟨rfl, rfl, rfl, rfl, rfl⟩) first ⟨trivial, rfl⟩) second ⟨trivial, rfl⟩

/-- The message of the check-in has been sent. -/
def checkinSent : State := next checkingIn (.sent 1)

theorem client_session_correlated_checkin :
    Correlated (next (next checkinSent (.frame checkinDone (.reply 1))) (.resume 1)) :=
  have sent := (run_checkingIn rfl trivial).extend (.sent 1) trivial
    ⟨⟨_, List.mem_singleton.mpr rfl, rfl, rfl⟩, rfl⟩
  have replied := sent.extend (.frame checkinDone (.reply 1)) trivial
    ⟨⟨rfl, "checkin", List.mem_singleton.mpr rfl, rfl, rfl⟩, rfl⟩
  client_session_correlated (replied.extend (.resume 1) trivial
    ⟨⟨_, List.mem_singleton.mpr rfl, rfl, rfl⟩, rfl⟩)

/-- The acknowledgement of a keepalive is handed to the check-in as its reply, and a check-in is left
pending when `listen` is cancelled. -/
theorem keepalive_taken_for_reply :
    (∃ labels state, machine.Run (fun _ _ => True) labels state ∧
      labels = [.call "checkin", .keepalive, .frame keepaliveDone .push] ∧ ¬ Correlated state) ∧
    ∃ labels state, machine.Run (fun _ _ => True) labels state ∧
      labels = [.call "checkin", .listenCancelled] ∧ ¬ Correlated state := by
  constructor
  · refine ⟨_, next checkingIn (.frame keepaliveDone .push),
      (run_checkingIn trivial trivial).extend (.frame keepaliveDone .push) trivial
        ⟨⟨rfl, _, rfl⟩, rfl⟩, rfl, fun correlated => ?_⟩
    have other : ¬ IsReport keepaliveDone := by
      have cmd : keepaliveDone.get? "cmd" = some (.string "keepalive_done") := rfl
      simp [IsReport, cmd]
    have heard := (correlated.pushes keepaliveDone [] (List.mem_append_right _
      (List.mem_singleton.mpr rfl))).2 other
    exact nomatch heard
  · have begun : machine.Run (fun _ _ => True) [] start := .start ⟨rfl, rfl, rfl, rfl, rfl⟩
    have called := begun.extend (.call "checkin") trivial ⟨trivial, rfl⟩
    refine ⟨_, _, called.extend .listenCancelled trivial ⟨rfl, rfl⟩, rfl, fun correlated => ?_⟩
    have left := correlated.drained rfl
    cases left

end Correlation
end Reference
end AqaraLanLink
