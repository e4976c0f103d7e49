import AqaraLanLink.Hub
import AqaraLanLink.Library.Fallible
import AqaraLanLink.Library.Ledger
import AqaraLanLink.Library.Runs
import AqaraLanLink.Port.Tunnel

/-!
# Requests and answers in the port

The session of a tunnel as a labelled transition system: requests, keepalives, hub messages, send
failures, timeouts and closes in any order.  A pending request is settled once, and with its own
answer as long as the hub pushes nothing under its sequence number and nothing that throws.
-/

namespace AqaraLanLink
namespace Port
namespace Correlation

open Library

/-! ## The machine -/

/-- What happens to a tunnel. -/
inductive Label where
  /-- The handshake derives the session key. -/
  | opened (key : List UInt8)
  /-- Someone calls `request`. -/
  | request (cmd : String) (data : Json)
  /-- The keepalive timer fires. -/
  | keepalive (now : ℕ)
  /-- A session frame with this message arrives. -/
  | hub (message : Json) (origin : Origin)
  /-- The write of a request's frame fails. -/
  | sendFailed (seq : ℕ) (error : String)
  /-- The timer of a request fires. -/
  | timeout (seq : ℕ)
  /-- Someone calls `close`. -/
  | close
  /-- The socket closes. -/
  | socketClose
  /-- A `message` listener throws at the message that it has just been given. -/
  | listenerThrows

/-- A tunnel and its history. -/
structure State where
  /-- The tunnel. -/
  tunnel : Tunnel
  /-- The requests that were given a sequence number. -/
  issued : List Waiting
  /-- What has happened and what the tunnel did about it. -/
  history : List (Label × List Effect)
  /-- Whether the socket has closed. -/
  closed : Bool
  /-- Whether an exception has left the callback of the socket. -/
  thrown : Bool

/-- What the tunnel does when something happens. -/
def respond (tunnel : Tunnel) : Label → Except String (Tunnel × List Effect)
  | .opened key => .ok ({ tunnel with sessionKey := some key }, [])
  | .request cmd data => .ok (tunnel.request cmd data)
  | .keepalive now => .ok (tunnel.keepalive now)
  | .hub message _ => do
      let (tunnel, effect) ← tunnel.dispatch message
      pure (tunnel, [effect])
  | .sendFailed seq error => .ok (tunnel.sendFailed seq error)
  | .timeout seq => .ok (tunnel.timeout seq)
  | .close => .ok tunnel.close
  | .socketClose => .ok tunnel.onClose
  | .listenerThrows => .ok (tunnel, [])

/-- The request that a label adds to those with a sequence number. -/
def issuedBy (tunnel : Tunnel) : Label → List Waiting
  | .request cmd _ => if tunnel.sessionKey.isSome then [⟨tunnel.seq + 1, cmd⟩] else []
  | _ => []

/-- What can happen in a state. -/
def Possible (state : State) : Label → Prop
  | .hub message (.reply seq) => ∃ waiting ∈ state.issued,
      waiting.seq = seq ∧ Answers message seq waiting.cmd
  | .socketClose => state.closed = false
  | .listenerThrows => ∃ label message, state.history.getLast? = some (label, [.message message])
  | _ => True

/-- Whether a label closes the socket. -/
def closes : Label → Bool
  | .socketClose => true
  | _ => false

/-- Whether a label is an exception that nobody catches. -/
def throws : Label → Bool
  | .listenerThrows => true
  | _ => false

/-- The state after a label and the tunnel's response. -/
def record (state : State) (label : Label) (tunnel : Tunnel) (effects : List Effect) : State where
  tunnel := tunnel
  issued := state.issued ++ issuedBy state.tunnel label
  history := state.history ++ [(label, effects)]
  closed := state.closed || closes label
  thrown := state.thrown || throws label

/-- What a label does.  `onFrame` throws at the message `null`, and the frames behind it are not read
before more bytes arrive. -/
def perform (state : State) (label : Label) : State :=
  match respond state.tunnel label with
  | .ok (tunnel, effects) => record state label tunnel effects
  | .error _ => { record state label state.tunnel [] with thrown := true }

/-- The session: a tunnel starts without requests. -/
def machine : Machine State Label where
  initial state := state.tunnel.pending = [] ∧ state.issued = [] ∧ state.history = [] ∧
    state.closed = false ∧ state.thrown = false
  step state label next := Possible state label ∧ next = perform state label

/-! ## What a session promises -/

/-- The sequence number of the request that an effect settles. -/
def settles : Effect → Option ℕ
  | .resolved seq _ => some seq
  | .rejected seq _ => some seq
  | _ => none

/-- The settlements of a run, in order. -/
def settledBy (history : List (Label × List Effect)) : List ℕ :=
  (history.flatMap Prod.snd).filterMap settles

/-- The sequence numbers of a run as tickets. -/
def ledger (state : State) : Ledger ℕ where
  issued := state.issued.map Waiting.seq
  waiting := state.tunnel.pending.map Waiting.seq
  settled := settledBy state.history

/-- What the session of a tunnel promises. -/
structure Correlated (state : State) : Prop where
  /-- A request is refused at once, or it has a sequence number of its own. -/
  requests : ∀ cmd data effects, (.request cmd data, effects) ∈ state.history →
    (∃ error, effects = [.refused error]) ∨
      ∃ waiting ∈ state.issued, waiting.cmd = cmd ∧
        (effects = [.sent (Tunnel.envelope waiting.seq cmd data)] ∨
          ∃ error, effects = [.rejected waiting.seq error])
  /-- A request with a sequence number is pending or has been settled, once. -/
  once : (ledger state).Balanced
  /-- A request that is pending is settled when its timer fires. -/
  timers : ∀ waiting ∈ state.tunnel.pending,
    ∃ error, (state.tunnel.timeout waiting.seq).2 = [.rejected waiting.seq error]
  /-- A request resolves with the hub's answer to it. -/
  answers : ∀ label effects, (label, effects) ∈ state.history →
    ∀ seq message, .resolved seq message ∈ effects →
      label = .hub message (.reply seq) ∧
        ∃ waiting ∈ state.issued, waiting.seq = seq ∧ Answers message seq waiting.cmd
  /-- A report reaches the message listeners, once. -/
  reports : ∀ message origin effects, (.hub message origin, effects) ∈ state.history →
    IsReport message → effects = [.message message]
  /-- Nothing is pending once the socket has closed. -/
  drained : state.closed = true → state.tunnel.pending = []
  /-- No exception leaves the callback of the socket, where nobody catches it. -/
  caught : state.thrown = false

/-- Nothing that the hub sends on its own is `null` or carries the sequence number of a pending
request, and no listener throws at it. -/
def Undisturbed (state : State) : Label → Prop
  | .hub message .push => message ≠ .null ∧ state.tunnel.waitingFor (message.get? "seq") = none
  | .listenerThrows => False
  | _ => True

/-! ## What a step can do -/

/-- The ways in which a label can change a tunnel. -/
inductive Move (tunnel : Tunnel) : Label → Tunnel → List Effect → Prop
  /-- Nothing pending changes and nothing is settled. -/
  | idle {label : Label} {tunnel' : Tunnel} {effects : List Effect}
      (issues : issuedBy tunnel label = []) (stays : closes label = false)
      (hub : ∀ message origin, label ≠ .hub message origin)
      (request : ∀ cmd data, label = .request cmd data → ∃ error, effects = [.refused error])
      (pending : tunnel'.pending = tunnel.pending) (seq : tunnel.seq ≤ tunnel'.seq)
      (writable : tunnel'.writable = true → tunnel.writable = true)
      (settles : effects.filterMap settles = []) : Move tunnel label tunnel' effects
  /-- A request is sent. -/
  | sent (cmd : String) (data : Json) (writable : tunnel.writable = true)
      (opened : tunnel.sessionKey.isSome) :
      Move tunnel (.request cmd data)
        { tunnel with
          seq := tunnel.seq + 1
          pending := tunnel.pending ++ [⟨tunnel.seq + 1, cmd⟩] }
        [.sent (Tunnel.envelope (tunnel.seq + 1) cmd data)]
  /-- A request cannot be sent. -/
  | bounced (cmd : String) (data : Json) (error : String) (opened : tunnel.sessionKey.isSome) :
      Move tunnel (.request cmd data) { tunnel with seq := tunnel.seq + 1 }
        [.rejected (tunnel.seq + 1) error]
  /-- A pending request is rejected. -/
  | rejected {label : Label} (waiting : Waiting) (error : String)
      (pending : waiting ∈ tunnel.pending) (issues : issuedBy tunnel label = [])
      (stays : closes label = false) (hub : ∀ message origin, label ≠ .hub message origin)
      (request : ∀ cmd data, label ≠ .request cmd data) :
      Move tunnel label
        { tunnel with pending := tunnel.pending.filter fun other => other.seq != waiting.seq }
        [.rejected waiting.seq error]
  /-- A message settles a pending request. -/
  | resolved (message : Json) (origin : Origin) (waiting : Waiting)
      (found : tunnel.waitingFor (message.get? "seq") = some waiting) :
      Move tunnel (.hub message origin)
        { tunnel with pending := tunnel.pending.filter fun other => other.seq != waiting.seq }
        [.resolved waiting.seq message]
  /-- A message goes to the listeners. -/
  | message (message : Json) (origin : Origin)
      (unasked : tunnel.waitingFor (message.get? "seq") = none) :
      Move tunnel (.hub message origin) tunnel [.message message]
  /-- The socket closes and every pending request is rejected. -/
  | drained : Move tunnel .socketClose tunnel.onClose.1 tunnel.onClose.2

theorem settle_cases (tunnel : Tunnel) (seq : ℕ) (effect : Effect) :
    (∃ waiting ∈ tunnel.pending, waiting.seq = seq ∧ tunnel.settle seq effect =
      ({ tunnel with pending := tunnel.pending.filter fun other => other.seq != waiting.seq },
        [effect])) ∨ tunnel.settle seq effect = (tunnel, []) := by
  rw [Tunnel.settle]
  split
  · rename_i present
    obtain ⟨waiting, member, same⟩ := List.any_eq_true.mp present
    rw [beq_iff_eq] at same
    exact Or.inl ⟨waiting, member, same, by rw [same]⟩
  · exact Or.inr rfl

/-- A request that has just been given a number is settled, and nothing else changes. -/
theorem settle_fresh {tunnel : Tunnel} {seq : ℕ}
    (fresh : ∀ waiting ∈ tunnel.pending, waiting.seq ≠ seq) (cmd : String) (effect : Effect) :
    Tunnel.settle { tunnel with seq, pending := tunnel.pending ++ [⟨seq, cmd⟩] } seq effect =
      ({ tunnel with seq }, [effect]) := by
  have kept : tunnel.pending.filter (fun waiting => waiting.seq != seq) = tunnel.pending :=
    List.filter_eq_self.mpr fun waiting member => bne_iff_ne.mpr (fresh waiting member)
  simp [Tunnel.settle, kept]

theorem mem_pending_of_waitingFor {tunnel : Tunnel} {seq : Option Json} {waiting : Waiting}
    (found : tunnel.waitingFor seq = some waiting) :
    waiting ∈ tunnel.pending ∧ seq = some (.number waiting.seq) := by
  cases seq with
  | none => exact nomatch found
  | some value =>
      cases value with
      | number number =>
          have same := List.find?_some found
          rw [beq_iff_eq] at same
          exact ⟨List.mem_of_find?_eq_some found, by rw [same]⟩
      | _ => exact nomatch found

theorem request_move {tunnel : Tunnel} (fresh : ∀ waiting ∈ tunnel.pending, waiting.seq ≤ tunnel.seq)
    (cmd : String) (data : Json) :
    Move tunnel (.request cmd data) (tunnel.request cmd data).1 (tunnel.request cmd data).2 := by
  have distinct : ∀ waiting ∈ tunnel.pending, waiting.seq ≠ tunnel.seq + 1 :=
    fun waiting member => by have := fresh waiting member; omega
  rw [Tunnel.request]
  split
  · rename_i opened
    exact .idle (by simp [issuedBy, opened]) rfl (fun _ _ => nofun) (fun _ _ _ => ⟨_, rfl⟩) rfl
      le_rfl id rfl
  · rename_i opened
    have isOpen : tunnel.sessionKey.isSome := by simp [opened]
    simp only [settle_fresh distinct]
    split
    · exact .bounced cmd data _ isOpen
    · split
      · exact .bounced cmd data _ isOpen
      · rename_i writable
        exact .sent cmd data (by simpa using writable) isOpen

theorem keepalive_move (tunnel : Tunnel) (now : ℕ) :
    Move tunnel (.keepalive now) (tunnel.keepalive now).1 (tunnel.keepalive now).2 := by
  rw [Tunnel.keepalive]
  split
  · exact .idle rfl rfl (fun _ _ => nofun) (fun _ _ => nofun) rfl (Nat.le_succ _) id rfl
  · split
    · exact .idle rfl rfl (fun _ _ => nofun) (fun _ _ => nofun) rfl (Nat.le_succ _) id rfl
    · exact .idle rfl rfl (fun _ _ => nofun) (fun _ _ => nofun) rfl (Nat.le_succ _) id rfl

theorem settle_move (tunnel : Tunnel) {label : Label} (issues : issuedBy tunnel label = [])
    (stays : closes label = false) (hub : ∀ message origin, label ≠ .hub message origin)
    (request : ∀ cmd data, label ≠ .request cmd data) (seq : ℕ) (error : String) :
    Move tunnel label (tunnel.settle seq (.rejected seq error)).1
      (tunnel.settle seq (.rejected seq error)).2 := by
  rcases settle_cases tunnel seq (.rejected seq error) with ⟨waiting, member, same, settled⟩ | settled
  · rw [settled, ← same]
    exact .rejected waiting error member issues stays hub request
  · rw [settled]
    exact .idle issues stays hub (fun cmd data same => absurd same (request cmd data)) rfl le_rfl id rfl

theorem timeout_move (tunnel : Tunnel) (seq : ℕ) :
    Move tunnel (.timeout seq) (tunnel.timeout seq).1 (tunnel.timeout seq).2 := by
  rw [Tunnel.timeout]
  split
  · have other : ∀ message origin, Label.timeout seq ≠ .hub message origin := fun _ _ => nofun
    exact settle_move tunnel rfl rfl other (fun _ _ => nofun) seq _
  · exact .idle rfl rfl (fun _ _ => nofun) (fun _ _ => nofun) rfl le_rfl id rfl

theorem dispatch_move {tunnel tunnel' : Tunnel} {message : Json} {effect : Effect} {origin : Origin}
    (dispatched : tunnel.dispatch message = .ok (tunnel', effect)) :
    Move tunnel (.hub message origin) tunnel' [effect] := by
  have present : message ≠ .null := by
    rintro rfl
    exact nomatch dispatched
  rw [Tunnel.dispatch_of_ne_null present] at dispatched
  cases found : tunnel.waitingFor (message.get? "seq") with
  | some waiting =>
      rw [found] at dispatched
      cases dispatched
      exact .resolved message origin waiting found
  | none =>
      rw [found] at dispatched
      cases dispatched
      exact .message message origin found

/-- Everything the tunnel can do about a label. -/
theorem move_of_respond {tunnel tunnel' : Tunnel} {label : Label} {effects : List Effect}
    (fresh : ∀ waiting ∈ tunnel.pending, waiting.seq ≤ tunnel.seq)
    (responds : respond tunnel label = .ok (tunnel', effects)) : Move tunnel label tunnel' effects := by
  cases label with
  | opened key =>
      cases responds
      exact .idle rfl rfl (fun _ _ => nofun) (fun _ _ => nofun) rfl le_rfl id rfl
  | request cmd data =>
      have moves := request_move fresh cmd data
      rwa [Except.ok.inj responds] at moves
  | keepalive now =>
      have moves := keepalive_move tunnel now
      rwa [Except.ok.inj responds] at moves
  | hub message origin =>
      obtain ⟨⟨_, effect⟩, dispatched, done⟩ := bind_eq_ok_iff.mp responds
      cases done
      exact dispatch_move dispatched
  | sendFailed seq error =>
      have other : ∀ message origin, Label.sendFailed seq error ≠ .hub message origin :=
        fun _ _ => nofun
      have moves := settle_move tunnel rfl rfl other (fun _ _ => nofun) seq error
      rwa [← Tunnel.sendFailed, Except.ok.inj responds] at moves
  | timeout seq =>
      have moves := timeout_move tunnel seq
      rwa [Except.ok.inj responds] at moves
  | close =>
      cases responds
      refine .idle rfl rfl (fun _ _ => nofun) (fun _ _ => nofun) rfl le_rfl nofun ?_
      cases tunnel.hasSocket <;> rfl
  | socketClose =>
      cases responds
      exact .drained
  | listenerThrows =>
      cases responds
      exact .idle rfl rfl (fun _ _ => nofun) (fun _ _ => nofun) rfl le_rfl id rfl

theorem settledBy_append (history : List (Label × List Effect)) (label : Label)
    (effects : List Effect) :
    settledBy (history ++ [(label, effects)]) = settledBy history ++ effects.filterMap settles := by
  simp [settledBy]

theorem map_seq_filter (pending : List Waiting) (seq : ℕ) :
    (pending.filter fun other => other.seq != seq).map Waiting.seq =
      (pending.map Waiting.seq).filter fun other => other != seq := by
  rw [List.filter_map]
  rfl

/-- What holds in every state of a session that the hub does not disturb. -/
structure Invariant (state : State) : Prop where
  requests : ∀ cmd data effects, (.request cmd data, effects) ∈ state.history →
    (∃ error, effects = [.refused error]) ∨
      ∃ waiting ∈ state.issued, waiting.cmd = cmd ∧
        (effects = [.sent (Tunnel.envelope waiting.seq cmd data)] ∨
          ∃ error, effects = [.rejected waiting.seq error])
  once : (ledger state).Balanced
  answers : ∀ label effects, (label, effects) ∈ state.history →
    ∀ seq message, .resolved seq message ∈ effects →
      label = .hub message (.reply seq) ∧
        ∃ waiting ∈ state.issued, waiting.seq = seq ∧ Answers message seq waiting.cmd
  reports : ∀ message origin effects, (.hub message origin, effects) ∈ state.history →
    IsReport message → effects = [.message message]
  drained : state.closed = true → state.tunnel.pending = [] ∧ state.tunnel.writable = false
  /-- Sequence numbers are not used ahead of time. -/
  below : ∀ waiting ∈ state.issued, waiting.seq ≤ state.tunnel.seq
  /-- Pending requests have been issued. -/
  known : ∀ waiting ∈ state.tunnel.pending, waiting ∈ state.issued
  caught : state.thrown = false

variable {state : State} {label : Label} {tunnel : Tunnel} {effects : List Effect}

theorem fresh_seq (invariant : Invariant state) :
    state.tunnel.seq + 1 ∉ state.issued.map Waiting.seq := by
  intro member
  obtain ⟨waiting, inside, same⟩ := List.mem_map.mp member
  have := invariant.below waiting inside
  omega

theorem issuedBy_request (opened : state.tunnel.sessionKey.isSome) (cmd : String) (data : Json) :
    issuedBy state.tunnel (.request cmd data) = [⟨state.tunnel.seq + 1, cmd⟩] := if_pos opened

theorem issuedBy_hub (tunnel : Tunnel) (message : Json) (origin : Origin) :
    issuedBy tunnel (.hub message origin) = [] := rfl

theorem issuedBy_socketClose (tunnel : Tunnel) : issuedBy tunnel .socketClose = [] := rfl

theorem balanced_record (invariant : Invariant state) (moves : Move state.tunnel label tunnel effects) :
    (ledger (record state label tunnel effects)).Balanced := by
  have before : Ledger.Balanced ⟨state.issued.map Waiting.seq,
    state.tunnel.pending.map Waiting.seq, settledBy state.history⟩ := invariant.once
  simp only [ledger, record, settledBy_append]
  cases moves with
  | idle issues _ _ _ pending _ _ settles =>
      rw [issues, pending, settles, List.append_nil, List.append_nil]
      exact before
  | sent cmd data _ opened =>
      rw [issuedBy_request opened, List.map_append, List.map_append]
      exact (List.append_nil (settledBy state.history)).symm ▸ before.issue (fresh_seq invariant)
  | bounced cmd data error opened =>
      rw [issuedBy_request opened, List.map_append]
      exact before.issueSettled (fresh_seq invariant)
  | rejected waiting error pending issues =>
      rw [issues, List.append_nil, map_seq_filter]
      exact before.settle (List.mem_map_of_mem pending)
  | resolved message origin waiting found =>
      rw [issuedBy_hub, List.append_nil, map_seq_filter]
      exact before.settle (List.mem_map_of_mem (mem_pending_of_waitingFor found).1)
  | message message origin unasked =>
      rw [issuedBy_hub, List.append_nil]
      exact (List.append_nil (settledBy state.history)).symm ▸ before
  | drained =>
      have all : state.tunnel.onClose.2.filterMap settles =
          state.tunnel.pending.map Waiting.seq := by
        simp [Tunnel.onClose, settles, List.filterMap_map, Function.comp_def]
      rw [all, issuedBy_socketClose, List.append_nil]
      exact before.settleAll

theorem drained_record (invariant : Invariant state) (moves : Move state.tunnel label tunnel effects)
    (closed : (record state label tunnel effects).closed = true) :
    tunnel.pending = [] ∧ tunnel.writable = false := by
  have shut : closes label = false → state.tunnel.pending = [] ∧ state.tunnel.writable = false := by
    intro stays
    refine invariant.drained ?_
    simpa [record, stays] using closed
  cases moves with
  | idle _ stays _ _ pending _ writable _ =>
      refine ⟨pending.trans (shut stays).1, Bool.eq_false_iff.mpr fun again => ?_⟩
      exact Bool.eq_false_iff.mp (shut stays).2 (writable again)
  | sent cmd data writable _ =>
      exact absurd writable (Bool.eq_false_iff.mp (shut rfl).2)
  | bounced cmd data error _ => exact shut rfl
  | rejected waiting error pending _ stays =>
      rw [(shut stays).1] at pending
      exact nomatch pending
  | resolved message origin waiting found =>
      have pending := (mem_pending_of_waitingFor found).1
      rw [(shut rfl).1] at pending
      exact nomatch pending
  | message message origin unasked => exact shut rfl
  | drained => exact ⟨rfl, rfl⟩

theorem below_record (invariant : Invariant state) (moves : Move state.tunnel label tunnel effects) :
    ∀ waiting ∈ (record state label tunnel effects).issued, waiting.seq ≤ tunnel.seq := by
  intro waiting member
  simp only [record, List.mem_append] at member
  have old : waiting ∈ state.issued → waiting.seq ≤ state.tunnel.seq := invariant.below waiting
  cases moves with
  | idle issues _ _ _ _ seq _ _ =>
      rw [issues] at member
      exact (old (member.resolve_right (List.not_mem_nil))).trans seq
  | sent cmd data _ opened =>
      rw [issuedBy_request opened, List.mem_singleton] at member
      rcases member with member | rfl
      · exact (old member).trans (Nat.le_succ _)
      · exact le_rfl
  | bounced cmd data error opened =>
      rw [issuedBy_request opened, List.mem_singleton] at member
      rcases member with member | rfl
      · exact (old member).trans (Nat.le_succ _)
      · exact le_rfl
  | rejected _ _ _ issues =>
      rw [issues] at member
      exact old (member.resolve_right (List.not_mem_nil))
  | resolved => exact old (member.resolve_right (List.not_mem_nil))
  | message => exact old (member.resolve_right (List.not_mem_nil))
  | drained => exact old (member.resolve_right (List.not_mem_nil))

theorem known_record (invariant : Invariant state) (moves : Move state.tunnel label tunnel effects) :
    ∀ waiting ∈ tunnel.pending, waiting ∈ (record state label tunnel effects).issued := by
  intro waiting member
  simp only [record, List.mem_append]
  cases moves with
  | idle _ _ _ _ pending =>
      rw [pending] at member
      exact Or.inl (invariant.known waiting member)
  | sent cmd data _ opened =>
      rw [issuedBy_request opened]
      exact (List.mem_append.mp member).imp_left (invariant.known waiting)
  | bounced => exact Or.inl (invariant.known waiting member)
  | rejected => exact Or.inl (invariant.known waiting (List.mem_filter.mp member).1)
  | resolved => exact Or.inl (invariant.known waiting (List.mem_filter.mp member).1)
  | message => exact Or.inl (invariant.known waiting member)
  | drained => exact nomatch member

/-- A request of the new step is refused, or it has its own number. -/
theorem request_of_move {cmd : String} {data : Json}
    (moves : Move state.tunnel (.request cmd data) tunnel effects) :
    (∃ error, effects = [.refused error]) ∨
      ∃ waiting ∈ issuedBy state.tunnel (.request cmd data), waiting.cmd = cmd ∧
        (effects = [.sent (Tunnel.envelope waiting.seq cmd data)] ∨
          ∃ error, effects = [.rejected waiting.seq error]) := by
  cases moves with
  | idle _ _ _ request => exact Or.inl (request cmd data rfl)
  | sent _ _ _ opened =>
      rw [issuedBy_request opened]
      exact Or.inr ⟨_, List.mem_singleton.mpr rfl, rfl, Or.inl rfl⟩
  | bounced _ _ error opened =>
      rw [issuedBy_request opened]
      exact Or.inr ⟨_, List.mem_singleton.mpr rfl, rfl, Or.inr ⟨error, rfl⟩⟩
  | rejected _ _ _ _ _ _ request => exact absurd rfl (request cmd data)

/-- A message that settles a request of an undisturbed session is the hub's answer to it. -/
theorem answer_of_found {message : Json} {origin : Origin} {waiting : Waiting}
    (possible : Possible state (.hub message origin))
    (undisturbed : Undisturbed state (.hub message origin))
    (found : state.tunnel.waitingFor (message.get? "seq") = some waiting) :
    origin = .reply waiting.seq ∧
      ∃ request ∈ state.issued, request.seq = waiting.seq ∧ Answers message waiting.seq request.cmd := by
  cases origin with
  | push => exact nomatch found.symm.trans undisturbed.2
  | reply seq =>
      obtain ⟨request, issued, same, answer⟩ := possible
      have number : seq = waiting.seq := by
        simpa using answer.1.symm.trans (mem_pending_of_waitingFor found).2
      subst number
      exact ⟨rfl, request, issued, same, answer⟩

theorem answers_of_move (possible : Possible state label) (undisturbed : Undisturbed state label)
    (moves : Move state.tunnel label tunnel effects) {seq : ℕ} {message : Json}
    (resolved : .resolved seq message ∈ effects) :
    label = .hub message (.reply seq) ∧
      ∃ waiting ∈ state.issued, waiting.seq = seq ∧ Answers message seq waiting.cmd := by
  cases moves with
  | idle _ _ _ _ _ _ _ quiet =>
      have settled : seq ∈ effects.filterMap settles := List.mem_filterMap.mpr ⟨_, resolved, rfl⟩
      rw [quiet] at settled
      exact nomatch settled
  | sent => simp at resolved
  | bounced => simp at resolved
  | rejected => simp at resolved
  | message => simp at resolved
  | resolved message' origin waiting found =>
      simp only [List.mem_singleton, Effect.resolved.injEq] at resolved
      obtain ⟨rfl, rfl⟩ := resolved
      obtain ⟨same, answer⟩ := answer_of_found possible undisturbed found
      exact ⟨by rw [same], answer⟩
  | drained => simp [Tunnel.onClose] at resolved

theorem report_of_move {message : Json} {origin : Origin}
    (possible : Possible state (.hub message origin))
    (undisturbed : Undisturbed state (.hub message origin))
    (moves : Move state.tunnel (.hub message origin) tunnel effects) (report : IsReport message) :
    effects = [.message message] := by
  cases moves with
  | idle _ _ hub => exact absurd rfl (hub message origin)
  | rejected _ _ _ _ _ hub => exact absurd rfl (hub message origin)
  | resolved _ _ waiting found =>
      obtain ⟨-, request, -, -, answer⟩ := answer_of_found possible undisturbed found
      exact absurd report (not_isReport_of_answers answer)
  | message => rfl

theorem invariant_record (invariant : Invariant state) (possible : Possible state label)
    (undisturbed : Undisturbed state label) (moves : Move state.tunnel label tunnel effects) :
    Invariant (record state label tunnel effects) where
  requests cmd data effects' member := by
    simp only [record, List.mem_append, List.mem_singleton, Prod.mk.injEq] at member ⊢
    rcases member with old | ⟨rfl, rfl⟩
    · refine (invariant.requests cmd data effects' old).imp_right ?_
      exact fun ⟨waiting, issued, rest⟩ => ⟨waiting, Or.inl issued, rest⟩
    · refine (request_of_move moves).imp_right ?_
      exact fun ⟨waiting, issued, rest⟩ => ⟨waiting, Or.inr issued, rest⟩
  once := balanced_record invariant moves
  answers label' effects' member seq message resolved := by
    simp only [record, List.mem_append, List.mem_singleton, Prod.mk.injEq] at member ⊢
    have grows : (∃ waiting ∈ state.issued, waiting.seq = seq ∧ Answers message seq waiting.cmd) →
        ∃ waiting, (waiting ∈ state.issued ∨ waiting ∈ issuedBy state.tunnel label) ∧
          waiting.seq = seq ∧ Answers message seq waiting.cmd :=
      fun ⟨waiting, issued, rest⟩ => ⟨waiting, Or.inl issued, rest⟩
    rcases member with old | ⟨rfl, rfl⟩
    · exact (invariant.answers label' effects' old seq message resolved).imp_right grows
    · exact (answers_of_move possible undisturbed moves resolved).imp_right grows
  reports message origin effects' member report := by
    simp only [record, List.mem_append, List.mem_singleton, Prod.mk.injEq] at member
    rcases member with old | ⟨rfl, rfl⟩
    · exact invariant.reports message origin effects' old report
    · exact report_of_move possible undisturbed moves report
  drained closed := drained_record invariant moves closed
  below := below_record invariant moves
  known := known_record invariant moves
  caught := by
    have quiet : throws label = false := by
      cases label with
      | listenerThrows => cases undisturbed
      | _ => rfl
    simp [record, invariant.caught, quiet]

/-- A pending request is settled when its timer fires. -/
theorem timer_settles {waiting : Waiting} (member : waiting ∈ tunnel.pending) :
    ∃ error, (tunnel.timeout waiting.seq).2 = [.rejected waiting.seq error] := by
  have present : (tunnel.pending.any fun other => other.seq == waiting.seq) = true :=
    List.any_eq_true.mpr ⟨waiting, member, beq_self_eq_true _⟩
  rw [Tunnel.timeout]
  split
  · exact ⟨_, by rw [Tunnel.settle, if_pos present]⟩
  · rename_i absent
    exact absurd (beq_self_eq_true waiting.seq) (List.find?_eq_none.mp absent waiting member)

theorem Invariant.correlated (invariant : Invariant state) : Correlated state where
  requests := invariant.requests
  once := invariant.once
  timers _ member := timer_settles member
  answers := invariant.answers
  reports := invariant.reports
  drained closed := (invariant.drained closed).1
  caught := invariant.caught

/-- An open tunnel before its first request. -/
def start : State := ⟨Tunnel.openTunnel, [], [], false, false⟩

/-- The tunnel has asked for the topology. -/
def asked : State :=
  record start (.request "topology" (.object []))
    { Tunnel.openTunnel with seq := 1, pending := [⟨1, "topology"⟩] }
    [.sent (Tunnel.envelope 1 "topology" (.object []))]

end Correlation
end Port
end AqaraLanLink
