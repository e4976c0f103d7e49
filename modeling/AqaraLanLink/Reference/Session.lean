import AqaraLanLink.Reference.Protocol

/-!
# The reference's session client

`LANLinkClient` in `hub/session.py`: calls that send a message and await the reply with its `seq`,
and the `listen` loop that hands every frame to a waiting call or to a callback.  A coroutine runs
from one suspension to the next, and each stretch is one function here.
-/

namespace AqaraLanLink
namespace Reference

/-- The state of a call's future. -/
inductive Future where
  | waiting
  | result (message : Json)
  | failed (error : String)

/-- Whether `future.done()`. -/
def Future.done : Future → Bool
  | waiting => false
  | _ => true

/-- How a call ends. -/
inductive Outcome where
  /-- It returns a reply. -/
  | reply (message : Json)
  /-- It raises. -/
  | exception (error : String)

/-- A call of `async_send_and_await` that has not finished. -/
structure Call where
  /-- The `seq` of its message. -/
  seq : ℕ
  /-- Whether `tunnel.send` has returned, so that it awaits its future with a timeout. -/
  sent : Bool
  /-- Its future. -/
  future : Future

/-- What a stretch does to the world outside the client. -/
inductive Event where
  /-- A call finishes. -/
  | finished (seq : ℕ) (outcome : Outcome)
  /-- `on_report`. -/
  | report (report : LANReport)
  /-- `on_async`. -/
  | async (message : Json)

/-- The fields of a client, and the calls that are suspended in it. -/
structure LANLinkClient where
  /-- The last sequence number allocated. -/
  seq : ℕ
  /-- The keys of `_pending`; the value of a key is the future of the call with that `seq`. -/
  pending : List ℕ
  /-- The calls that have not finished. -/
  calls : List Call
  /-- Whether `listen` has not returned. -/
  listening : Bool

namespace LANLinkClient

/-! ## Calls -/

/-- `next_seq`, and `async_send_and_await` up to its suspension in `tunnel.send`. -/
def call (client : LANLinkClient) : LANLinkClient × List Event :=
  let seq := client.seq + 1
  if seq ∈ client.pending then
    ({ client with seq }, [.finished seq (.exception s!"duplicate seq {seq} already pending")])
  else
    ({ client with seq, pending := client.pending ++ [seq], calls := client.calls ++ [⟨seq, false, .waiting⟩] },
      [])

/-- A call leaves `async_send_and_await`: the `finally` drops its entry. -/
def finish (client : LANLinkClient) (seq : ℕ) (outcome : Outcome) : LANLinkClient × List Event :=
  ({ client with
      pending := client.pending.filter fun other => other != seq
      calls := client.calls.filter fun call => call.seq != seq },
    [.finished seq outcome])

/-- Set the future of a call. -/
def setFuture (client : LANLinkClient) (seq : ℕ) (future : Future) : LANLinkClient :=
  { client with
    calls := client.calls.map fun call => if call.seq = seq then { call with future } else call }

/-- The timeout or a cancellation reaches the future of a call that waits. -/
def interrupt (client : LANLinkClient) (seq : ℕ) (error : String) : LANLinkClient :=
  { client with
    calls := client.calls.map fun call =>
      if call.seq = seq ∧ ¬ call.future.done then { call with future := .failed error } else call }

/-- A call whose future is done is resumed. -/
def resume (client : LANLinkClient) (call : Call) : LANLinkClient × List Event :=
  match call.future with
  | .waiting => (client, [])
  | .result message => client.finish call.seq (.reply message)
  | .failed error => client.finish call.seq (.exception error)

/-- `tunnel.send` returns to a call, which goes on to await its future. -/
def sent (client : LANLinkClient) (call : Call) : LANLinkClient × List Event :=
  match call.future with
  | .waiting =>
      ({ client with
          calls := client.calls.map fun other =>
            if other.seq = call.seq ∧ ¬ other.future.done then { other with sent := true } else other },
        [])
  | _ => client.resume call

/-! ## Frames -/

/-- Whether Python finds an integer key under a JSON value: `1`, `1.0` and `True` are one key. -/
def isKey (value : Json) (seq : ℕ) : Bool :=
  match value with
  | .number number => number == (seq : ℚ)
  | .bool true => seq == 1
  | .bool false => seq == 0
  | _ => false

/-- Whether a value can be looked up in a dictionary. -/
def hashable : Json → Bool
  | .array _ => false
  | .object _ => false
  | _ => true

/-- The call whose future `self._pending.get(seq)` finds and which still waits. -/
def waitingFor (client : LANLinkClient) (value : Json) : Option ℕ :=
  client.pending.find? fun seq => isKey value seq &&
    client.calls.any fun call => call.seq == seq && !call.future.done

/-- `_dispatch_async`. -/
def dispatchAsync (raw : Json) : List Event :=
  if (raw.get? "cmd").any fun cmd => cmd.strictEq (.string "report") then
    match LANReport.fromEntity raw with
    | some report => [.report report]
    | none => []
  else [.async raw]

/-- `_fail_pending`, which ends the loop. -/
def failPending (client : LANLinkClient) (error : String) : LANLinkClient :=
  { client with
    pending := []
    calls := client.calls.map fun call =>
      if call.seq ∈ client.pending ∧ ¬ call.future.done then { call with future := .failed error }
      else call
    listening := false }

/-- Whether the sequence number of a message can be looked up, if it has one. -/
def keyed (raw : Json) : Bool := (raw.get? "seq").all hashable

/-- One turn of the loop of `listen` with a frame. -/
def receive (client : LANLinkClient) (raw : Json) : LANLinkClient × List Event :=
  match raw.get? "seq" with
  | none => (client, dispatchAsync raw)
  | some .null => (client, dispatchAsync raw)
  | some value =>
      if ¬ hashable value then (client.failPending "unhashable type", [])
      else
        match client.waitingFor value with
        | some seq =>
            ({ client with pending := client.pending.filter fun other => other != seq }.setFuture seq
              (.result raw), [])
        | none => (client, dispatchAsync raw)

/-- The task of `listen` is cancelled: a `CancelledError` is no `Exception`, and `_pending` stays as it
is. -/
def cancelled (client : LANLinkClient) : LANLinkClient := { client with listening := false }

/-- The tunnel ends and `listen` returns. -/
def tunnelClosed (client : LANLinkClient) : LANLinkClient :=
  client.failPending "Tunnel closed"

/-! ## Replies -/

/-- `response.get("data") or {}`, as far as `get` can be called on it. -/
def dataOf (response : Json) : Except String (List (String × Json)) :=
  match response.get? "data" with
  | none => .ok []
  | some (.object fields) => .ok fields
  | some data => if data.truthy then .error "object has no attribute 'get'" else .ok []

/-- `checkin`, on the way its message is answered. -/
def checkin (answer : Except String Json) : Except String Bool := do
  let data ← dataOf (← answer)
  pure ((data.lookup "code").getD (.number (-1))).isZero

end LANLinkClient

/-- Why `async_write` raises. -/
inductive WriteError where
  /-- There is no answer, or one that cannot be read. -/
  | unanswered (error : String)
  /-- The hub refuses; the error is its message, or a text with the code. -/
  | refused (message : Option Json) (code : Json)

/-- `async_write`, on the way its message is answered. -/
def asyncWrite (answer : Except String Json) : Except WriteError Unit :=
  match answer >>= LANLinkClient.dataOf with
  | .error error => .error (.unanswered error)
  | .ok data =>
      let code := (data.lookup "code").getD (.number 0)
      if code.isZero then .ok ()
      else .error (.refused ((data.lookup "message").filter Json.truthy) code)

end Reference
end AqaraLanLink
