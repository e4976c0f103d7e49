import AqaraLanLink.Port.Correlation
import AqaraLanLink.Port.Resilience

/-!
# The last word on a trait

Calls of `AqaraDevice.set` and the session of their tunnel as a labelled transition system.  The
frames of a chunk are handled one after the other in one turn of the event loop, and the calls whose
writes they answer go on when the turn is over.
-/

namespace AqaraLanLink
namespace Port
namespace LastWord

open Library

/-! ## The machine -/

/-- A call of `set` that waits for its write. -/
structure Call where
  /-- The sequence number of the write. -/
  seq : ℕ
  /-- The device. -/
  did : String
  /-- The trait. -/
  code : String
  /-- The clamped value. -/
  value : Json

/-- A call whose write has been answered, and which goes on when the turn is over. -/
structure Continuation where
  /-- The device. -/
  did : String
  /-- The trait. -/
  code : String
  /-- The clamped value. -/
  value : Json
  /-- What has been reported for the trait since the answer. -/
  newer : Option Json

/-- The platform, its tunnel and the calls of `set`, with what the hub has said. -/
structure Runtime where
  /-- The tunnel. -/
  tunnel : Tunnel
  /-- The published devices. -/
  platform : Platform
  /-- The calls that wait, in the order in which they were made. -/
  calls : List Call
  /-- The calls that go on when the turn is over, in the order of the answers. -/
  ready : List Continuation
  /-- What the hub has stated last for a trait of a device, by reports and acknowledgements. -/
  stated : String → String → Option Json
  /-- The reports after which a call has recorded its value, each with that value. -/
  overwrites : List (Json × Json)

/-- What happens. -/
inductive Label where
  /-- HomeKit or Matter sets a trait. -/
  | set (did code : String) (value : Json)
  /-- A chunk with these messages arrives. -/
  | chunk (messages : List Json)
  /-- The keepalive timer fires. -/
  | keepalive (now : ℕ)
  /-- The write of a request's frame fails. -/
  | sendFailed (seq : ℕ) (error : String)
  /-- The timer of a request fires. -/
  | timeout (seq : ℕ)
  /-- Someone closes the tunnel. -/
  | close
  /-- The socket closes. -/
  | socketClose

/-- The tunnel changes, and the calls whose requests it has rejected end. -/
def Runtime.withTunnel (runtime : Runtime) (tunnel : Tunnel) : Runtime :=
  { runtime with
    tunnel
    calls := runtime.calls.filter fun call =>
      tunnel.pending.any fun waiting => waiting.seq == call.seq }

/-- `set` up to its `await`. -/
def Runtime.set (runtime : Runtime) (did code : String) (value : Json) : Runtime :=
  match runtime.platform.devices.lookup did with
  | none => runtime
  | some device =>
      match device.setRequest code value with
      | some (deviceId, [(path, clamped)]) =>
          let call : Call := ⟨runtime.tunnel.seq + 1, did, code, clamped⟩
          Runtime.withTunnel { runtime with calls := runtime.calls ++ [call] }
            (runtime.tunnel.write [(path, clamped)] (some deviceId)).1
      | _ => runtime

/-- A message is the hub's acknowledgement of a write. -/
def acknowledges (message : Json) : Bool :=
  ((message.get? "cmd").any fun cmd => cmd.strictEq (.string "write_done")) &&
    ((message.get? "data").bind fun data => data.get? "code").all Json.isZero

/-- A message carries a sequence number. -/
def carries (message : Json) (seq : ℕ) : Bool :=
  (message.get? "seq").any fun value => value.strictEq (.number seq)

/-- What a message reports for a trait of a published device, or what was held before. -/
def reported (platform : Platform) (message : Json) (did code : String) (held : Option Json) :
    Option Json :=
  match platform.devices.lookup did with
  | some device =>
      Json.lastValue (fun path => device.codeFor path = some code)
        (Platform.heardEntries message did) held
  | none => held

/-- What the hub has stated once it has sent a message. -/
def Runtime.states (runtime : Runtime) (message : Json) (did code : String) : Option Json :=
  let heard := reported runtime.platform message did code (runtime.stated did code)
  match runtime.calls.find? fun call => carries message call.seq with
  | some call =>
      if acknowledges message ∧ call.did = did ∧ call.code = code then some call.value else heard
  | none => heard

/-- A frame with this message is handled. -/
def Runtime.receive (runtime : Runtime) (message : Json) : Except String Runtime := do
  let stated := runtime.states message
  let (tunnel, effect) ← runtime.tunnel.dispatch message
  match effect with
  | .resolved seq _ =>
      let answered := runtime.calls.find? fun call => call.seq == seq
      pure
        { runtime.withTunnel tunnel with
          stated
          ready := runtime.ready ++
            (answered.map fun call => ⟨call.did, call.code, call.value, none⟩).toList }
  | .message message =>
      let platform ← runtime.platform.onMessage message
      pure
        { runtime.withTunnel tunnel with
          stated
          platform
          ready := runtime.ready.map fun next =>
            { next with
              newer := reported runtime.platform message next.did next.code next.newer } }
  | _ => pure { runtime.withTunnel tunnel with stated }

/-- A call goes on after its `await`. -/
def Runtime.proceed (runtime : Runtime) (next : Continuation) : Runtime :=
  match runtime.platform.devices.lookup next.did with
  | none => runtime
  | some device =>
      { runtime with
        platform :=
          runtime.platform.setDevice next.did (device.afterWrite next.code next.value).device
        overwrites := runtime.overwrites ++
          (next.newer.map fun newer => (newer, next.value)).toList }

/-- The turn is over, and the calls go on in order. -/
def Runtime.drain (runtime : Runtime) : Runtime :=
  { runtime.ready.foldl Runtime.proceed runtime with ready := [] }

/-- A chunk of frames with these messages. -/
def Runtime.chunk (runtime : Runtime) (messages : List Json) : Except String Runtime := do
  let runtime ← messages.foldlM Runtime.receive runtime
  pure runtime.drain

/-- What a label does; an exception in the turn ends the process. -/
def perform (runtime : Runtime) : Label → Except String Runtime
  | .set did code value => .ok (runtime.set did code value)
  | .chunk messages => runtime.chunk messages
  | .keepalive now => .ok (runtime.withTunnel (runtime.tunnel.keepalive now).1)
  | .sendFailed seq error => .ok (runtime.withTunnel (runtime.tunnel.sendFailed seq error).1)
  | .timeout seq => .ok (runtime.withTunnel (runtime.tunnel.timeout seq).1)
  | .close => .ok (runtime.withTunnel runtime.tunnel.close.1)
  | .socketClose => .ok (runtime.withTunnel runtime.tunnel.onClose.1)

/-- A platform that has just published its devices. -/
def machine : Machine Runtime Label where
  initial runtime := runtime.tunnel.pending = [] ∧ runtime.calls = [] ∧ runtime.ready = [] ∧
    runtime.overwrites = [] ∧ ∀ did device, runtime.platform.devices.lookup did = some device →
      device.state = runtime.stated did
  step runtime label next := perform runtime label = .ok next

/-! ## What the last word is -/

/-- A message that carries the sequence number of a waiting call acknowledges its write, and what
the rest of the chunk reports for the trait is the value that was written. -/
def Orderly (runtime : Runtime) : Label → Prop
  | .chunk messages => ∀ before message after call, messages = before ++ message :: after →
      call ∈ runtime.calls → carries message call.seq → (∀ other ∈ before, ¬ carries other call.seq) →
        acknowledges message ∧ ∀ value,
          after.foldl (fun held message =>
            reported runtime.platform message call.did call.code held) none = some value →
              value = call.value
  | _ => True

/-! ## What a turn preserves -/

theorem state_afterWrite (device : AqaraDevice) (code other : String) (value : Json) :
    (device.afterWrite code value).device.state other =
      if other = code then some value else device.state other := by
  rw [AqaraDevice.afterWrite]
  split
  · rename_i known
    obtain ⟨held, knows, equal⟩ := AqaraDevice.has_eq_true_iff.mp known
    split
    · rename_i same
      rw [same, knows, Json.eq_of_strictEq equal]
    · rfl
  · exact AqaraDevice.state_setState device code other value

/-- The codes of a published device by wire path. -/
def codes (platform : Platform) (did : String) : Option (String → Option String) :=
  (platform.devices.lookup did).map AqaraDevice.codeFor

/-- What a message reports depends on the codes of the device only. -/
theorem reported_congr {platform platform' : Platform} {did : String}
    (same : codes platform' did = codes platform did) (message : Json) (code : String)
    (held : Option Json) :
    reported platform' message did code held = reported platform message did code held := by
  simp only [codes] at same
  rw [reported, reported]
  cases published : platform.devices.lookup did with
  | none =>
      rw [published, Option.map_none, Option.map_eq_none_iff] at same
      rw [same]
  | some device =>
      rw [published, Option.map_some, Option.map_eq_some_iff] at same
      obtain ⟨device', published', equal⟩ := same
      rw [published']
      simp only [equal]

/-- An acknowledgement reports nothing. -/
theorem reported_of_acknowledges {message : Json} (acknowledged : acknowledges message = true)
    (platform : Platform) (did code : String) (held : Option Json) :
    reported platform message did code held = held := by
  have silent : Platform.heardEntries message did = [] := by
    have other : Platform.isReport message = false := by
      simp only [acknowledges, Bool.and_eq_true, Option.any_eq_true] at acknowledged
      obtain ⟨⟨cmd, present, done⟩, -⟩ := acknowledged
      have named := Json.eq_of_strictEq done
      simp [Platform.isReport, present, named, Json.strictEq]
    simp [Platform.heardEntries, other]
  rw [reported]
  split
  · rw [silent]
    rfl
  · rfl

/-- A message says nothing about a trait, or its last value for it counts. -/
theorem reported_cases (platform : Platform) (message : Json) (did code : String) :
    (∀ held, reported platform message did code held = held) ∨
      ∃ value, ∀ held, reported platform message did code held = some value := by
  simp only [reported]
  cases platform.devices.lookup did with
  | none => exact Or.inl fun _ => rfl
  | some device => exact Json.lastValue_cases _ _

/-- The value of a trait when the calls that are ready have gone on, as the hub sees it: what has been
reported since an answer counts more than what was written. -/
def settledValue (ready : List Continuation) (did code : String) (held : Option Json) : Option Json :=
  ready.foldl (fun held next =>
    if next.did = did ∧ next.code = code then some (next.newer.getD next.value) else held) held

/-- A report settles a trait before and after the calls alike. -/
theorem settledValue_reported (platform : Platform) (message : Json) (ready : List Continuation)
    (did code : String) (held : Option Json) :
    settledValue
        (ready.map fun next =>
          { next with newer := reported platform message next.did next.code next.newer })
        did code (reported platform message did code held) =
      reported platform message did code (settledValue ready did code held) := by
  simp only [settledValue, List.foldl_map]
  induction ready generalizing held with
  | nil => rfl
  | cons next ready induction =>
      simp only [List.foldl_cons]
      by_cases own : next.did = did ∧ next.code = code
      · obtain ⟨rfl, rfl⟩ := own
        simp only [and_self, if_true]
        rcases reported_cases platform message next.did next.code with silent | ⟨value, told⟩
        · simpa only [silent] using induction (some (next.newer.getD next.value))
        · have rest := induction (some (next.newer.getD next.value))
          simpa only [told, Option.getD_some] using rest
      · simp only [own, if_false]
        exact induction held

/-- The calls that wait are those of the pending requests. -/
structure Consistent (runtime : Runtime) : Prop where
  below : ∀ waiting ∈ runtime.tunnel.pending, waiting.seq ≤ runtime.tunnel.seq
  pending : ∀ call ∈ runtime.calls, ∃ waiting ∈ runtime.tunnel.pending, waiting.seq = call.seq
  called : ∀ waiting ∈ runtime.tunnel.pending, ∃ call ∈ runtime.calls, call.seq = waiting.seq

variable {runtime : Runtime}

/-- A tunnel whose pending requests all have a call. -/
theorem consistent_withTunnel {tunnel : Tunnel}
    (below : ∀ waiting ∈ tunnel.pending, waiting.seq ≤ tunnel.seq)
    (called : ∀ waiting ∈ tunnel.pending, ∃ call ∈ runtime.calls, call.seq = waiting.seq) :
    Consistent (runtime.withTunnel tunnel) := by
  refine ⟨below, fun call member => ?_, fun waiting member => ?_⟩
  · obtain ⟨waiting, pending, same⟩ := List.any_eq_true.mp (List.mem_filter.mp member).2
    exact ⟨waiting, pending, beq_iff_eq.mp same⟩
  · obtain ⟨call, inside, same⟩ := called waiting member
    refine ⟨call, List.mem_filter.mpr ⟨inside, ?_⟩, same⟩
    exact List.any_eq_true.mpr ⟨waiting, member, beq_iff_eq.mpr same.symm⟩

/-- Only a request adds to what is pending, and with the next sequence number. -/
theorem pending_of_move {tunnel tunnel' : Tunnel} {label : Correlation.Label}
    {effects : List Effect} (moves : Correlation.Move tunnel label tunnel' effects) :
    tunnel.seq ≤ tunnel'.seq ∧ ∀ waiting ∈ tunnel'.pending, waiting ∈ tunnel.pending ∨
      waiting.seq = tunnel.seq + 1 ∧ tunnel'.seq = tunnel.seq + 1 ∧
        ∃ cmd data, label = .request cmd data := by
  cases moves with
  | idle _ _ _ _ pending seq _ _ => exact ⟨seq, fun waiting member => Or.inl (pending ▸ member)⟩
  | sent cmd data _ _ =>
      refine ⟨Nat.le_succ _, fun waiting member => ?_⟩
      rcases List.mem_append.mp member with old | new
      · exact Or.inl old
      · rw [List.mem_singleton.mp new]
        exact Or.inr ⟨rfl, rfl, cmd, data, rfl⟩
  | bounced cmd data error _ => exact ⟨Nat.le_succ _, fun waiting member => Or.inl member⟩
  | rejected waiting error _ _ _ _ _ =>
      exact ⟨le_rfl, fun other member => Or.inl (List.mem_filter.mp member).1⟩
  | resolved message origin waiting _ =>
      exact ⟨le_rfl, fun other member => Or.inl (List.mem_filter.mp member).1⟩
  | message message origin _ => exact ⟨le_rfl, fun waiting member => Or.inl member⟩
  | drained => exact ⟨le_rfl, fun waiting member => nomatch member⟩

/-- Whatever the tunnel does on its own keeps calls and requests together. -/
theorem Consistent.withTunnel (consistent : Consistent runtime) {tunnel : Tunnel}
    {label : Correlation.Label} {effects : List Effect}
    (moves : Correlation.Move runtime.tunnel label tunnel effects)
    (quiet : ∀ cmd data, label ≠ .request cmd data) : Consistent (runtime.withTunnel tunnel) := by
  obtain ⟨later, pending⟩ := pending_of_move moves
  have old : ∀ waiting ∈ tunnel.pending, waiting ∈ runtime.tunnel.pending := by
    intro waiting member
    refine (pending waiting member).resolve_right ?_
    rintro ⟨-, -, cmd, data, same⟩
    exact quiet cmd data same
  exact consistent_withTunnel
    (fun waiting member => (consistent.below waiting (old waiting member)).trans later)
    fun waiting member => consistent.called waiting (old waiting member)

/-- A call of `set` waits for the request it has made. -/
theorem Consistent.set (consistent : Consistent runtime) (did code : String) (value : Json) :
    Consistent (runtime.set did code value) := by
  rw [Runtime.set]
  split
  · exact consistent
  · split
    · rename_i deviceId path clamped _
      have moves := Correlation.request_move consistent.below "write"
        (runtime.tunnel.writeData [(path, clamped)] (some deviceId))
      obtain ⟨later, pending⟩ := pending_of_move moves
      refine consistent_withTunnel (fun waiting member => ?_) fun waiting member => ?_
      · rcases pending waiting member with old | ⟨same, next, -⟩
        · exact (consistent.below waiting old).trans later
        · exact (same.trans next.symm).le
      · rcases pending waiting member with old | ⟨same, -⟩
        · obtain ⟨call, inside, equal⟩ := consistent.called waiting old
          exact ⟨call, List.mem_append_left _ inside, equal⟩
        · exact ⟨_, List.mem_append_right _ (List.mem_singleton.mpr rfl), same.symm⟩
    · exact consistent

/-- What holds within a chunk whose remaining messages are orderly. -/
structure Turn (runtime : Runtime) (rest : List Json) : Prop where
  consistent : Consistent runtime
  /-- The calls that are ready lead to what the hub has stated. -/
  stated : ∀ did device, runtime.platform.devices.lookup did = some device → ∀ code,
    runtime.stated did code = settledValue runtime.ready did code (device.state code)
  orderly : Orderly runtime (.chunk rest)
  /-- What is reported for the trait of a call that is ready is the value that was written. -/
  newer : ∀ next ∈ runtime.ready, ∀ value,
    rest.foldl (fun held message => reported runtime.platform message next.did next.code held)
      next.newer = some value → value = next.value
  kept : ∀ overwrite ∈ runtime.overwrites, overwrite.1 = overwrite.2

/-- The rest of a chunk stays orderly when the message has answered no call that still waits. -/
theorem Turn.orderly_tail {message : Json} {rest : List Json} (turn : Turn runtime (message :: rest))
    {next : Runtime} (calls : ∀ call ∈ next.calls, call ∈ runtime.calls ∧ ¬ carries message call.seq)
    (same : ∀ did, codes next.platform did = codes runtime.platform did) :
    Orderly next (.chunk rest) := by
  rintro before answer after call split member carried first
  obtain ⟨waited, other⟩ := calls call member
  obtain ⟨acknowledged, reports⟩ := turn.orderly (message :: before) answer after call
    (by rw [split, List.cons_append]) waited carried
    fun earlier inside => (List.mem_cons.mp inside).elim (fun equal => equal ▸ other) (first earlier)
  refine ⟨acknowledged, fun value => ?_⟩
  simpa only [reported_congr (same call.did)] using reports value

theorem carries_iff {message : Json} {seq : ℕ} :
    carries message seq = true ↔ message.get? "seq" = some (.number seq) := by
  simp only [carries, Option.any_eq_true]
  constructor
  · rintro ⟨value, present, same⟩
    rw [present, Json.eq_of_strictEq same]
  · intro present
    exact ⟨_, present, by simp [Json.strictEq]⟩

/-- A message that carries the sequence number of a pending request is its answer. -/
theorem waitingFor_isSome {tunnel : Tunnel} {message : Json} {waiting : Waiting}
    (pending : waiting ∈ tunnel.pending) (carried : carries message waiting.seq = true) :
    (tunnel.waitingFor (message.get? "seq")).isSome := by
  rw [carries_iff.mp carried, Tunnel.waitingFor, List.find?_isSome]
  exact ⟨waiting, pending, by simp⟩

/-- The answer to a write. -/
theorem Turn.answer {message : Json} {rest : List Json} (turn : Turn runtime (message :: rest))
    {waiting : Waiting} (found : runtime.tunnel.waitingFor (message.get? "seq") = some waiting) :
    Turn
      { runtime.withTunnel
          { runtime.tunnel with
            pending := runtime.tunnel.pending.filter fun other => other.seq != waiting.seq } with
        stated := runtime.states message
        ready := runtime.ready ++
          ((runtime.calls.find? fun call => call.seq == waiting.seq).map fun call =>
            ⟨call.did, call.code, call.value, none⟩).toList } rest := by
  obtain ⟨pending, numbered⟩ := Correlation.mem_pending_of_waitingFor found
  have carried : ∀ call : Call, carries message call.seq = (call.seq == waiting.seq) := by
    intro call
    rw [Bool.eq_iff_iff, carries_iff, numbered, beq_iff_eq]
    simp [eq_comm]
  obtain ⟨call, picked⟩ : ∃ call,
      (runtime.calls.find? fun call => call.seq == waiting.seq) = some call := by
    obtain ⟨call, inside, same⟩ := turn.consistent.called waiting pending
    exact Option.isSome_iff_exists.mp (List.find?_isSome.mpr ⟨call, inside, beq_iff_eq.mpr same⟩)
  have waits := List.mem_of_find?_eq_some picked
  have mine := List.find?_some picked
  obtain ⟨acknowledged, reports⟩ := turn.orderly [] message rest call rfl waits
    ((carried call).trans mine) (fun _ => nofun)
  have silent := reported_of_acknowledges acknowledged
  have stated : ∀ did code, runtime.states message did code =
      if call.did = did ∧ call.code = code then some call.value else runtime.stated did code := by
    intro did code
    simp [Runtime.states, carried, picked, acknowledged, silent]
  refine ⟨?_, fun did device published code => ?_, ?_, ?_, turn.kept⟩
  · have moves := Correlation.Move.resolved message .push waiting found
    have consistent := turn.consistent.withTunnel moves (by simp)
    exact ⟨consistent.below, consistent.pending, consistent.called⟩
  · have before := turn.stated did device published code
    rw [settledValue] at before
    simp only [stated, picked, Option.map_some, Option.toList_some, settledValue, List.foldl_append,
      List.foldl_cons, List.foldl_nil, ← before, Option.getD_none]
  · refine turn.orderly_tail (fun other member => ?_) fun did => rfl
    obtain ⟨inside, still⟩ := List.mem_filter.mp member
    refine ⟨inside, fun same => ?_⟩
    obtain ⟨left, remains, equal⟩ := List.any_eq_true.mp still
    have apart := (List.mem_filter.mp remains).2
    rw [carried, beq_iff_eq] at same
    rw [beq_iff_eq, same] at equal
    simp [equal] at apart
  · intro next member value
    rw [picked] at member
    rcases List.mem_append.mp member with old | new
    · have newer := turn.newer next old value
      rw [List.foldl_cons, silent] at newer
      exact newer
    · rw [Option.map_some, Option.toList_some, List.mem_singleton] at new
      rw [new]
      exact reports value

/-- A message changes what devices hold, and not their codes. -/
theorem codes_of_onMessage {platform result : Platform} {message : Json}
    (returned : platform.onMessage message = .ok result) (did : String) :
    codes result did = codes platform did := by
  rcases Platform.published_of_onMessage returned did with
    ⟨absent, absent'⟩ | ⟨device, device', found, found', kept, -⟩
  · rw [codes, codes, absent, absent']
  · rw [codes, codes, found, found', Option.map_some, Option.map_some]
    congr 1
    funext path
    rw [AqaraDevice.codeFor, kept, AqaraDevice.codeFor]

/-- A message for the listeners. -/
theorem Turn.heard {message : Json} {rest : List Json} (turn : Turn runtime (message :: rest))
    (unasked : runtime.tunnel.waitingFor (message.get? "seq") = none) {platform : Platform}
    (returned : runtime.platform.onMessage message = .ok platform) :
    Turn
      { runtime.withTunnel runtime.tunnel with
        stated := runtime.states message
        platform
        ready := runtime.ready.map fun next =>
          { next with
            newer := reported runtime.platform message next.did next.code next.newer } } rest := by
  have uncarried : ∀ call ∈ runtime.calls, ¬ carries message call.seq := by
    intro call member carried
    obtain ⟨waiting, pending, same⟩ := turn.consistent.pending call member
    have answers := waitingFor_isSome pending (same ▸ carried)
    rw [unasked] at answers
    exact Bool.false_ne_true answers
  have stated : ∀ did code, runtime.states message did code =
      reported runtime.platform message did code (runtime.stated did code) := by
    intro did code
    have nobody : (runtime.calls.find? fun call => carries message call.seq) = none :=
      List.find?_eq_none.mpr uncarried
    simp [Runtime.states, nobody]
  have same := codes_of_onMessage returned
  refine ⟨?_, fun did device' published code => ?_, ?_, ?_, turn.kept⟩
  · have moves := Correlation.Move.message message .push unasked
    have consistent := turn.consistent.withTunnel moves (by simp)
    exact ⟨consistent.below, consistent.pending, consistent.called⟩
  · rcases Platform.published_of_onMessage returned did with
      ⟨-, absent⟩ | ⟨device, other, found, found', -, states⟩
    · exact absurd (absent.symm.trans published) (Option.some_ne_none device').symm
    · obtain rfl := Option.some.inj (found'.symm.trans published)
      have said : other.state code =
          reported runtime.platform message did code (device.state code) := by
        rw [states code, reported, found]
      dsimp only
      rw [stated, turn.stated did device found code, said, settledValue_reported]
  · exact turn.orderly_tail
      (fun call member => ⟨(List.mem_filter.mp member).1, uncarried call (List.mem_filter.mp member).1⟩)
      same
  · intro next member value
    obtain ⟨next', old, rfl⟩ := List.mem_map.mp member
    have newer := turn.newer next' old value
    rw [List.foldl_cons] at newer
    simpa only [reported_congr (same next'.did)] using newer

theorem Turn.receive {message : Json} {rest : List Json} (turn : Turn runtime (message :: rest))
    {next : Runtime} (received : runtime.receive message = .ok next) : Turn next rest := by
  have present : message ≠ .null := by
    rintro rfl
    exact nomatch received
  rw [Runtime.receive, Tunnel.dispatch_of_ne_null present] at received
  cases found : runtime.tunnel.waitingFor (message.get? "seq") with
  | some waiting =>
      rw [found] at received
      cases received
      exact turn.answer found
  | none =>
      rw [found, ok_bind] at received
      obtain ⟨platform, returned, done⟩ := bind_eq_ok_iff.mp received
      cases done
      exact turn.heard found returned

/-! ## What a run preserves -/

/-- The value of a trait when calls have gone on. -/
def writtenValue (ready : List Continuation) (did code : String) (held : Option Json) : Option Json :=
  ready.foldl (fun held next =>
    if next.did = did ∧ next.code = code then some next.value else held) held

/-- What the calls leave behind when they have gone on. -/
structure Written (ready : List Continuation) (runtime next : Runtime) : Prop where
  tunnel : next.tunnel = runtime.tunnel
  calls : next.calls = runtime.calls
  stated : next.stated = runtime.stated
  published : ∀ did device', next.platform.devices.lookup did = some device' →
    ∃ device, runtime.platform.devices.lookup did = some device ∧
      ∀ code, device'.state code = writtenValue ready did code (device.state code)
  overwrites : ∀ overwrite ∈ next.overwrites, overwrite ∈ runtime.overwrites ∨
    ∃ next ∈ ready, next.newer = some overwrite.1 ∧ next.value = overwrite.2

/-- One call goes on. -/
theorem written_proceed (runtime : Runtime) (next : Continuation) : Written [next] runtime (runtime.proceed next) := by
  rw [Runtime.proceed]
  split
  · rename_i absent
    refine ⟨rfl, rfl, rfl, fun did device published => ⟨device, published, fun code => ?_⟩,
      fun overwrite member => Or.inl member⟩
    have apart : next.did ≠ did := by
      rintro rfl
      exact nomatch absent.symm.trans published
    simp [writtenValue, apart]
  · rename_i device found
    refine ⟨rfl, rfl, rfl, fun did device' published => ?_, fun overwrite member => ?_⟩
    · dsimp only at published
      rw [Platform.lookup_setDevice] at published
      obtain ⟨held, holds, equal⟩ := Option.map_eq_some_iff.mp published
      refine ⟨held, holds, fun code => ?_⟩
      by_cases same : did = next.did
      · subst same
        obtain rfl := Option.some.inj (found.symm.trans holds)
        rw [if_pos rfl] at equal
        rw [← equal, state_afterWrite]
        simp [writtenValue, eq_comm]
      · rw [if_neg same] at equal
        simp [writtenValue, ← equal, Ne.symm same]
    · rcases List.mem_append.mp member with old | new
      · exact Or.inl old
      · obtain ⟨newer, told, rfl⟩ := Option.map_eq_some_iff.mp (Option.mem_toList.mp new)
        exact Or.inr ⟨next, List.mem_singleton.mpr rfl, told, rfl⟩

/-- All of them go on, one after the other. -/
theorem written_drain (ready : List Continuation) (runtime : Runtime) :
    Written ready runtime (ready.foldl Runtime.proceed runtime) := by
  induction ready generalizing runtime with
  | nil =>
      exact ⟨rfl, rfl, rfl, fun did device published => ⟨device, published, fun _ => rfl⟩,
        fun overwrite member => Or.inl member⟩
  | cons next ready induction =>
      have first := written_proceed runtime next
      have rest := induction (runtime.proceed next)
      refine ⟨rest.tunnel.trans first.tunnel, rest.calls.trans first.calls,
        rest.stated.trans first.stated, fun did device'' published => ?_, fun overwrite member => ?_⟩
      · obtain ⟨device', published', states'⟩ := rest.published did device'' published
        obtain ⟨device, published, states⟩ := first.published did device' published'
        exact ⟨device, published, fun code => by rw [states', states]; rfl⟩
      · rcases rest.overwrites overwrite member with old | ⟨other, inside, told⟩
        · rcases first.overwrites overwrite old with old | ⟨other, inside, told⟩
          · exact Or.inl old
          · rw [List.mem_singleton.mp inside] at told
            exact Or.inr ⟨next, List.mem_cons_self, told⟩
        · exact Or.inr ⟨other, List.mem_cons_of_mem _ inside, told⟩

/-- What holds between the turns of an orderly run. -/
structure Invariant (runtime : Runtime) : Prop where
  consistent : Consistent runtime
  ready : runtime.ready = []
  stated : ∀ did device, runtime.platform.devices.lookup did = some device →
    device.state = runtime.stated did
  kept : ∀ overwrite ∈ runtime.overwrites, overwrite.1 = overwrite.2

/-- An orderly chunk opens a turn. -/
theorem Invariant.turn (invariant : Invariant runtime) {messages : List Json}
    (orderly : Orderly runtime (.chunk messages)) : Turn runtime messages := by
  refine ⟨invariant.consistent, fun did device published code => ?_, orderly, ?_, invariant.kept⟩
  · rw [invariant.ready, invariant.stated did device published]
    rfl
  · rw [invariant.ready]
    exact fun _ => nofun

theorem Turn.receiveAll {messages : List Json} {next : Runtime} (turn : Turn runtime messages)
    (received : messages.foldlM Runtime.receive runtime = .ok next) : Turn next [] := by
  induction messages generalizing runtime with
  | nil =>
      cases received
      exact turn
  | cons message messages induction =>
      rw [List.foldlM_cons] at received
      obtain ⟨middle, first, rest⟩ := bind_eq_ok_iff.mp received
      exact induction (turn.receive first) rest

/-- When the turn is over, the calls have recorded what the hub has stated. -/
theorem Turn.drain (turn : Turn runtime []) : Invariant runtime.drain := by
  have written := written_drain runtime.ready runtime
  refine ⟨⟨?_, ?_, ?_⟩, rfl, fun did device' published => ?_, fun overwrite member => ?_⟩
  · exact written.tunnel ▸ turn.consistent.below
  · exact written.calls ▸ written.tunnel ▸ turn.consistent.pending
  · exact written.calls ▸ written.tunnel ▸ turn.consistent.called
  · obtain ⟨device, found, states⟩ := written.published did device' published
    funext code
    have stated : runtime.drain.stated did code = runtime.stated did code :=
      congrFun (congrFun written.stated did) code
    rw [states code, stated, turn.stated did device found code, writtenValue, settledValue]
    refine List.foldl_ext _ _ _ fun held next member => ?_
    cases told : next.newer with
    | none => rfl
    | some newer =>
        have same := turn.newer next member newer told
        rw [Option.getD_some, same]
  · rcases written.overwrites overwrite member with old | ⟨next, inside, told, value⟩
    · exact turn.kept overwrite old
    · exact (turn.newer next inside overwrite.1 told).trans value

/-- A tunnel that does something on its own leaves traits and statements alone. -/
theorem Invariant.withTunnel (invariant : Invariant runtime) (label : Correlation.Label)
    {tunnel : Tunnel} {effects : List Effect}
    (responds : Correlation.respond runtime.tunnel label = .ok (tunnel, effects))
    (quiet : ∀ cmd data, label ≠ .request cmd data) : Invariant (runtime.withTunnel tunnel) := by
  have moves := Correlation.move_of_respond invariant.consistent.below responds
  exact ⟨invariant.consistent.withTunnel moves quiet, invariant.ready, invariant.stated,
    invariant.kept⟩

theorem Invariant.set (invariant : Invariant runtime) (did code : String) (value : Json) :
    Invariant (runtime.set did code value) := by
  have consistent := invariant.consistent.set did code value
  revert consistent
  rw [Runtime.set]
  split
  · exact fun _ => invariant
  · split
    · exact fun consistent => ⟨consistent, invariant.ready, invariant.stated, invariant.kept⟩
    · exact fun _ => invariant

/-- An orderly label keeps the invariant. -/
theorem Invariant.perform (invariant : Invariant runtime) {label : Label}
    (orderly : Orderly runtime label) {next : Runtime} (performed : perform runtime label = .ok next) :
    Invariant next := by
  cases label with
  | set did code value =>
      cases performed
      exact invariant.set did code value
  | chunk messages =>
      obtain ⟨middle, received, done⟩ := bind_eq_ok_iff.mp performed
      cases done
      exact ((invariant.turn orderly).receiveAll received).drain
  | keepalive now =>
      cases performed
      exact invariant.withTunnel (.keepalive now) rfl fun _ _ => nofun
  | sendFailed seq error =>
      cases performed
      exact invariant.withTunnel (.sendFailed seq error) rfl fun _ _ => nofun
  | timeout seq =>
      cases performed
      exact invariant.withTunnel (.timeout seq) rfl fun _ _ => nofun
  | close =>
      cases performed
      exact invariant.withTunnel .close rfl fun _ _ => nofun
  | socketClose =>
      cases performed
      exact invariant.withTunnel .socketClose rfl fun _ _ => nofun

/-- A lamp that has just been published. -/
def lampPublished : Runtime :=
  ⟨Tunnel.openTunnel, ⟨[("lumi.lamp", lamp)]⟩, [], [], fun _ _ => none, []⟩

/-- The hub reports that the lamp is off. -/
def lampReportsOff : Json :=
  .object [("cmd", .string "report"), ("data", .object [("did", .string "lumi.lamp"),
    ("attrs", .object [("2.132.32920", .bool false)])])]

end LastWord
end Port
end AqaraLanLink
