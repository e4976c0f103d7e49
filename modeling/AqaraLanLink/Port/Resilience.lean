import AqaraLanLink.Library.Fallible
import AqaraLanLink.Port.Tunnel
import AqaraLanLink.Port.Platform

/-!
# What the hub can make the port throw

An exception in a socket callback is caught by nobody.  `onData` throws for one kind of session
frame, and `onMessage` for reports whose values a `changed` listener cannot turn into a number.
-/

namespace AqaraLanLink
namespace Port

open Library

/-! ## Reports -/

namespace AqaraDevice

theorem state_setState (device : AqaraDevice) (code other : String) (value : Json) :
    (device.setState code value).state other =
      if other = code then some value else device.state other := by
  rw [setState]
  exact Function.update_apply _ _ _ _

theorem has_eq_true_iff {device : AqaraDevice} {code : String} {value : Json} :
    device.has code value = true ↔
      ∃ known, device.state code = some known ∧ known.strictEq value = true := by
  simp [has, Option.any_eq_true]

theorem has_of_not_convertible {device : AqaraDevice} {levels : ℕ} {code : String} {value : Json}
    (poison : value.convertible levels = false) : device.has code value = false := by
  cases known : device.state code with
  | none => simp [has, known]
  | some known' => simp [has, known, Json.strictEq_of_not_convertible poison]

/-- The values that `MatterTwin.state` turns into numbers all convert. -/
def NumbersConvert (device : AqaraDevice) : Prop :=
  ∀ number ∈ matterNumbers, device.can number = true →
    ∀ held, device.state number = some held → held.convertible device.levels = true

theorem matterConversions_eq_ok_iff {device : AqaraDevice} :
    device.matterConversions = .ok () ↔ device.NumbersConvert := by
  rw [matterConversions, forM_eq_ok_iff]
  refine forall₂_congr fun number _ => ?_
  cases device.state number with
  | none => simp
  | some held =>
      cases device.can number with
      | false => simp
      | true => simp [Json.toPrimitive_eq_ok_iff]

theorem listeners_return_iff {device : AqaraDevice} {code : String} {value : Json} :
    device.listeners.forM (device.runListener code value) = .ok () ↔
      (.button ∈ device.listeners → code = "ButtonEvent" →
        value.convertible device.levels = true) ∧
        (.matter ∈ device.listeners → device.NumbersConvert) := by
  rw [forM_eq_ok_iff]
  have button : device.runListener code value .button = .ok () ↔
      (code = "ButtonEvent" → value.convertible device.levels = true) := by
    rw [runListener]
    split <;> rename_i pressed
    · simp [pressed]
    · simp [not_not.mp pressed, Json.toPrimitive_eq_ok_iff]
  have matter : device.runListener code value .matter = .ok () ↔ device.NumbersConvert :=
    matterConversions_eq_ok_iff
  constructor
  · intro quiet
    exact ⟨fun member => button.mp (quiet _ member), fun member => matter.mp (quiet _ member)⟩
  · rintro ⟨buttons, matters⟩ listener member
    cases listener with
    | push => rfl
    | button => exact button.mpr (buttons member)
    | matter => exact matter.mpr (matters member)

/-- Whether an entry of a report says something new about the device. -/
def isNews (device : AqaraDevice) (entry : String × Json) : Bool :=
  match device.codeFor entry.1 with
  | some code => !device.has code entry.2
  | none => false

/-- The code of the first entry that says something new. -/
def firstNews (device : AqaraDevice) (entries : List (String × Json)) : Option String :=
  (entries.find? device.isNews).bind fun entry => device.codeFor entry.1

/-- The entries of a report that no `changed` listener of the device throws at. -/
structure Quiet (device : AqaraDevice) (entries : List (String × Json)) : Prop where
  /-- The press listener converts the values of a button. -/
  button : .button ∈ device.listeners → ∀ entry ∈ entries,
    device.codeFor entry.1 = some "ButtonEvent" → entry.2.convertible device.levels = true
  /-- The Matter listener converts the values of four codes. -/
  matter : .matter ∈ device.listeners → ∀ entry ∈ entries, ∀ number ∈ matterNumbers,
    device.codeFor entry.1 = some number → entry.2.convertible device.levels = true
  /-- It also converts what is held for them, from the first news on. -/
  held : .matter ∈ device.listeners → ∀ code, device.firstNews entries = some code →
    ∀ number ∈ matterNumbers, number ≠ code → device.can number = true →
      ∀ known, device.state number = some known → known.convertible device.levels = true

theorem quiet_nil (device : AqaraDevice) : Quiet device [] :=
  ⟨nofun, nofun, nofun⟩

theorem firstNews_cons_of_unknown {device : AqaraDevice} {path : String} {value : Json}
    {entries : List (String × Json)} (unknown : device.codeFor path = none) :
    device.firstNews ((path, value) :: entries) = device.firstNews entries := by
  simp [firstNews, isNews, unknown]

theorem firstNews_cons_of_has {device : AqaraDevice} {path code : String} {value : Json}
    {entries : List (String × Json)} (found : device.codeFor path = some code)
    (known : device.has code value = true) :
    device.firstNews ((path, value) :: entries) = device.firstNews entries := by
  simp [firstNews, isNews, found, known]

theorem firstNews_cons_of_news {device : AqaraDevice} {path code : String} {value : Json}
    {entries : List (String × Json)} (found : device.codeFor path = some code)
    (news : device.has code value = false) :
    device.firstNews ((path, value) :: entries) = some code := by
  simp [firstNews, isNews, found, news]

/-- An entry that is no news may hold anything that converts. -/
theorem quiet_cons_of_same {device : AqaraDevice} {path : String} {value : Json}
    {entries : List (String × Json)}
    (same : device.firstNews ((path, value) :: entries) = device.firstNews entries)
    (harmless : ∀ code, device.codeFor path = some code →
      value.convertible device.levels = true) :
    Quiet device ((path, value) :: entries) ↔ Quiet device entries := by
  constructor
  · rintro ⟨button, matter, held⟩
    exact ⟨fun member => (List.forall_mem_cons.mp (button member)).2,
      fun member => (List.forall_mem_cons.mp (matter member)).2, same ▸ held⟩
  · rintro ⟨button, matter, held⟩
    exact ⟨fun member => List.forall_mem_cons.mpr ⟨harmless _, button member⟩,
      fun member => List.forall_mem_cons.mpr ⟨fun _ _ => harmless _, matter member⟩, same ▸ held⟩

/-- An entry that is news is quiet when its listeners are, and the rest follows it quietly. -/
theorem quiet_cons_of_news {device : AqaraDevice} {path code : String} {value : Json}
    {entries : List (String × Json)} (found : device.codeFor path = some code)
    (news : device.has code value = false) :
    Quiet device ((path, value) :: entries) ↔
      (device.setState code value).listeners.forM
          ((device.setState code value).runListener code value) = .ok () ∧
        Quiet (device.setState code value) entries := by
  rw [listeners_return_iff]
  constructor
  · rintro ⟨button, matter, held⟩
    have numbers : .matter ∈ device.listeners → (device.setState code value).NumbersConvert := by
      intro member number isNumber able known knows
      rw [state_setState] at knows
      split at knows <;> rename_i match_code
      · cases knows
        exact matter member _ List.mem_cons_self number isNumber (match_code ▸ found)
      · exact held member code (firstNews_cons_of_news found news) number isNumber match_code able
          known knows
    refine ⟨⟨fun member press => ?_, numbers⟩, ?_, ?_, ?_⟩
    · exact button member _ List.mem_cons_self (press ▸ found)
    · exact fun member => (List.forall_mem_cons.mp (button member)).2
    · exact fun member => (List.forall_mem_cons.mp (matter member)).2
    · exact fun member _ _ number isNumber _ able known knows =>
        numbers member number isNumber able known knows
  · rintro ⟨⟨press, numbers⟩, button, matter, -⟩
    refine ⟨?_, ?_, ?_⟩
    · intro member
      refine List.forall_mem_cons.mpr ⟨fun pressed => ?_, button member⟩
      exact press member (Option.some.inj (found.symm.trans pressed))
    · intro member
      refine List.forall_mem_cons.mpr ⟨fun number isNumber named => ?_, matter member⟩
      have same : number = code := Option.some.inj (named.symm.trans found)
      have able : device.can number = true := by
        obtain ⟨spec, inside⟩ := codeFor_eq_some_iff.mp named
        rw [can, List.lookup_isSome_iff]
        exact ⟨_, inside, by simp⟩
      exact numbers member number isNumber able value (by simp [state_setState, same])
    · intro member first isFirst number isNumber other able known knows
      have same : first = code :=
        Option.some.inj (isFirst.symm.trans (firstNews_cons_of_news found news))
      refine numbers member number isNumber able known ?_
      rw [state_setState, if_neg (same ▸ other)]
      exact knows

theorem record_of_has {device : AqaraDevice} {code : String} {value : Json}
    (known : device.has code value = true) : device.record code value = .ok (device, false) := by
  simp [record, known]

theorem record_of_news {device : AqaraDevice} {code : String} {value : Json}
    {result : AqaraDevice × Bool} (news : device.has code value = false) :
    device.record code value = .ok result ↔
      (device.setState code value).listeners.forM
          ((device.setState code value).runListener code value) = .ok () ∧
        result = (device.setState code value, true) := by
  rw [record, if_neg (by simp [news]), bind_eq_ok_iff]
  constructor
  · rintro ⟨_, announced, done⟩
    cases done
    exact ⟨announced, rfl⟩
  · rintro ⟨announced, rfl⟩
    exact ⟨_, announced, rfl⟩

/-- After `record` the code holds the value, and every other code what it held. -/
theorem state_of_record {device result : AqaraDevice} {code : String} {value : Json} {news : Bool}
    (recorded : device.record code value = .ok (result, news)) :
    result.capabilities = device.capabilities ∧
      ∀ other, result.state other = if other = code then some value else device.state other := by
  rw [record] at recorded
  split at recorded
  · rename_i known
    cases recorded
    refine ⟨rfl, fun other => ?_⟩
    obtain ⟨held, knows, equal⟩ := has_eq_true_iff.mp known
    split
    · rename_i same
      rw [same, knows, Json.eq_of_strictEq equal]
    · rfl
  · obtain ⟨_, _, done⟩ := bind_eq_ok_iff.mp recorded
    cases done
    exact ⟨rfl, fun other => state_setState device code other value⟩

/-- `report` returns exactly for quiet entries. -/
theorem reportLoop_returns_iff (device : AqaraDevice) (entries : List (String × Json)) :
    Returns (device.reportLoop entries) ↔ Quiet device entries := by
  induction entries generalizing device with
  | nil => exact ⟨fun _ => quiet_nil device, fun _ => returns_ok _⟩
  | cons entry entries induction =>
      obtain ⟨path, value⟩ := entry
      rw [reportLoop]
      cases found : device.codeFor path with
      | none =>
          rw [quiet_cons_of_same (firstNews_cons_of_unknown found)
            fun code named => absurd (named.symm.trans found) (by simp)]
          exact induction device
      | some code =>
          cases known : device.has code value with
          | true =>
              have harmless : ∀ other, device.codeFor path = some other →
                  value.convertible device.levels = true := fun _ _ => by
                by_contra poison
                rw [has_of_not_convertible (Bool.eq_false_iff.mpr poison)] at known
                exact Bool.noConfusion known
              rw [quiet_cons_of_same (firstNews_cons_of_has found known) harmless,
                ← induction device]
              simp only [record_of_has known]
              exact returns_bind_of_forall fun _ => returns_pure _
          | false =>
              rw [quiet_cons_of_news found known, ← induction]
              rw [returns_bind_iff]
              constructor
              · rintro ⟨_, recorded, rest⟩
                obtain ⟨announced, rfl⟩ := (record_of_news known).mp recorded
                exact ⟨announced, (returns_bind_of_forall fun _ => returns_pure _).mp rest⟩
              · rintro ⟨announced, rest⟩
                exact ⟨_, (record_of_news known).mpr ⟨announced, rfl⟩,
                  (returns_bind_of_forall fun _ => returns_pure _).mpr rest⟩

/-- What `report` leaves behind: every code holds the last value said for it. -/
theorem state_of_reportLoop {device result : AqaraDevice} {entries : List (String × Json)}
    {changed : List String} (reported : device.reportLoop entries = .ok (result, changed)) :
    result.capabilities = device.capabilities ∧ ∀ code, result.state code =
      Json.lastValue (fun path => device.codeFor path = some code) entries (device.state code) := by
  induction entries generalizing device changed with
  | nil =>
      cases reported
      exact ⟨rfl, fun _ => rfl⟩
  | cons entry entries induction =>
      obtain ⟨path, value⟩ := entry
      rw [reportLoop] at reported
      simp only [Json.lastValue_cons]
      cases found : device.codeFor path with
      | none =>
          rw [found] at reported
          simpa using induction reported
      | some code =>
          rw [found] at reported
          obtain ⟨⟨recorded, news⟩, record, rest⟩ := bind_eq_ok_iff.mp reported
          obtain ⟨⟨_, _⟩, looped, same⟩ := bind_eq_ok_iff.mp rest
          cases same
          obtain ⟨capabilities, states⟩ := induction looped
          obtain ⟨kept, state⟩ := state_of_record record
          have codeFor : recorded.codeFor = device.codeFor := by
            funext path
            rw [AqaraDevice.codeFor, kept, ← AqaraDevice.codeFor]
          refine ⟨capabilities.trans kept, fun other => ?_⟩
          rw [states, codeFor, state]
          simp [eq_comm]

end AqaraDevice

namespace Platform

/-- The entries that `onMessage` finds in a message for the device with this id. -/
def heardEntries (message : Json) (did : String) : List (String × Json) :=
  let data := Json.coalesce (message.get? "data") (.object [])
  if isReport message ∧ (data.get? "did").any fun value => value.strictEq (.string did) then
    (attrsOf data).entries
  else []

/-- A message whose entries are quiet for the published device they go to. -/
def Quiet (platform : Platform) (message : Json) : Prop :=
  ∀ did device, platform.devices.lookup did = some device →
    device.Quiet (heardEntries message did)

/-- `onMessage` reports to one published device, or nothing in the message is for any of them. -/
theorem onMessage_cases (platform : Platform) (message : Json) :
    (∃ did device, platform.devices.lookup did = some device ∧
      (∀ other, other ≠ did → heardEntries message other = []) ∧
      platform.onMessage message = (do
        let (device, _) ← device.reportLoop (heardEntries message did)
        pure (platform.setDevice did device))) ∨
      platform.onMessage message = .ok platform ∧
        ∀ did device, platform.devices.lookup did = some device → heardEntries message did = [] := by
  simp only [onMessage, heardEntries]
  cases isReport message with
  | false => exact Or.inr ⟨rfl, fun _ _ _ => rfl⟩
  | true =>
      generalize Json.coalesce (message.get? "data") (.object []) = data
      cases data.get? "did" with
      | none => exact Or.inr ⟨rfl, fun _ _ _ => rfl⟩
      | some address =>
          cases address with
          | string did =>
              simp only [device?, Option.any_some, Json.strictEq]
              cases found : platform.devices.lookup did with
              | none =>
                  refine Or.inr ⟨rfl, fun other device published => if_neg ?_⟩
                  rintro ⟨-, same⟩
                  rw [beq_iff_eq.mp same, published] at found
                  exact Option.some_ne_none device found
              | some device =>
                  refine Or.inl ⟨did, device, found, fun other distinct => if_neg ?_, ?_⟩
                  · exact fun same => distinct (beq_iff_eq.mp same.2).symm
                  · simp [AqaraDevice.report]
          | _ => exact Or.inr ⟨rfl, fun _ _ _ => by simp [Json.strictEq]⟩

/-- `onMessage` returns exactly for quiet messages. -/
theorem onMessage_returns_iff (platform : Platform) (message : Json) :
    Returns (platform.onMessage message) ↔ platform.Quiet message := by
  rcases onMessage_cases platform message with ⟨did, device, found, silent, reports⟩ | ⟨same, silent⟩
  · rw [reports]
    refine Iff.trans (returns_bind_of_forall fun _ => returns_pure _) ?_
    rw [AqaraDevice.reportLoop_returns_iff]
    constructor
    · intro quiet other published member
      by_cases same : other = did
      · subst same
        rw [Option.some.inj (member.symm.trans found)]
        exact quiet
      · rw [silent other same]
        exact AqaraDevice.quiet_nil _
    · exact fun quiet => quiet did device found
  · rw [same]
    refine ⟨fun _ did device published => ?_, fun _ => returns_ok _⟩
    rw [silent did device published]
    exact AqaraDevice.quiet_nil _

theorem lookup_setDevice (platform : Platform) (did other : String) (device : AqaraDevice) :
    (platform.setDevice did device).devices.lookup other =
      (platform.devices.lookup other).map fun published =>
        if other = did then device else published := by
  obtain ⟨devices⟩ := platform
  simp only [setDevice]
  induction devices with
  | nil => rfl
  | cons entry devices induction =>
      obtain ⟨key, published⟩ := entry
      rw [List.map_cons]
      by_cases this : key = did
      · simp only [this, if_true, List.lookup_cons]
        cases match_key : other == did with
        | true => simp [beq_iff_eq.mp match_key]
        | false => exact induction
      · simp only [this, if_false, List.lookup_cons]
        cases match_key : other == key with
        | true => simp [beq_iff_eq.mp match_key, this]
        | false => exact induction

/-- `onMessage` publishes and forgets no device, and every code of a device then holds the last value
that the message has for it. -/
theorem published_of_onMessage {platform result : Platform} {message : Json}
    (returned : platform.onMessage message = .ok result) (did : String) :
    (platform.devices.lookup did = none ∧ result.devices.lookup did = none) ∨
      ∃ device device', platform.devices.lookup did = some device ∧
        result.devices.lookup did = some device' ∧ device'.capabilities = device.capabilities ∧
          ∀ code, device'.state code =
            Json.lastValue (fun path => device.codeFor path = some code) (heardEntries message did)
              (device.state code) := by
  rcases onMessage_cases platform message with ⟨key, addressed, found, silent, reports⟩ | ⟨same, silent⟩
  · rw [reports] at returned
    obtain ⟨⟨device', changed⟩, reported, done⟩ := bind_eq_ok_iff.mp returned
    cases done
    by_cases same : did = key
    · subst same
      obtain ⟨capabilities, states⟩ := AqaraDevice.state_of_reportLoop reported
      exact Or.inr ⟨addressed, device', found, by simp [lookup_setDevice, found], capabilities, states⟩
    · cases published : platform.devices.lookup did with
      | none => exact Or.inl ⟨rfl, by simp [lookup_setDevice, published]⟩
      | some device =>
          refine Or.inr ⟨device, device, rfl, by simp [lookup_setDevice, published, same], rfl, ?_⟩
          intro code
          rw [silent did same]
          rfl
  · rw [same] at returned
    cases returned
    cases published : platform.devices.lookup did with
    | none => exact Or.inl ⟨rfl, rfl⟩
    | some device =>
        refine Or.inr ⟨device, device, rfl, rfl, rfl, fun code => ?_⟩
        rw [silent did device published]
        rfl

/-- What `onMessage` leaves behind in a published device. -/
theorem state_of_onMessage {platform result : Platform} {message : Json}
    (returned : platform.onMessage message = .ok result) {did : String} {device : AqaraDevice}
    (published : platform.devices.lookup did = some device) :
    ∃ device', result.devices.lookup did = some device' ∧
      ∀ code, device'.state code =
        Json.lastValue (fun path => device.codeFor path = some code) (heardEntries message did)
          (device.state code) := by
  rcases published_of_onMessage returned did with ⟨absent, -⟩ | ⟨other, device', found, found', -, states⟩
  · exact nomatch absent.symm.trans published
  · cases Option.some.inj (found.symm.trans published)
    exact ⟨device', found', states⟩

end Platform

/-! ## Chunks of bytes -/

namespace Tunnel

/-- What `onFrame` does with a frame. -/
inductive Accounted : Frame → Effect → Prop
  /-- It settles the caller that waits for a handshake frame. -/
  | handshake (frame : Frame) (expected : ℕ) : Accounted frame (.handshake expected frame)
  /-- It is queued for such a caller. -/
  | queued (frame : Frame) : Accounted frame (.queued frame)
  /-- It resolves a pending request. -/
  | resolved (frame : Frame) (seq : ℕ) (message : Json) : Accounted frame (.resolved seq message)
  /-- It is emitted as a message. -/
  | message (frame : Frame) (message : Json) : Accounted frame (.message message)
  /-- It is reported through the error event. -/
  | error (frame : Frame) (error : String) : Accounted frame (.error error)

section

variable (aesCbcDecrypt : List UInt8 → List UInt8 → Except String (List UInt8))
variable (parseJson : List UInt8 → Except String Json)

/-- A session frame whose text is the JSON value `null`. -/
def SaysNull (tunnel : Tunnel) (frame : Frame) : Prop :=
  ∃ key, tunnel.sessionKey = some key ∧ frame.type = msgTypeSession ∧
    readMessage aesCbcDecrypt parseJson key frame = .ok .null

theorem dispatch_accounted (tunnel : Tunnel) {message : Json} (present : message ≠ .null) :
    ∃ tunnel' effect, tunnel.dispatch message = .ok (tunnel', effect) ∧
      tunnel'.sessionKey = tunnel.sessionKey ∧ ∀ frame, Accounted frame effect := by
  rw [dispatch_of_ne_null present]
  cases tunnel.waitingFor (message.get? "seq") with
  | some waiting => exact ⟨_, _, rfl, rfl, fun frame => .resolved frame _ _⟩
  | none => exact ⟨_, _, rfl, rfl, fun frame => .message frame _⟩

theorem onHandshakeFrame_accounted (tunnel : Tunnel) (frame : Frame) :
    (tunnel.onHandshakeFrame frame).1.sessionKey = tunnel.sessionKey ∧
      Accounted frame (tunnel.onHandshakeFrame frame).2 := by
  rw [onHandshakeFrame]
  split
  · exact ⟨rfl, .handshake _ _⟩
  · exact ⟨rfl, .queued _⟩

/-- `onFrame` throws for a frame that says `null` and accounts for every other. -/
theorem onFrame_cases (tunnel : Tunnel) (frame : Frame) :
    (tunnel.SaysNull aesCbcDecrypt parseJson frame ∧
      ∃ error, tunnel.onFrame aesCbcDecrypt parseJson frame = .error error) ∨
      ¬ tunnel.SaysNull aesCbcDecrypt parseJson frame ∧ ∃ tunnel' effect,
        tunnel.onFrame aesCbcDecrypt parseJson frame = .ok (tunnel', effect) ∧
          tunnel'.sessionKey = tunnel.sessionKey ∧ Accounted frame effect := by
  by_cases handshake : tunnel.sessionKey = none ∨ frame.type ≠ msgTypeSession
  · obtain ⟨same, accounted⟩ := onHandshakeFrame_accounted tunnel frame
    refine Or.inr ⟨?_, _, _, onFrame_of_handshake _ _ handshake, same, accounted⟩
    rintro ⟨key, opened, session, -⟩
    exact handshake.elim (fun closed => nomatch closed.symm.trans opened) fun other => other session
  · rw [not_or, not_not] at handshake
    obtain ⟨key, opened⟩ := Option.ne_none_iff_exists'.mp handshake.1
    have sole : tunnel.SaysNull aesCbcDecrypt parseJson frame ↔
        readMessage aesCbcDecrypt parseJson key frame = .ok .null := by
      refine ⟨?_, fun said => ⟨key, opened, handshake.2, said⟩⟩
      rintro ⟨key', opened', -, said⟩
      rwa [Option.some.inj (opened.symm.trans opened')]
    rw [sole, onFrame_of_session _ _ opened handshake.2]
    cases said : readMessage aesCbcDecrypt parseJson key frame with
    | error error => exact Or.inr ⟨nofun, _, _, rfl, rfl, .error _ _⟩
    | ok message =>
        by_cases null : message = .null
        · rw [null]
          exact Or.inl ⟨rfl, _, rfl⟩
        · obtain ⟨tunnel', effect, returned, same, accounted⟩ :=
            dispatch_accounted tunnel null
          exact Or.inr ⟨fun isNull => null (Except.ok.inj isNull), tunnel', effect, returned, same,
            accounted frame⟩

/-- What an effect hands to the `message` listener. -/
def pushed : Effect → List Json
  | .message message => [message]
  | _ => []

/-- The messages that frames bring to the `message` listener, in order. -/
def pushes (tunnel : Tunnel) : List Frame → List Json
  | [] => []
  | frame :: frames =>
      match tunnel.onFrame aesCbcDecrypt parseJson frame with
      | .error _ => []
      | .ok (tunnel, effect) => pushed effect ++ pushes tunnel frames

variable {World : Type} (listener : World → Json → Except String World)

/-- `onData` returns, and accounts for every complete frame, in order. -/
def Survives (tunnel : Tunnel) (world : World) (chunk : List UInt8) : Prop :=
  ∃ tunnel' world' accounts closing,
    tunnel.onData aesCbcDecrypt parseJson listener world chunk =
        .ok (tunnel', world', accounts ++ closing) ∧
      List.Forall₂ Accounted (splitFrames (tunnel.buffer ++ chunk)).1 accounts

theorem runListener_eq_foldlM (world : World) (effect : Effect) :
    runListener listener world effect = (pushed effect).foldlM listener world := by
  cases effect with
  | message message =>
      change listener world message = (listener world message >>= pure)
      rw [bind_pure]
  | _ => rfl

/-- The loop of `onData` returns exactly when no frame says `null` and the listener returns. -/
theorem onDataLoop_returns_iff (buffer : List UInt8) (tunnel : Tunnel) (world : World) :
    (∃ tunnel' world' accounts closing,
      onDataLoop aesCbcDecrypt parseJson listener buffer tunnel world =
          .ok (tunnel', world', accounts ++ closing) ∧
        List.Forall₂ Accounted (splitFrames buffer).1 accounts) ↔
      (∀ frame ∈ (splitFrames buffer).1, ¬ tunnel.SaysNull aesCbcDecrypt parseJson frame) ∧
        Returns ((tunnel.pushes aesCbcDecrypt parseJson (splitFrames buffer).1).foldlM
          listener world) := by
  induction buffer using splitFrames.induct generalizing tunnel world with
  | case1 buffer error parsed =>
      rw [splitFrames_of_error parsed, onDataLoop_of_error _ _ _ _ _ parsed]
      exact ⟨fun _ => ⟨nofun, returns_pure _⟩, fun _ => ⟨_, _, [], _, rfl, .nil⟩⟩
  | case2 buffer parsed =>
      rw [splitFrames_of_none parsed, onDataLoop_of_none _ _ _ _ _ parsed]
      exact ⟨fun _ => ⟨nofun, returns_pure _⟩, fun _ => ⟨_, _, [], [], rfl, .nil⟩⟩
  | case3 buffer frame rest parsed induction =>
      rw [splitFrames_of_some parsed, onDataLoop_of_some _ _ _ _ _ parsed, List.forall_mem_cons]
      rcases onFrame_cases aesCbcDecrypt parseJson tunnel frame with
        ⟨null, error, thrown⟩ | ⟨present, tunnel', effect, returned, opened, accounted⟩
      · rw [thrown, error_bind]
        exact ⟨fun ⟨_, _, _, _, impossible, _⟩ => (nomatch impossible),
          fun ⟨⟨spoken, _⟩, _⟩ => absurd null spoken⟩
      · have saysNull : ∀ frame, tunnel'.SaysNull aesCbcDecrypt parseJson frame ↔
            tunnel.SaysNull aesCbcDecrypt parseJson frame := fun _ => by
          rw [SaysNull, SaysNull, opened]
        have pushes_eq : tunnel.pushes aesCbcDecrypt parseJson (frame :: (splitFrames rest).1) =
            pushed effect ++ tunnel'.pushes aesCbcDecrypt parseJson (splitFrames rest).1 := by
          rw [pushes, returned]
        rw [returned, ok_bind, pushes_eq, List.foldlM_append, ← runListener_eq_foldlM, returns_bind_iff]
        constructor
        · rintro ⟨tunnel'', world'', accounts, closing, loops, all⟩
          obtain ⟨world', listened, loops⟩ := bind_eq_ok_iff.mp loops
          obtain ⟨⟨_, _, effects⟩, looped, done⟩ := bind_eq_ok_iff.mp loops
          cases all with
          | cons first others =>
              cases done
              obtain ⟨quiet, later⟩ := (induction tunnel' world').mp ⟨_, _, _, _, looped, others⟩
              exact ⟨⟨present, fun frame member null =>
                quiet frame member ((saysNull frame).mpr null)⟩, world', listened, later⟩
        · rintro ⟨⟨-, quiet⟩, world', listened, later⟩
          obtain ⟨tunnel'', world'', accounts, closing, looped, all⟩ :=
            (induction tunnel' world').mpr
              ⟨fun frame member null => quiet frame member ((saysNull frame).mp null), later⟩
          refine ⟨tunnel'', world'', effect :: accounts, closing, ?_, .cons accounted all⟩
          exact bind_eq_ok_iff.mpr ⟨world', listened, bind_eq_ok_iff.mpr ⟨_, looped, rfl⟩⟩

end
end Tunnel

/-- What the hub sends makes neither `onData` nor `onMessage` throw, exactly when no session frame
says `null` and every report is quiet for its device. -/
theorem hub_input_returns_iff (aesCbcDecrypt : List UInt8 → List UInt8 → Except String (List UInt8))
    (parseJson : List UInt8 → Except String Json) {World : Type}
    (listener : World → Json → Except String World) (tunnel : Tunnel) (world : World)
    (chunk : List UInt8) (platform : Platform) (message : Json) :
    (tunnel.Survives aesCbcDecrypt parseJson listener world chunk ↔
      (∀ frame ∈ (splitFrames (tunnel.buffer ++ chunk)).1,
        ¬ tunnel.SaysNull aesCbcDecrypt parseJson frame) ∧
        Returns ((tunnel.pushes aesCbcDecrypt parseJson
          (splitFrames (tunnel.buffer ++ chunk)).1).foldlM listener world)) ∧
      (Returns (platform.onMessage message) ↔ platform.Quiet message) :=
  ⟨Tunnel.onDataLoop_returns_iff _ _ _ (tunnel.buffer ++ chunk) tunnel world,
    Platform.onMessage_returns_iff platform message⟩

/-- The text `null` under the session key of `openTunnel`, which is also the initialisation
vector. -/
def nullCiphertext : List UInt8 :=
  [254, 170, 238, 240, 12, 39, 185, 87, 109, 43, 221, 170, 248, 255, 94, 33]

/-- The session frame that carries it. -/
def nullFrame : List UInt8 :=
  [0xFF, 0xFE, 0x20, 0x21, 0, 0, 0, 16] ++ nullCiphertext ++ [35, 8]

/-- AES decryption, as far as the frame needs it. -/
def decryptNull (key ciphertext : List UInt8) : Except String (List UInt8) :=
  if key = List.replicate 16 7 ∧ ciphertext = nullCiphertext then .ok "null".toUTF8.data.toList
  else .error "bad decrypt"

/-- `JSON.parse`, as far as the frame needs it. -/
def parseNull (text : List UInt8) : Except String Json :=
  if text = "null".toUTF8.data.toList then .ok .null else .error "Unexpected token"

/-- A button and nothing else, as HomeKit publishes it. -/
def button : AqaraDevice :=
  { deviceId := "lumi.button"
    model := "lumi.sensor_switch.aq3"
    hasHub := true
    capabilities := capabilities
      [("1.147.32944", ⟨some "CurrentVoltage", false, none, none, some "float"⟩),
        ("1.147.32969", ⟨some "StateOfLowBat", false, none, none, some "enum"⟩),
        ("2.135.32928", ⟨some "ButtonEvent", false, none, none, some "enum"⟩)] (by decide)
    state := fun _ => none
    listeners := [.button, .push]
    levels := 4000 }

/-- A report whose value has a `toString` that is not a function. -/
def poisonedPress : Json :=
  .object [("cmd", .string "report"), ("data", .object [("did", .string "lumi.button"),
    ("attrs", .object [("2.135.32928", .object [("toString", .null)])])])]

/-- A session frame that says `null` makes `onData` throw, and so does a value without a number for
a button in `onMessage`. -/
theorem null_and_poisoned_press_throw :
    ¬ Tunnel.openTunnel.Survives decryptNull parseNull (fun world _ => .ok world) () nullFrame ∧
      ¬ Returns (Platform.onMessage ⟨[("lumi.button", button)]⟩ poisonedPress) := by
  constructor
  · have parsed : parseFrame nullFrame = .ok (some (⟨msgTypeSession, nullCiphertext⟩, [])) := by
      decide +kernel
    have said : Tunnel.openTunnel.SaysNull decryptNull parseNull
        ⟨msgTypeSession, nullCiphertext⟩ := ⟨_, rfl, rfl, rfl⟩
    intro survives
    have quiet := ((Tunnel.onDataLoop_returns_iff _ _ _ _ _ _).mp survives).1
    change ∀ frame ∈ (splitFrames nullFrame).1, _ at quiet
    rw [splitFrames_of_some parsed] at quiet
    exact quiet _ List.mem_cons_self said
  · rw [Platform.onMessage_returns_iff]
    intro quiet
    exact absurd ((quiet "lumi.button" button rfl).button (by decide) _ List.mem_cons_self rfl)
      (by decide)

end Port
end AqaraLanLink
