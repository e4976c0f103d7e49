import AqaraLanLink.Library.JsonDepth
import AqaraLanLink.Library.Runs
import AqaraLanLink.Reference.PtzWire

/-!
# What a datagram can do to a camera session

`ptz/session.py`: a session looks for its camera, goes through the handshake, and then takes in the
camera's commands.  It reads whatever comes to its port.  The loops are those of the source, a turn at
a time; time only decides whether something is due to be sent again, and when to give up.
-/

namespace AqaraLanLink
namespace Reference
namespace PtzDatagrams

open Library JsonText Endian PtzWire

def ctrlLanSearch : ℕ := 0x30
def ctrlSearch : ℕ := 0x41
def ctrlConfirmAlt : ℕ := 0x42
def ctrlReply : ℕ := 0x43
def ctrlConfirm : ℕ := 0x44
def ctrlReady : ℕ := 0xE0
def ctrlKeepalive : ℕ := 0x30
def lanSearchPort : ℕ := 32108

/-! ## The session -/

structure Address where
  host : String
  port : ℕ
  deriving DecidableEq, Repr

structure Datagram where
  wire : List UInt8
  addr : Address

/-- What a `PtzSession` is given; the address of the camera is numeric. -/
structure Config where
  key : String
  didBlob : List UInt8
  cameraIp : String
  portRange : List ℕ
  broadcastAddr : String
  sendLogin : Bool
  expectReadyReply : Bool

/-- Where the session is, with what it has at hand there. -/
inductive Stage where
  /-- The loop of `_discover_peer`. -/
  | discovering (lanSearch legacySearch : List UInt8)
  /-- The loop of `_do_handshake`. -/
  | handshaking (peer : Address) (hello ack : List UInt8) (gotReply gotConfirm camReady : Bool)
  /-- The loop of `_do_ready`. -/
  | readying (peer : Address)
  /-- Connected, with nobody to take a command in. -/
  | idle (peer : Address)
  /-- The loop of `recv_ioctl`. -/
  | receiving (peer : Address)
  /-- `connect` has raised `PptzTimeout`. -/
  | timedOut
  /-- `connect` or `recv_ioctl` has raised something else. -/
  | raised (exception : Exception)

section
variable (F : Type)

structure Session where
  stage : Stage
  sessionInfo : List UInt8
  /-- What has been sent, in order. -/
  sent : List (List UInt8 × Address)
  /-- What the calls of `recv_ioctl` have returned, in order. -/
  returned : List (Option (ℕ × ℕ × Value F))

/-- What one turn of a loop is about. -/
inductive Event where
  /-- The deadline is past. -/
  | late
  /-- What comes in in this turn, after what is due has been sent again. -/
  | got (due : Bool) (datagram : Option Datagram)

end

variable {F : Type}

namespace Session

def sendto (session : Session F) (wire : List UInt8) (target : Address) : Session F :=
  { session with sent := session.sent ++ [(wire, target)] }

def enter (session : Session F) (stage : Stage) : Session F := { session with stage }

/-- `except ValueError: continue`. -/
def refuse (session : Session F) (exception : Exception) : Session F :=
  if exception.isValueError then session else session.enter (.raised exception)

end Session

/-! ### The handshake -/

/-- `connect`, up to the first turn of `_discover_peer`. -/
def connect (config : Config) : Except Exception (Session F) := do
  let lanSearch ← buildControl config.key ctrlLanSearch []
  let legacySearch ← buildControl config.key ctrlSearch config.didBlob
  .ok ⟨.discovering lanSearch legacySearch, [], [], []⟩

/-- Where `_discover_peer` sends its searches. -/
def searches (config : Config) (lanSearch legacySearch : List UInt8) :
    List (List UInt8 × Address) :=
  [config.broadcastAddr, "255.255.255.255", config.cameraIp].map
      (fun host => (lanSearch, ⟨host, lanSearchPort⟩)) ++
    config.portRange.map fun port => (legacySearch, ⟨config.cameraIp, port⟩)

/-- `_do_handshake`, up to its first turn. -/
def doHandshake (config : Config) (session : Session F) (peer : Address) : Session F :=
  match (do
    let hello ← buildControl config.key ctrlSearch config.didBlob
    let ack ← buildControl config.key ctrlKeepalive []
    .ok (hello, ack)) with
  | .error exception => session.enter (.raised exception)
  | .ok (hello, ack) =>
      { session with
        stage := .handshaking peer hello ack false false false
        sessionInfo := [] }

/-- A turn of `_discover_peer`. -/
def discoverTurn (config : Config) (session : Session F) (lanSearch legacySearch : List UInt8) :
    Event → Session F
  | .late => session.enter .timedOut
  | .got due datagram =>
      let session :=
        if due then
          { session with sent := session.sent ++ searches config lanSearch legacySearch }
        else session
      match datagram with
      | none => session
      | some datagram =>
          if datagram.addr.host ≠ config.cameraIp then session
          else
            match parseControl config.key datagram.wire with
            | .error exception => session.refuse exception
            | .ok _ => doHandshake config session datagram.addr

/-- What a packet says: a reply, a confirmation, and that the camera is ready. -/
structure Deltas where
  reply : Bool
  confirm : Bool
  ready : Bool

/-- `_apply_control_packet`. -/
def applyControlPacket (config : Config) (session : Session F) (peer : Address)
    (hello ack : List UInt8) (typ : ℕ) (payload : List UInt8) : Session F × Deltas :=
  if typ = ctrlSearch then
    (session.sendto (if payload = config.didBlob then hello else ack) peer, ⟨false, false, false⟩)
  else if typ = ctrlReply then
    (if payload.length > config.didBlob.length then
      { session with sessionInfo := payload.drop config.didBlob.length }
     else session, ⟨true, false, false⟩)
  else if typ = ctrlConfirm ∨ typ = ctrlConfirmAlt then (session, ⟨false, true, false⟩)
  else if typ = ctrlReady then (session, ⟨false, false, true⟩)
  else (session, ⟨false, false, false⟩)

/-- `_do_ready`, up to its first turn. -/
def doReady (config : Config) (session : Session F) (peer : Address) (camReady : Bool) :
    Session F :=
  match (do
    let login ←
      if config.sendLogin then (buildControl config.key ctrlSearch config.didBlob).map ([·])
      else .ok []
    let ready ← buildControl config.key ctrlReady []
    .ok (login ++ [ready])) with
  | .error exception => session.enter (.raised exception)
  | .ok wires =>
      { session with
        sent := session.sent ++ wires.map fun wire => (wire, peer)
        stage := if ¬ config.expectReadyReply ∨ camReady then .idle peer else .readying peer }

/-- A turn of `_do_handshake`. -/
def handshakeTurn (config : Config) (session : Session F) (peer : Address)
    (hello ack : List UInt8) (gotReply gotConfirm camReady : Bool) : Event → Session F
  | .late => session.enter .timedOut
  | .got due datagram =>
      let session := if due then session.sendto hello peer else session
      match datagram with
      | none => session
      | some datagram =>
          match parseControl config.key datagram.wire with
          | .error exception => session.refuse exception
          | .ok (typ, payload) =>
              let applied := applyControlPacket config session peer hello ack typ payload
              let gotReply := gotReply || applied.2.reply
              let gotConfirm := gotConfirm || applied.2.confirm
              let camReady := camReady || applied.2.ready
              if gotReply && (gotConfirm || camReady) then doReady config applied.1 peer camReady
              else applied.1.enter (.handshaking peer hello ack gotReply gotConfirm camReady)

/-- A turn of `_do_ready`. -/
def readyTurn (config : Config) (session : Session F) (peer : Address) : Event → Session F
  | .late => session.enter .timedOut
  | .got _ none => session
  | .got _ (some datagram) =>
      match parseControl config.key datagram.wire with
      | .error exception => session.refuse exception
      | .ok (typ, _) => if typ = ctrlReady then session.enter (.idle peer) else session

/-! ### Commands -/

section
variable (floats : Floats F) (levels : ℕ)

/-- What `recv_ioctl` makes of a packet: the type, the id and the body. -/
def readIoctl (inner : List UInt8) : Except Exception (ℕ × ℕ × Value F) := do
  let unwrapped ← unwrapIoctl inner
  parse floats levels unwrapped.2

/-- `recv_ioctl` returns. -/
def Session.give (session : Session F) (peer : Address) (result : Option (ℕ × ℕ × Value F)) :
    Session F :=
  { session with stage := .idle peer, returned := session.returned ++ [result] }

/-- A turn of `recv_ioctl`. -/
def recvTurn (config : Config) (session : Session F) (peer : Address) : Event → Session F
  | .late | .got _ none => session.give peer none
  | .got _ (some datagram) =>
      match deframeDrw config.key datagram.wire with
      | .error exception => session.refuse exception
      | .ok inner =>
          if inner.length ≥ 2 ∧ inner.getD 0 0 = magic ∧ inner.getD 1 0 = drwInnerType then
            match readIoctl floats levels inner with
            | .error exception => session.refuse exception
            | .ok result => session.give peer (some result)
          else session

/-- A turn of the loop that the session is in. -/
def turn (config : Config) (session : Session F) (event : Event) : Session F :=
  match session.stage with
  | .discovering lanSearch legacySearch => discoverTurn config session lanSearch legacySearch event
  | .handshaking peer hello ack gotReply gotConfirm camReady =>
      handshakeTurn config session peer hello ack gotReply gotConfirm camReady event
  | .readying peer => readyTurn config session peer event
  | .receiving peer => recvTurn floats levels config session peer event
  | .idle _ | .timedOut | .raised _ => session

/-- What happens to a session. -/
inductive Label where
  | turn (event : Event)
  /-- `recv_ioctl` is called. -/
  | recvIoctl

/-- The session takes part in it. -/
def Possible (session : Session F) : Label → Prop
  | .turn _ => match session.stage with
      | .discovering .. | .handshaking .. | .readying _ | .receiving _ => True
      | .idle _ | .timedOut | .raised _ => False
  | .recvIoctl => ∃ peer, session.stage = .idle peer

def perform (config : Config) (session : Session F) : Label → Session F
  | .turn event => turn floats levels config session event
  | .recvIoctl =>
      match session.stage with
      | .idle peer => session.enter (.receiving peer)
      | _ => session

/-- A session from the first turn on. -/
def machine (config : Config) : Machine (Session F) Label where
  initial session := connect config = .ok session
  step session label next := Possible session label ∧ next = perform floats levels config session label

/-! ## What the loops catch -/

/-- It returns, or raises what the loops catch. -/
def Caught {α : Type} (computation : Except Exception α) : Prop :=
  ∀ exception, computation = .error exception → exception.isValueError = true

/-- A packet with its type, its length, and a payload that is at least as long. -/
def Whole (dec : List UInt8) : Prop :=
  ∃ type high low rest, dec = magic :: type :: high :: low :: rest ∧
    ofBig [high, low] ≤ rest.length

/-- A packet that ends in its length, and is taken for one without a payload. -/
def EndsInLength (dec : List UInt8) : Prop :=
  ∃ type, dec = [magic, type] ∨ dec = [magic, type, 0]

/-- A command whose body has more brackets inside one another than JSON has calls to go. -/
def DeepIoctl (inner : List UInt8) : Prop :=
  ∃ length number iotype id size behind behind' text,
    inner = [magic, drwInnerType] ++ length ++ ([ioctlMarker] ++ number ++
      (tag ++ iotype ++ id ++ size ++ Utf8.encode text ++ behind)) ++ behind' ∧
    length.length = 2 ∧ number.length = 3 ∧ iotype.length = 4 ∧ id.length = 4 ∧ size.length = 4 ∧
    ofBig length =
      4 + (tag ++ iotype ++ id ++ size ++ Utf8.encode text ++ behind).length ∧
    ofLittle size = (Utf8.encode text).length ∧
    (ofString text).head? ≠ some (.char '\uFEFF') ∧
    Opens floats (levels + 1) (skipSpace (ofString text))

/-- Neither `connect` nor `recv_ioctl` has raised anything but `PptzTimeout`. -/
def Calm (session : Session F) : Prop := ∀ exception, session.stage ≠ .raised exception

/-- What a datagram comes to. -/
structure Handled (config : Config) (datagram : Datagram) : Prop where
  control : Caught (parseControl config.key datagram.wire)
  command : Caught (deframeDrw config.key datagram.wire >>= readIoctl floats levels)
  exactly : Returns (parseControl config.key datagram.wire) ↔
    ∃ dec, decrypt config.key datagram.wire = .ok dec ∧ Whole dec
  session : Returns (connect config : Except Exception (Session F)) →
    ∀ session : Session F, Calm session →
      ∀ due, Calm (turn floats levels config session (.got due (some datagram)))

/-- A datagram that is no packet with a broken header, and no command that is too deep. -/
def Sound (config : Config) (datagram : Datagram) : Prop :=
  ∀ dec, decrypt config.key datagram.wire = .ok dec →
    dec ≠ [magic] ∧ ¬ EndsInLength dec ∧ ¬ DeepIoctl floats levels dec

/-- A datagram that is sound as far as the loop reads it into which it comes. -/
def Harmless (config : Config) (session : Session F) : Label → Prop
  | .turn (.got _ (some datagram)) =>
      match session.stage with
      | .discovering .. =>
          datagram.addr.host = config.cameraIp → decrypt config.key datagram.wire ≠ .ok [magic]
      | .handshaking .. | .readying _ => decrypt config.key datagram.wire ≠ .ok [magic]
      | .receiving _ => ∀ dec, decrypt config.key datagram.wire = .ok dec →
          ¬ DeepIoctl floats levels dec
      | _ => True
  | _ => True

end

/-! ### Control packets -/

theorem returns_readControl_cons (type : UInt8) (rest : List UInt8) :
    Returns (readControl (magic :: type :: rest)) ↔ ofBig (rest.take 2) ≤ (rest.drop 2).length := by
  have declared : slice (magic :: type :: rest) 2 4 = rest.take 2 := rfl
  have payload : ∀ length, slice (magic :: type :: rest) 4 (4 + length) =
      (rest.drop 2).take length := by
    intro length
    have split : 4 + length = 2 + length + 1 + 1 := by omega
    rw [slice, split, List.take_succ_cons, List.take_succ_cons, List.drop_succ_cons,
      List.drop_succ_cons, List.drop_take, Nat.add_sub_cancel_left]
  have first : (magic :: type :: rest).head? = some magic := rfl
  rw [readControl, if_neg (not_not.mpr first)]
  simp only [List.getElem?_cons_succ, List.getElem?_cons_zero, declared, payload]
  split
  · rename_i short
    rw [List.length_take] at short
    exact ⟨fun returned => (by cases returned.choose_spec), fun long => absurd (Nat.min_eq_left long) short⟩
  · rename_i whole
    rw [not_not, List.length_take] at whole
    exact ⟨fun _ => by omega, fun _ => returns_ok _⟩

/-- A packet is taken when it is whole, and also when it ends in its length. -/
theorem returns_readControl_iff (dec : List UInt8) :
    Returns (readControl dec) ↔ Whole dec ∨ EndsInLength dec := by
  constructor
  · intro returns
    by_cases first : dec.head? = some magic
    · obtain ⟨behind, rfl⟩ := List.head?_eq_some_iff.mp first
      cases behind with
      | nil => exact absurd returns (not_returns_error _)
      | cons type rest =>
          rw [returns_readControl_cons] at returns
          rcases rest with _ | ⟨high, _ | ⟨low, rest⟩⟩
          · exact Or.inr ⟨type, Or.inl rfl⟩
          · have zero : high.toNat = 0 := by
              have le : 0 * 256 + high.toNat ≤ 0 := returns
              omega
            have same : high = 0 := UInt8.toNat.inj zero
            exact Or.inr ⟨type, Or.inr (by rw [same])⟩
          · exact Or.inl ⟨type, high, low, rest, rfl, returns⟩
    · rw [readControl, if_pos first] at returns
      exact absurd returns (not_returns_error _)
  · rintro (⟨type, high, low, rest, rfl, long⟩ | ⟨type, rfl | rfl⟩)
    · exact (returns_readControl_cons _ _).mpr long
    · exact (returns_readControl_cons _ _).mpr (Nat.le_refl 0)
    · exact (returns_readControl_cons _ _).mpr (Nat.le_refl 0)

theorem readControl_error {dec : List UInt8} {exception : Exception}
    (raised : readControl dec = .error exception) :
    exception.isValueError = true ∨ dec = [magic] := by
  by_cases first : dec.head? = some magic
  · obtain ⟨behind, rfl⟩ := List.head?_eq_some_iff.mp first
    cases behind with
    | nil => exact Or.inr rfl
    | cons type rest =>
        rw [readControl, if_neg (not_not.mpr first)] at raised
        simp only [List.getElem?_cons_succ, List.getElem?_cons_zero] at raised
        split at raised
        · cases raised
          exact Or.inl rfl
        · cases raised
  · rw [readControl, if_pos first] at raised
    cases raised
    exact Or.inl rfl

theorem key4_error {key : String} {exception : Exception} (raised : key4 key = .error exception) :
    exception = .unicodeEncodeError := by
  rw [key4] at raised
  cases encoded : encodeLatin1 key with
  | ok raw =>
      rw [encoded] at raised
      cases raised
  | error exception' =>
      rw [encoded] at raised
      cases raised
      obtain ⟨char, _, failed⟩ := exists_error_of_mapM encoded
      split at failed
      · cases failed
      · exact (Except.error.inj failed).symm

theorem caught_decrypt (key : String) (data : List UInt8) : Caught (decrypt key data) := by
  intro exception raised
  rw [decrypt] at raised
  split at raised
  · cases raised
  · cases known : key4 key with
    | ok bytes =>
        rw [known] at raised
        cases raised
    | error exception' =>
        rw [known] at raised
        cases raised
        rw [key4_error known]
        rfl

/-- A sequence whose first part is caught. -/
theorem caught_bind_iff {α β : Type} {first : Except Exception α} {next : α → Except Exception β}
    (caught : Caught first) :
    Caught (first >>= next) ↔ ∀ value, first = .ok value → Caught (next value) := by
  cases first with
  | error exception =>
      exact ⟨fun _ => nofun, fun _ exception' raised => caught exception' (by cases raised; rfl)⟩
  | ok value =>
      constructor
      · rintro caught' _ ⟨⟩
        exact caught'
      · intro caught'
        exact caught' value rfl

/-- `parse_control` raises something else for one packet alone. -/
theorem caught_parseControl_iff (key : String) (wire : List UInt8) :
    Caught (parseControl key wire) ↔ decrypt key wire ≠ .ok [magic] := by
  rw [parseControl, caught_bind_iff (caught_decrypt key wire)]
  constructor
  · intro caught decrypted
    cases caught _ decrypted .indexError rfl
  · intro other dec decrypted exception raised
    rcases readControl_error raised with caught | rfl
    · exact caught
    · exact absurd decrypted other

theorem returns_parseControl_iff (key : String) (wire : List UInt8) :
    Returns (parseControl key wire) ↔
      ∃ dec, decrypt key wire = .ok dec ∧ (Whole dec ∨ EndsInLength dec) := by
  simp only [parseControl, returns_bind_iff, returns_readControl_iff]

/-! ### Commands -/

section
variable {floats : Floats F} {levels : ℕ}

theorem caught_unwrapIoctl (inner : List UInt8) : Caught (unwrapIoctl inner) := by
  intro exception raised
  rw [unwrapIoctl] at raised
  simp only [] at raised
  repeat' split at raised
  all_goals
    cases raised
    try rfl

theorem isValueError_ofFailure {failure : Failure} :
    (ofFailure failure).isValueError = true ↔ failure ≠ .recursion := by
  cases failure with
  | decode => simp [ofFailure, Exception.isValueError]
  | digits => simp [ofFailure, Exception.isValueError]
  | recursion => simp [ofFailure, Exception.isValueError]

/-- A command raises something else exactly when it is too deep. -/
theorem caught_readIoctl_iff (inner : List UInt8) :
    Caught (readIoctl floats levels inner) ↔ ¬ DeepIoctl floats levels inner := by
  rw [readIoctl, caught_bind_iff (caught_unwrapIoctl inner)]
  constructor
  · rintro caught ⟨length, number, iotype, id, size, behind, behind', text, rfl, two, three, four,
      four', four'', declared, declared', mark, opens⟩
    have failed := loads_recursion_iff.mpr ⟨mark, opens⟩
    have raised := caught _ (unwrapIoctl_parts two three declared behind') .recursionError
      (by rw [parse_parts four four' four'' declared', failed]; rfl)
    cases raised
  · rintro notDeep ⟨seq, ioctl⟩ unwrapped exception raised
    rcases parse_error raised with caught | ⟨iotype, id, size, text, behind, failure, rfl, four,
      four', four'', declared', failed, rfl⟩
    · exact caught
    · obtain ⟨length, number, behind', rfl, two, three, declared, _⟩ :=
        exists_parts_of_unwrapIoctl unwrapped
      rw [isValueError_ofFailure]
      rintro rfl
      obtain ⟨mark, opens⟩ := loads_recursion_iff.mp failed
      exact notDeep ⟨length, number, iotype, id, size, behind, behind', text, rfl, two, three, four,
        four', four'', declared, declared', mark, opens⟩

/-! ### Turns -/

theorem returns_buildControl_iff (key : String) (type : ℕ) (payload : List UInt8) :
    Returns (buildControl key type payload) ↔
      payload.length < 256 ^ 2 ∧ Returns (key4 key) := by
  rw [buildControl, toBytesBig]
  split
  · rename_i fits
    rw [ok_bind, encrypt, if_neg (by simp), returns_bind_of_forall fun _ => returns_ok _]
    exact (and_iff_right fits).symm
  · rename_i long
    exact ⟨fun returns => absurd returns (not_returns_error _), fun both => absurd both.1 long⟩

/-- A session that begins can build all it sends. -/
theorem returns_buildControl {config : Config}
    (connects : Returns (connect config : Except Exception (Session F))) (type : ℕ) :
    Returns (buildControl config.key type config.didBlob) ∧
      Returns (buildControl config.key type []) := by
  rw [connect, returns_bind_iff] at connects
  obtain ⟨_, _, connects⟩ := connects
  obtain ⟨legacySearch, built, _⟩ := returns_bind_iff.mp connects
  have both := (returns_buildControl_iff _ _ _).mp ⟨legacySearch, built⟩
  rw [returns_buildControl_iff, returns_buildControl_iff]
  exact ⟨both, Nat.pow_pos (by omega), both.2⟩

theorem calm_of_stage {session session' : Session F} (calm : Calm session)
    (same : session'.stage = session.stage) : Calm session' := by
  intro exception raised
  exact calm exception (same.symm.trans raised)

theorem calm_refuse_iff {session : Session F} (calm : Calm session) (exception : Exception) :
    Calm (session.refuse exception) ↔ exception.isValueError = true := by
  rw [Session.refuse]
  split
  · rename_i caught
    exact ⟨fun _ => caught, fun _ => calm⟩
  · rename_i escapes
    exact ⟨fun calm' => absurd rfl (calm' exception), fun caught => absurd caught escapes⟩

variable {config : Config}

theorem calm_doHandshake (connects : Returns (connect config : Except Exception (Session F)))
    (session : Session F) (peer : Address) : Calm (doHandshake config session peer) := by
  obtain ⟨hello, built⟩ := (returns_buildControl connects ctrlSearch).1
  obtain ⟨ack, built'⟩ := (returns_buildControl connects ctrlKeepalive).2
  simp only [doHandshake, built, built', ok_bind]
  exact nofun

theorem calm_doReady (connects : Returns (connect config : Except Exception (Session F)))
    (session : Session F) (peer : Address) (camReady : Bool) :
    Calm (doReady config session peer camReady) := by
  obtain ⟨login, built⟩ := (returns_buildControl connects ctrlSearch).1
  obtain ⟨ready, built'⟩ := (returns_buildControl connects ctrlReady).2
  have stage : ∀ sent : List (List UInt8 × Address), Calm { session with
      sent := sent
      stage := if ¬ config.expectReadyReply ∨ camReady then .idle peer else .readying peer } := by
    intro sent exception raised
    simp only [] at raised
    split at raised
    · cases raised
    · cases raised
  by_cases login : config.sendLogin
  · simp only [doReady, login, built, built', ok_bind, Except.map, if_pos]
    exact stage _
  · simp only [doReady, login, built', ok_bind]
    exact stage _

theorem caught_error_iff {α : Type} {exception : Exception} :
    Caught (.error exception : Except Exception α) ↔ exception.isValueError = true := by
  constructor
  · intro caught
    exact caught exception rfl
  · rintro caught _ ⟨⟩
    exact caught

theorem caught_ok {α : Type} (value : α) : Caught (.ok value) := nofun

section
variable {session : Session F} (calm : Calm session)
include calm

theorem calm_readyTurn_iff (peer : Address) (due : Bool) (datagram : Datagram) :
    Calm (readyTurn config session peer (.got due (some datagram))) ↔
      decrypt config.key datagram.wire ≠ .ok [magic] := by
  rw [← caught_parseControl_iff, readyTurn]
  split
  · rename_i exception raised
    rw [raised, caught_error_iff, calm_refuse_iff calm]
  · rename_i typ payload read
    rw [read]
    refine ⟨fun _ => caught_ok _, fun _ => ?_⟩
    split
    · exact nofun
    · exact calm

theorem calm_recvTurn_iff (peer : Address) (due : Bool) (datagram : Datagram) :
    Calm (recvTurn floats levels config session peer (.got due (some datagram))) ↔
      ∀ dec, decrypt config.key datagram.wire = .ok dec → ¬ DeepIoctl floats levels dec := by
  rw [recvTurn, deframeDrw]
  split
  · rename_i exception raised
    rw [raised, calm_refuse_iff calm]
    exact ⟨fun _ _ failed => (by cases failed), fun _ => caught_decrypt _ _ _ raised⟩
  · rename_i inner decrypted
    rw [decrypted]
    have single : (∀ dec, (Except.ok inner : Except Exception (List UInt8)) = .ok dec →
        ¬ DeepIoctl floats levels dec) ↔ ¬ DeepIoctl floats levels inner :=
      ⟨fun all => all inner rfl, fun shallow dec same => Except.ok.inj same ▸ shallow⟩
    rw [single]
    split
    · rw [← caught_readIoctl_iff]
      split
      · rename_i exception raised
        rw [raised, caught_error_iff, calm_refuse_iff calm]
      · rename_i result read
        rw [read]
        exact ⟨fun _ => caught_ok _, fun _ _ failed => by cases failed⟩
    · rename_i control
      refine ⟨fun _ => ?_, fun _ => calm⟩
      rintro ⟨_, _, _, _, _, _, _, _, rfl, _⟩
      exact control ⟨by simp, rfl, rfl⟩

variable (connects : Returns (connect config : Except Exception (Session F)))
include connects

theorem calm_discoverTurn_iff (lanSearch legacySearch : List UInt8) (due : Bool)
    (datagram : Datagram) :
    Calm (discoverTurn config session lanSearch legacySearch (.got due (some datagram))) ↔
      (datagram.addr.host = config.cameraIp →
        decrypt config.key datagram.wire ≠ .ok [magic]) := by
  have sent : Calm (if due then
      { session with sent := session.sent ++ searches config lanSearch legacySearch }
      else session) := by
    split
    · exact calm_of_stage calm rfl
    · exact calm
  rw [← caught_parseControl_iff, discoverTurn]
  split
  · rename_i other
    exact ⟨fun _ same => absurd same other, fun _ => sent⟩
  · rename_i same
    rw [not_not] at same
    split
    · rename_i exception raised
      rw [raised, caught_error_iff, calm_refuse_iff sent]
      exact ⟨fun caught _ => caught, fun caught => caught same⟩
    · rename_i read
      rw [read]
      exact ⟨fun _ _ => caught_ok _, fun _ => calm_doHandshake connects _ _⟩

theorem calm_handshakeTurn_iff (peer : Address) (hello ack : List UInt8)
    (gotReply gotConfirm camReady due : Bool) (datagram : Datagram) :
    Calm (handshakeTurn config session peer hello ack gotReply gotConfirm camReady
      (.got due (some datagram))) ↔ decrypt config.key datagram.wire ≠ .ok [magic] := by
  have sent : Calm (if due then session.sendto hello peer else session) := by
    split
    · exact calm_of_stage calm rfl
    · exact calm
  rw [← caught_parseControl_iff, handshakeTurn]
  simp only []
  generalize (if due then session.sendto hello peer else session) = session' at sent ⊢
  split
  · rename_i exception raised
    rw [raised, caught_error_iff, calm_refuse_iff sent]
  · rename_i typ payload read
    rw [read]
    refine ⟨fun _ => caught_ok _, fun _ => ?_⟩
    split
    · exact calm_doReady connects _ _ _
    · exact nofun

/-- A datagram disturbs a session exactly when it is not harmless where it comes in. -/
theorem calm_turn_iff (due : Bool) (datagram : Datagram) :
    Calm (turn floats levels config session (.got due (some datagram))) ↔
      Harmless floats levels config session (.turn (.got due (some datagram))) := by
  rw [turn, Harmless]
  split
  · rename_i stage
    rw [stage]
    exact calm_discoverTurn_iff calm connects _ _ due datagram
  · rename_i stage
    rw [stage]
    exact calm_handshakeTurn_iff calm connects _ _ _ _ _ _ due datagram
  · rename_i stage
    rw [stage]
    exact calm_readyTurn_iff calm _ due datagram
  · rename_i stage
    rw [stage]
    exact calm_recvTurn_iff calm _ due datagram
  · rename_i stage
    rw [stage]
    exact ⟨fun _ => trivial, fun _ => calm⟩
  · rename_i stage
    rw [stage]
    exact ⟨fun _ => trivial, fun _ => calm⟩
  · rename_i stage
    exact absurd stage (calm _)

end

theorem calm_turn (connects : Returns (connect config : Except Exception (Session F)))
    {session : Session F} (calm : Calm session) {event : Event}
    (harmless : Harmless floats levels config session (.turn event)) :
    Calm (turn floats levels config session event) := by
  rcases event with _ | ⟨due, _ | datagram⟩
  · rw [turn]
    split
    · exact nofun
    · exact nofun
    · exact nofun
    · exact nofun
    · exact calm
    · exact calm
    · exact calm
  · rw [turn]
    split
    · rw [discoverTurn]
      split
      · exact calm_of_stage calm rfl
      · exact calm
    · rw [handshakeTurn]
      split
      · exact calm_of_stage calm rfl
      · exact calm
    · exact calm
    · exact nofun
    · exact calm
    · exact calm
    · exact calm
  · exact (calm_turn_iff calm connects due datagram).mpr harmless

end

/-! ## Datagrams and runs -/

section
variable (floats : Floats F) (levels : ℕ)

theorem handled_iff (config : Config) (datagram : Datagram) :
    Handled floats levels config datagram ↔ Sound floats levels config datagram := by
  constructor
  · intro handled dec decrypted
    have shallow := (caught_bind_iff (caught_decrypt _ _)).mp handled.command dec decrypted
    refine ⟨?_, ?_, (caught_readIoctl_iff dec).mp shallow⟩
    · rintro rfl
      exact (caught_parseControl_iff _ _).mp handled.control decrypted
    · intro ends
      have returns := (returns_parseControl_iff _ _).mpr ⟨dec, decrypted, Or.inr ends⟩
      obtain ⟨dec', decrypted', type, high, low, rest, rfl, _⟩ := handled.exactly.mp returns
      rw [decrypted] at decrypted'
      cases decrypted'
      rcases ends with ⟨_, same | same⟩
      · cases same
      · cases same
  · intro sound
    refine ⟨?_, ?_, ?_, ?_⟩
    · rw [caught_parseControl_iff]
      intro decrypted
      exact (sound _ decrypted).1 rfl
    · refine (caught_bind_iff (caught_decrypt _ _)).mpr fun dec decrypted => ?_
      exact (caught_readIoctl_iff dec).mpr (sound dec decrypted).2.2
    · rw [returns_parseControl_iff]
      constructor
      · rintro ⟨dec, decrypted, whole | ends⟩
        · exact ⟨dec, decrypted, whole⟩
        · exact absurd ends (sound dec decrypted).2.1
      · rintro ⟨dec, decrypted, whole⟩
        exact ⟨dec, decrypted, Or.inl whole⟩
    · intro connects session calm due
      apply (calm_turn_iff calm connects due datagram).mpr
      have other : decrypt config.key datagram.wire ≠ .ok [magic] := by
        intro decrypted
        exact (sound _ decrypted).1 rfl
      rw [Harmless]
      split
      · exact fun _ => other
      · exact other
      · exact other
      · exact fun dec decrypted => (sound dec decrypted).2.2
      · trivial

/-- Nothing raises in a run whose datagrams are harmless where they come in. -/
theorem run_calm {config : Config} {labels : List Label} {session : Session F}
    (run : (machine floats levels config).Run (Harmless floats levels config) labels session) :
    Calm session := by
  have connects : Returns (connect config : Except Exception (Session F)) := run.exists_initial
  refine run.invariant ?_ ?_
  · intro session starts
    obtain ⟨lanSearch, _, starts⟩ := bind_eq_ok_iff.mp starts
    obtain ⟨legacySearch, _, starts⟩ := bind_eq_ok_iff.mp starts
    cases starts
    exact nofun
  · rintro session label next calm harmless ⟨_, rfl⟩
    cases label with
    | turn event => exact calm_turn connects calm harmless
    | recvIoctl =>
        rw [perform]
        split
        · exact nofun
        · exact calm

/-- Exactly the sound datagrams are handled, and harmless ones do not break a session. -/
theorem datagrams_handled (config : Config) :
    (∀ datagram, Handled floats levels config datagram ↔ Sound floats levels config datagram) ∧
      ∀ labels session,
        (machine floats levels config).Run (Harmless floats levels config) labels session →
          Calm session :=
  ⟨handled_iff floats levels config, fun _ _ run => run_calm floats levels run⟩

end

/-- A session under a key of one letter. -/
def plainConfig : Config := ⟨"k", [1, 2], "10.0.0.7", [], "10.0.0.255", false, true⟩

def camera : Address := ⟨"10.0.0.7", 40000⟩

def plainSession : Session Unit :=
  ⟨.discovering [8, 64, 162, 160] [8, 49, 253, 27, 94, 218], [], [], []⟩

/-- A run from its start through one datagram. -/
theorem run_datagram {good : Session Unit → Label → Prop} {datagram : Datagram}
    (meets : good plainSession (.turn (.got true (some datagram)))) :
    (machine half 1 plainConfig).Run good [.turn (.got true (some datagram))]
      (turn half 1 plainConfig plainSession (.got true (some datagram))) :=
  Machine.Run.extend (.start rfl) _ meets ⟨trivial, rfl⟩

theorem sound_noise : Sound half 1 plainConfig ⟨[0], camera⟩ := by
  have decrypted : decrypt "k" [0] = .ok [0xF9] := rfl
  intro dec same
  have single : dec = [0xF9] := Except.ok.inj (same.symm.trans decrypted)
  subst single
  refine ⟨by decide, ?_, ?_⟩
  · rintro ⟨type, same | same⟩
    · cases same
    · cases same
  · rintro ⟨length, number, iotype, id, size, behind, behind', text, same, _⟩
    cases same

/-- A byte of noise is handled, and the search goes on. -/
theorem datagrams_handled_noise : Handled half 1 plainConfig ⟨[0], camera⟩ ∧
    ∃ session, (machine half 1 plainConfig).Run (Harmless half 1 plainConfig)
      [.turn (.got true (some ⟨[0], camera⟩))] session ∧ Calm session := by
  have other : decrypt "k" [0] ≠ .ok [magic] := by decide
  have run : (machine half 1 plainConfig).Run (Harmless half 1 plainConfig)
      [.turn (.got true (some ⟨[0], camera⟩))] _ := run_datagram fun _ => other
  have handled := datagrams_handled half 1 plainConfig
  exact ⟨(handled.1 _).mpr sound_noise, _, run, handled.2 _ _ run⟩

/-- The first byte of a packet, all by itself. -/
def cutDatagram : Datagram := ⟨[8], camera⟩

/-- It ends the search with an `IndexError`. -/
theorem datagram_breaks : ¬ Handled half 1 plainConfig cutDatagram ∧
    ∃ session, (machine half 1 plainConfig).Run (fun _ _ => True)
      [.turn (.got true (some cutDatagram))] session ∧ session.stage = .raised .indexError := by
  constructor
  · intro handled
    have raised : parseControl "k" [8] = .error .indexError := rfl
    cases handled.control _ raised
  · exact ⟨_, run_datagram trivial, rfl⟩

end PtzDatagrams
end Reference
end AqaraLanLink
