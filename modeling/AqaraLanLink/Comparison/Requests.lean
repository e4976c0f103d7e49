import AqaraLanLink.Port.Tunnel
import AqaraLanLink.Port.Device
import AqaraLanLink.Reference.Protocol

/-!
# What the port and the reference send

The message that a command or a read of the port puts on the tunnel, beside the one the reference
builds for the same device.
-/

namespace AqaraLanLink
namespace Comparison

open Port Reference

/-- The messages that a step of the tunnel writes to the socket. -/
def sentMessages (effects : List Effect) : List Json :=
  effects.filterMap fun
    | .sent message => some message
    | _ => none

/-- What `AqaraDevice.set` puts on the tunnel, through the `hub.write` that `publish` gives every
device. -/
def setMessages (tunnel : Tunnel) (device : AqaraDevice) (code : String) (value : Json) :
    List Json :=
  match device.setRequest code value with
  | none => []
  | some (deviceId, values) => sentMessages (tunnel.write values (some deviceId)).2

/-- What `AqaraTunnel.read` puts on the tunnel. -/
def readMessages (tunnel : Tunnel) (paths : List String) (deviceId : Option String) : List Json :=
  sentMessages (tunnel.read paths deviceId).2

/-- Two messages agree in everything but `seq` and `data.src`. -/
structure SameRequest (port reference : Json) : Prop where
  /-- The envelope types are equal. -/
  type : port.get? "type" = reference.get? "type"
  /-- The commands are equal. -/
  cmd : port.get? "cmd" = reference.get? "cmd"
  /-- Every field of the payload but the timestamp is equal. -/
  data : ∀ key, key ≠ "src" →
    (port.get? "data").bind (fun data => data.get? key) =
      (reference.get? "data").bind (fun data => data.get? key)

/-- The tunnel can send. -/
structure Open (tunnel : Tunnel) : Prop where
  /-- The handshake has derived the session key. -/
  key : tunnel.sessionKey.isSome
  /-- The tunnel has not been closed by us. -/
  socket : tunnel.hasSocket = true
  /-- The socket still takes data. -/
  writable : tunnel.writable = true

theorem sentMessages_request {tunnel : Tunnel} (ready : Open tunnel) (cmd : String) (data : Json) :
    sentMessages (tunnel.request cmd data).2 = [Tunnel.envelope (tunnel.seq + 1) cmd data] := by
  obtain ⟨key, some_key⟩ := Option.isSome_iff_exists.mp ready.key
  simp [Tunnel.request, some_key, ready.socket, ready.writable, sentMessages]

/-- The port's envelope is that of a session message, the reference's that of a device message. -/
theorem not_sameRequest_of_type {port reference : Json}
    (session : port.get? "type" = some (.string "session"))
    (device : reference.get? "type" = some (.string "device")) :
    ¬ SameRequest port reference := by
  intro same
  have types := session.symm.trans (same.type.trans device)
  simp at types

theorem type_envelope (seq : ℕ) (cmd : String) (data : Json) :
    (Tunnel.envelope seq cmd data).get? "type" = some (.string "session") := rfl

theorem type_writeMessage (hub : Hub) (seq : ℕ) (did model : String)
    (attrs : List (String × Json)) (parentDid : Option String) (src : String) :
    (hub.writeMessage seq did model attrs parentDid src).get? "type" = some (.string "device") :=
  rfl

theorem type_readMessage (hub : Hub) (seq : ℕ) (did model : String) (names : List String) :
    (hub.readMessage seq did model names).get? "type" = some (.string "device") := by
  rw [Hub.readMessage]
  split <;> rfl

/-- No command and no read of the port goes out as the message the reference builds for it. -/
theorem requests_differ (tunnel : Tunnel) (ready : Open tunnel) (hub : Hub) (seq : ℕ)
    (src : String) :
    (∀ (device : AqaraDevice) (code : String) (trait : Trait) (value : Json)
        (parentDid : Option String),
      device.capabilities.entries.lookup code = some trait → trait.spec.writable = true →
      device.hasHub = true →
      ∃ message, setMessages tunnel device code value = [message] ∧
        ¬ SameRequest message
          (hub.writeMessage seq device.deviceId device.model
            [(trait.path, AqaraDevice.clamp trait.spec value)] parentDid src)) ∧
      ∀ (paths : List String) (deviceId : Option String) (model : String),
        ∃ message, readMessages tunnel paths deviceId = [message] ∧
          ¬ SameRequest message
            (hub.readMessage seq (deviceId.getD tunnel.deviceId) model paths) := by
  constructor
  · intro device code trait value parentDid found writable attached
    have request : device.setRequest code value =
        some (device.deviceId, [(trait.path, AqaraDevice.clamp trait.spec value)]) := by
      simp [AqaraDevice.setRequest, found, writable, attached]
    have sent : setMessages tunnel device code value =
        [Tunnel.envelope (tunnel.seq + 1) "write" (tunnel.writeData
          [(trait.path, AqaraDevice.clamp trait.spec value)] (some device.deviceId))] := by
      rw [setMessages, request]
      exact sentMessages_request ready _ _
    exact ⟨_, sent, not_sameRequest_of_type (type_envelope _ _ _)
      (type_writeMessage _ _ _ _ _ _ _)⟩
  · intro paths deviceId model
    exact ⟨_, sentMessages_request ready _ _,
      not_sameRequest_of_type (type_envelope _ _ _) (type_readMessage _ _ _ _ _)⟩

theorem open_openTunnel : Open Tunnel.openTunnel := ⟨rfl, rfl, rfl⟩

theorem requests_differ_openTunnel :
    (∀ (device : AqaraDevice) (code : String) (trait : Trait) (value : Json)
        (parentDid : Option String),
      device.capabilities.entries.lookup code = some trait → trait.spec.writable = true →
      device.hasHub = true →
      ∃ message, setMessages Tunnel.openTunnel device code value = [message] ∧
        ¬ SameRequest message
          (Hub.writeMessage ⟨"lumi.hub", "lumi.gateway.agl004"⟩ 1 device.deviceId device.model
            [(trait.path, AqaraDevice.clamp trait.spec value)] parentDid "3,,0,,")) ∧
      ∀ (paths : List String) (deviceId : Option String) (model : String),
        ∃ message, readMessages Tunnel.openTunnel paths deviceId = [message] ∧
          ¬ SameRequest message
            (Hub.readMessage ⟨"lumi.hub", "lumi.gateway.agl004"⟩ 1
              (deviceId.getD Tunnel.openTunnel.deviceId) model paths) :=
  requests_differ Tunnel.openTunnel open_openTunnel _ 1 "3,,0,,"

/-- Switching the lamp on sends one message, and it is not the reference's: the type, the hub's
device id, the child's device id and model, and the value are not where the reference puts them. -/
theorem lamp_on_differs :
    ∃ message, setMessages Tunnel.openTunnel lamp "OnOff" (.bool true) = [message] ∧
      ¬ SameRequest message
        (Hub.writeMessage ⟨"lumi.hub", "lumi.gateway.agl004"⟩ 1 "lumi.lamp" "lumi.light.acn003"
          [("2.132.32920", .bool true)] (some "lumi.hub") "3,,0,,") := by
  refine ⟨Tunnel.envelope 1 "write" (.object [("did", .string "lumi.lamp"),
    ("attrs", .object [("2.132.32920", .bool true)])]), rfl, ?_⟩
  intro same
  have types := same.type
  simp [Tunnel.envelope, Hub.writeMessage, buildWrite, Json.get?, List.lookup_cons] at types

end Comparison
end AqaraLanLink
