import AqaraLanLink.Json
import AqaraLanLink.Library.Fallible
import AqaraLanLink.Reference.Handshake
import AqaraLanLink.Reference.Session

/-!
# The reference's receive loop

`EncryptedTunnel.receive` after the handshake, and the messages that `LANLinkClient.listen` hands on
before it stops.
-/

namespace AqaraLanLink
namespace Reference

theorem length_lt_of_parseFrame {data rest : List UInt8} {frame : Frame}
    (parsed : parseFrame data = .ok (some (frame, rest))) : rest.length < data.length := by
  rw [parseFrame] at parsed
  split at parsed
  · cases parsed
  · rename_i long
    split at parsed
    · cases parsed
    · dsimp only at parsed
      split at parsed
      · cases parsed
      · split at parsed
        · cases parsed
        · cases crc : toBytes2 (crc16Ccitt ((data.drop frameHeaderLen).take
              (fromBytes ((data.drop 4).take 4)))) with
          | error error =>
              rw [crc] at parsed
              cases parsed
          | ok expected =>
              rw [crc] at parsed
              change (if _ then _ else _) = _ at parsed
              split at parsed
              · cases parsed
              · cases parsed
                rw [frameHeaderLen] at long
                rw [List.length_drop, frameHeaderLen, frameTrailerLen]
                omega

namespace EncryptedTunnel

open Library

section

variable (ciphers : Ciphers) (deviceKey : List UInt8)

/-- A frame that is received uses up bytes. -/
theorem length_lt_of_recvFrame {sessionKey : Option (List UInt8)} {buffer : List UInt8}
    {reads : List (List UInt8)} {received : Received}
    (taken : recvFrame ciphers deviceKey sessionKey buffer reads = .ok (some received)) :
    received.buffer.length + received.reads.flatten.length <
      buffer.length + reads.flatten.length := by
  induction reads generalizing buffer with
  | nil =>
      rw [recvFrame.eq_def] at taken
      split at taken
      · cases taken
      · rename_i frame rest parsed
        obtain ⟨_, -, taken⟩ := bind_eq_ok_iff.mp taken
        obtain ⟨_, -, taken⟩ := bind_eq_ok_iff.mp taken
        cases taken
        exact Nat.add_lt_add_right (length_lt_of_parseFrame parsed) _
      · cases taken
  | cons chunk reads induction =>
      rw [recvFrame.eq_def] at taken
      split at taken
      · cases taken
      · rename_i frame rest parsed
        obtain ⟨_, -, taken⟩ := bind_eq_ok_iff.mp taken
        obtain ⟨_, -, taken⟩ := bind_eq_ok_iff.mp taken
        cases taken
        exact Nat.add_lt_add_right (length_lt_of_parseFrame parsed) _
      · dsimp only at taken
        split at taken
        · cases taken
        · have less := induction taken
          rw [List.length_append] at less
          rw [List.flatten_cons, List.length_append]
          omega

/-- What a call of `receive` comes to. -/
inductive Reading where
  /-- It waits for the hub. -/
  | waiting
  /-- It returns `None` or raises, and `listen` is over either way. -/
  | over
  /-- It returns an object and leaves this buffer and these reads. -/
  | message (fields : List (String × Json)) (buffer : List UInt8) (reads : List (List UInt8))

variable (loads : List UInt8 → Except String Json)

/-- `receive`.  `loads` is `json.loads(plaintext.decode())`. -/
def receive (sessionKey buffer : List UInt8) (reads : List (List UInt8)) : Reading :=
  match recvFrame ciphers deviceKey (some sessionKey) buffer reads with
  | .error _ => .over
  | .ok none => .waiting
  | .ok (some received) =>
      if received.type ≠ msgTypeSession then .over
      else
        match loads received.plaintext with
        | .error _ => .over
        | .ok (.object fields) => .message fields received.buffer received.reads
        | .ok _ => .over

theorem length_lt_of_receive {sessionKey buffer rest : List UInt8} {reads later : List (List UInt8)}
    {fields : List (String × Json)}
    (read : receive ciphers deviceKey loads sessionKey buffer reads = .message fields rest later) :
    rest.length + later.flatten.length < buffer.length + reads.flatten.length := by
  rw [receive] at read
  split at read
  · cases read
  · cases read
  · rename_i received taken
    split at read
    · cases read
    · split at read
      · cases read
      · cases read
        exact length_lt_of_recvFrame ciphers deviceKey taken
      · cases read

/-- The messages that the loop of `listen` hands on.  One whose sequence number cannot be looked up
raises, which ends the loop. -/
def listen (sessionKey buffer : List UInt8) (reads : List (List UInt8)) : List Json :=
  match _read : receive ciphers deviceKey loads sessionKey buffer reads with
  | .message fields buffer reads =>
      if LANLinkClient.keyed (.object fields) then
        .object fields :: listen sessionKey buffer reads
      else []
  | .over => []
  | .waiting => []
termination_by buffer.length + reads.flatten.length
decreasing_by exact length_lt_of_receive ciphers deviceKey loads _read

theorem listen_of_message {sessionKey buffer rest : List UInt8} {reads later : List (List UInt8)}
    {fields : List (String × Json)}
    (read : receive ciphers deviceKey loads sessionKey buffer reads = .message fields rest later)
    (keyed : LANLinkClient.keyed (.object fields) = true) :
    listen ciphers deviceKey loads sessionKey buffer reads =
      .object fields :: listen ciphers deviceKey loads sessionKey rest later := by
  rw [listen]
  split <;> simp_all

theorem listen_of_none {sessionKey buffer : List UInt8} {reads : List (List UInt8)}
    (nothing : ∀ fields rest later,
      receive ciphers deviceKey loads sessionKey buffer reads = .message fields rest later →
        LANLinkClient.keyed (.object fields) = false) :
    listen ciphers deviceKey loads sessionKey buffer reads = [] := by
  rw [listen]
  split
  · rename_i read
    rw [nothing _ _ _ read]
    rfl
  · rfl
  · rfl

end

end EncryptedTunnel
end Reference
end AqaraLanLink
