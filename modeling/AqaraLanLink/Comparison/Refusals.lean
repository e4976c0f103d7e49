import AqaraLanLink.Port.Correlation
import AqaraLanLink.Port.Platform
import AqaraLanLink.Reference.Session

/-!
# Refusals

What the port makes of the hub's answers to a checkin and to a write, beside what the reference
makes of the same answers.
-/

namespace AqaraLanLink
namespace Comparison

open Port Reference Library

/-- The answer to a request, as the clients see it. -/
def answered (answer : Except String Reply) : Except String Json :=
  answer.map Reply.message

/-- Whatever settles a request in the tunnel is a reply. -/
theorem exists_reply_of_dispatch {tunnel tunnel' : Tunnel} {message answer : Json} {seq : ℕ}
    (dispatched : tunnel.dispatch message = .ok (tunnel', .resolved seq answer)) :
    ∃ reply : Reply, answer = reply.message := by
  have present : message ≠ .null := by
    rintro rfl
    exact nomatch dispatched
  rw [Tunnel.dispatch_of_ne_null present] at dispatched
  split at dispatched
  · rename_i waiting found
    cases dispatched
    exact exists_reply (Correlation.mem_pending_of_waitingFor found).2
  · exact nomatch dispatched

/-- `data.code` of a reply. -/
def codeOf (reply : Reply) : Option Json :=
  (reply.message.get? "data").bind fun data => data.get? "code"

/-- The hub refuses a write: with a code that is not zero, or with data that cannot hold one. -/
def Refuses (reply : Reply) : Prop :=
  (∃ code, codeOf reply = some code ∧ code.isZero = false) ∨
    ∃ data, reply.message.get? "data" = some data ∧ data.truthy = true ∧
      ∀ fields, data ≠ .object fields

/-- The call takes the write as accepted: it resolves with true, or it has recorded the value. -/
def Accepts (result : AqaraDevice.SetResult) : Prop :=
  result.outcome = .ok true ∨ result.announced ≠ []

/-- A refusal is respected. -/
structure Respected (device : AqaraDevice) (code : String) (value : Json)
    (checkin write : Except String Reply) : Prop where
  /-- Devices are published only when the hub has answered the checkin with code 0. -/
  publishes : Platform.publishes (answered checkin) = true →
    ∃ reply, checkin = .ok reply ∧ codeOf reply = some (.number 0)
  /-- So does the reference decide. -/
  checkin : Platform.publishes (answered checkin) = true ↔
    LANLinkClient.checkin (answered checkin) = .ok true
  /-- When a write is answered with another code, the call has not succeeded and nothing has
  changed. -/
  set : ∀ reply answer, write = .ok reply → codeOf reply = some answer → answer.isZero = false →
    (device.set code value (answered write)).outcome ≠ .ok true ∧
      (device.set code value (answered write)).device = device ∧
      (device.set code value (answered write)).announced = []
  /-- A write that is sent is taken as accepted exactly when the reference takes it so. -/
  write : (device.setRequest code value).isSome →
    (Accepts (device.set code value (answered write)) ↔ asyncWrite (answered write) = .ok ())

theorem publishes_answered (checkin : Except String Reply) :
    Platform.publishes (answered checkin) = true ↔ ∃ reply, checkin = .ok reply := by
  cases checkin with
  | error error => simp [answered, Except.map, Platform.publishes]
  | ok reply => simp [answered, Except.map, Platform.publishes, Reply.message, Json.jsTruthy]

/-- The reference accepts a checkin whose code is zero. -/
theorem checkin_of_codeOf {reply : Reply} (zero : codeOf reply = some (.number 0)) :
    LANLinkClient.checkin (answered (.ok reply)) = .ok true := by
  obtain ⟨data, present, coded⟩ := Option.bind_eq_some_iff.mp zero
  cases data with
  | object fields =>
      have found : fields.lookup "code" = some (.number 0) := coded
      simp [LANLinkClient.checkin, answered, Except.map, LANLinkClient.dataOf, present, found,
        Json.isZero]
  | _ => exact nomatch coded

theorem asyncWrite_of_dataOf {reply : Reply} {fields : List (String × Json)}
    (readable : LANLinkClient.dataOf reply.message = .ok fields) :
    asyncWrite (answered (.ok reply)) = .ok () ↔
      ((fields.lookup "code").getD (.number 0)).isZero = true := by
  have read : (answered (.ok reply) >>= LANLinkClient.dataOf) = .ok fields := readable
  rw [asyncWrite, read]
  dsimp only
  split
  · rename_i zero
    exact ⟨fun _ => zero, fun _ => rfl⟩
  · rename_i other
    exact ⟨nofun, fun zero => absurd zero other⟩

/-- The reference accepts a write exactly when the hub does not refuse it. -/
theorem asyncWrite_eq_ok_iff (reply : Reply) :
    asyncWrite (answered (.ok reply)) = .ok () ↔ ¬ Refuses reply := by
  cases present : reply.message.get? "data" with
  | none =>
      have readable : LANLinkClient.dataOf reply.message = .ok [] := by
        rw [LANLinkClient.dataOf, present]
      rw [asyncWrite_of_dataOf readable]
      simp [Refuses, codeOf, present, Json.isZero]
  | some data =>
      by_cases readable : ∃ fields, data = .object fields
      · obtain ⟨fields, rfl⟩ := readable
        have readable : LANLinkClient.dataOf reply.message = .ok fields := by
          rw [LANLinkClient.dataOf, present]
        have coded : codeOf reply = fields.lookup "code" := by
          rw [codeOf, present]
          rfl
        rw [asyncWrite_of_dataOf readable, Refuses, coded]
        cases found : fields.lookup "code" with
        | none => simp [present, Json.isZero]
        | some code => simp [present]
      · have shape : ∀ fields, data ≠ .object fields := fun fields same => readable ⟨fields, same⟩
        have read : LANLinkClient.dataOf reply.message =
            if data.truthy then .error "object has no attribute 'get'" else .ok [] := by
          simp only [LANLinkClient.dataOf, present]
        have codeless : codeOf reply = none := by
          rw [codeOf, present]
          cases data with
          | object fields => exact absurd rfl (shape fields)
          | _ => rfl
        cases truthy : data.truthy with
        | true =>
            have refused : Refuses reply := Or.inr ⟨data, present, truthy, shape⟩
            rw [truthy, if_pos rfl] at read
            have raises : (answered (.ok reply) >>= LANLinkClient.dataOf) =
                .error "object has no attribute 'get'" := read
            rw [asyncWrite, raises]
            exact ⟨nofun, fun accepted => absurd refused accepted⟩
        | false =>
            have readable : LANLinkClient.dataOf reply.message = .ok [] := by
              rw [read, truthy]
              rfl
            rw [asyncWrite_of_dataOf readable]
            simp [Refuses, codeless, present, truthy, Json.isZero]

theorem setRequest_isSome_iff {device : AqaraDevice} {code : String} {value : Json} :
    (device.setRequest code value).isSome ↔ ∃ trait,
      device.capabilities.entries.lookup code = some trait ∧ trait.spec.writable ∧ device.hasHub := by
  rw [AqaraDevice.setRequest]
  split
  · rename_i absent
    simp [absent]
  · rename_i trait found
    split
    · rename_i able
      simpa [found] using able
    · rename_i unable
      simpa [found] using unable

/-- A write that is not sent changes nothing. -/
theorem set_of_unsent {device : AqaraDevice} {code : String} {value : Json}
    (unsent : ¬ (device.setRequest code value).isSome) (written : Except String Json) :
    device.set code value written = ⟨device, [], .ok false⟩ := by
  rw [setRequest_isSome_iff] at unsent
  rw [AqaraDevice.set]
  split
  · rfl
  · rename_i trait found
    exact if_neg fun able => unsent ⟨trait, found, able⟩

/-- An answer to a write that is sent is taken as accepted, whatever it is. -/
theorem accepts_set {device : AqaraDevice} {code : String} {value : Json}
    (sent : (device.setRequest code value).isSome) (message : Json) :
    Accepts (device.set code value (.ok message)) := by
  obtain ⟨trait, found, able⟩ := setRequest_isSome_iff.mp sent
  simp only [AqaraDevice.set, found, if_pos able, AqaraDevice.afterWrite]
  split
  · exact Or.inl rfl
  · exact Or.inr (List.cons_ne_nil _ _)

/-- A write without an answer is not. -/
theorem not_accepts_set {device : AqaraDevice} {code : String} {value : Json} (error : String) :
    ¬ Accepts (device.set code value (.error error)) := by
  rw [AqaraDevice.set]
  split
  · simp [Accepts]
  · split <;> simp [Accepts]

/-- The port respects refusals exactly when there is none: the checkin, if it is answered, has been
answered with code 0, and the write, if it is sent and answered, is not refused. -/
theorem refusals_respected_iff (device : AqaraDevice) (code : String) (value : Json)
    (checkin write : Except String Reply) :
    Respected device code value checkin write ↔
      (∀ reply, checkin = .ok reply → codeOf reply = some (.number 0)) ∧
        ((device.setRequest code value).isSome → ∀ reply, write = .ok reply → ¬ Refuses reply) := by
  constructor
  · intro respected
    refine ⟨?_, ?_⟩
    · rintro reply rfl
      obtain ⟨_, ⟨⟩, zero⟩ := respected.publishes ((publishes_answered _).mpr ⟨reply, rfl⟩)
      exact zero
    · rintro sent reply rfl
      rw [← asyncWrite_eq_ok_iff]
      exact (respected.write sent).mp (accepts_set sent reply.message)
  · rintro ⟨zero, unrefused⟩
    refine ⟨?_, ?_, ?_, ?_⟩
    · intro publishes
      obtain ⟨reply, rfl⟩ := (publishes_answered _).mp publishes
      exact ⟨reply, rfl, zero reply rfl⟩
    · rw [publishes_answered]
      constructor
      · rintro ⟨reply, rfl⟩
        exact checkin_of_codeOf (zero reply rfl)
      · cases checkin with
        | error error => exact nofun
        | ok reply => exact fun _ => ⟨reply, rfl⟩
    · rintro reply answer rfl coded other
      by_cases sent : (device.setRequest code value).isSome
      · exact absurd (Or.inl ⟨answer, coded, other⟩) (unrefused sent reply rfl)
      · rw [set_of_unsent sent]
        exact ⟨nofun, rfl, rfl⟩
    · intro sent
      cases write with
      | error error =>
          have unanswered : ¬ Accepts (device.set code value (answered (.error error))) :=
            not_accepts_set error
          exact ⟨fun accepts => absurd accepts unanswered, nofun⟩
      | ok reply =>
          have accepts := accepts_set sent reply.message
          exact ⟨fun _ => (asyncWrite_eq_ok_iff reply).mpr (unrefused sent reply rfl),
            fun _ => accepts⟩

/-- The hub's answer to a checkin with a token that it does not accept. -/
def authFailed : Reply :=
  ⟨[("seq", .number 1), ("cmd", .string "checkin_done"), ("data", .object [("code", .number 2)])]⟩

/-- The hub's answer to a write that it refuses. -/
def writeRefused : Reply :=
  ⟨[("seq", .number 2), ("cmd", .string "write_done"), ("data", .object [("code", .number 1)])]⟩

/-- The port publishes after a failed checkin, and its lamp goes on after a refused write. -/
theorem refusal_taken_as_accepted :
    ¬ Respected lamp "OnOff" (.bool true) (.ok authFailed) (.ok writeRefused) := by
  intro respected
  obtain ⟨_, ⟨⟩, coded⟩ := respected.publishes rfl
  have answer : codeOf authFailed = some (.number 2) := rfl
  rw [answer] at coded
  simp at coded

end Comparison
end AqaraLanLink
