import AqaraLanLink.Json
import AqaraLanLink.Signing
import AqaraLanLink.Port.DeviceKey
import Mathlib.Data.List.Lex

/-!
# The port's client of the Aqara cloud

`src/cloud/client.js`, from the identity of a region to the probe round of `signedRequest`.  What
the network does with a call is its `Answer`.
-/

namespace AqaraLanLink
namespace Port

open Library Signing

/-- The identities of `AREAS`. -/
def areas : List (String × Identity) :=
  [("CN", ⟨"94549908487478b220992a70", "Jddz01kIORDYrBzqGYgpUXKBnIHfW8E3"⟩),
    ("EU", ⟨"7be1984f0556276133336839", "Jddz01kIORDYrBzqGYgpUXKBnIHfW8E3"⟩),
    ("RU", ⟨"94549908487478b220992a70", "euGhPe2rcmxwculATNj45eEtnd50zp0I"⟩),
    ("KR", ⟨"94549908487478b220992a70", "euGhPe2rcmxwculATNj45eEtnd50zp0I"⟩),
    ("JP", ⟨"94549908487478b220992a70", "euGhPe2rcmxwculATNj45eEtnd50zp0I"⟩),
    ("US", ⟨"7be1984f0556276133336839", "Jddz01kIORDYrBzqGYgpUXKBnIHfW8E3"⟩),
    ("AU", ⟨"7be1984f0556276133336839", "Jddz01kIORDYrBzqGYgpUXKBnIHfW8E3"⟩),
    ("OTHER", ⟨"7be1984f0556276133336839", "Jddz01kIORDYrBzqGYgpUXKBnIHfW8E3"⟩)]

/-- The identity of `AREAS.OTHER`. -/
def otherArea : Identity := ⟨"7be1984f0556276133336839", "Jddz01kIORDYrBzqGYgpUXKBnIHfW8E3"⟩

/-- The three signing identities in use across the regions, in the order in which they are tried. -/
def signingIdentities : List Identity :=
  [⟨"7be1984f0556276133336839", "Jddz01kIORDYrBzqGYgpUXKBnIHfW8E3"⟩,
    ⟨"94549908487478b220992a70", "euGhPe2rcmxwculATNj45eEtnd50zp0I"⟩,
    ⟨"94549908487478b220992a70", "Jddz01kIORDYrBzqGYgpUXKBnIHfW8E3"⟩]

/-- The reply code that means "your signature is wrong". -/
def codeBadSign : String := "106"

/-- What is thrown. -/
inductive CloudFailure where
  /-- `AqaraCloudError`, with its message and code. -/
  | aqaraCloudError (message : String) (code : Option String)
  /-- `TypeError`, or the `RangeError` of a full stack. -/
  | typeError
  /-- What reading the body of the response rejects with. -/
  | body (message : String)
  deriving DecidableEq, Repr

/-- What an HTTP call meets. -/
inductive Answer where
  /-- `fetch` rejects: no connection, or no response in time. -/
  | unreachable (message : String)
  /-- The body of the response cannot be read to its end. -/
  | interrupted (message : String)
  /-- A response, with what `JSON.parse` makes of its text. -/
  | response (status : ℕ) (text : String) (parsed : Option Json)

/-- The first two hundred code units of a text, without half a pair at the end. -/
def excerpt (text : String) : String :=
  String.ofList (go 200 text.toList)
where
  go : ℕ → List Char → List Char
    | _, [] => []
    | room, char :: chars =>
        if (codeUnits char).length ≤ room then char :: go (room - (codeUnits char).length) chars
        else []

/-- `request`. -/
def cloudRequest : Answer → Except CloudFailure Json
  | .unreachable message =>
      .error (.aqaraCloudError s!"The Aqara cloud could not be reached: {message}" none)
  | .interrupted message => .error (.body message)
  | .response status text parsed =>
      if ¬ (200 ≤ status ∧ status ≤ 299) then
        .error (.aqaraCloudError s!"The Aqara cloud answered {status}: {excerpt text}"
          (some (toString status)))
      else
        match parsed with
        | some payload => .ok payload
        | none =>
            .error (.aqaraCloudError
              s!"The Aqara cloud answered something that is not JSON: {excerpt text}" none)

/-- What JavaScript's `String` makes of numbers, arrays and objects. -/
structure Texts where
  /-- What a value that converts looks like. -/
  text : Json → String
  /-- How deeply the arrays in a value may be nested before the stack is full. -/
  levels : ℕ

section

variable (textual : Texts)

/-- JavaScript's `String(value)`, where `none` is `undefined`. -/
def jsString : Option Json → Except CloudFailure String
  | none => .ok "undefined"
  | some .null => .ok "null"
  | some (.bool value) => .ok (if value then "true" else "false")
  | some (.string value) => .ok value
  | some value =>
      if value.convertible textual.levels then .ok (textual.text value) else .error .typeError

/-- `String(payload.code)`. -/
def replyCode : Json → Except CloudFailure String
  | .null => .error .typeError
  | payload => jsString textual (payload.get? "code")

/-- `raiseIfError`, with the payload as its result. -/
def raiseIfError (payload : Json) : Except CloudFailure Json := do
  let code ← jsString textual (some (.coalesce (payload.get? "code") (.string "")))
  if code = "0" then .ok payload
  else
    let message ← jsString textual
      (some (.coalesce (payload.get? "message") (.string "no reason given")))
    .error (.aqaraCloudError s!"The Aqara cloud refused the request: {message} (code {code})"
      (some code))

/-- The part of the client's state that requests change. -/
structure AqaraCloud where
  /-- `appId` and `appKey`. -/
  identity : Identity
  identityProbed : Bool
  deriving DecidableEq, Repr

/-- The constructor, for a region in capitals. -/
def AqaraCloud.new (region : String) : AqaraCloud where
  identity := (areas.lookup region).getD otherArea
  identityProbed := false

/-- What a call says about the identity that signed it. -/
def verdict (answer : Answer) : Verdict :=
  match cloudRequest answer with
  | .error _ => .raised
  | .ok payload =>
      match replyCode textual payload with
      | .error _ => .raised
      | .ok code => if code = codeBadSign then .refused else .accepted

/-- What the loop of `signedRequest` leaves behind. -/
structure ProbeRound where
  identity : Identity
  calls : List (Identity × Verdict)
  result : Except CloudFailure Json

/-- The loop of `signedRequest` with the calls that it makes.  It skips an identity that equals the
active one, which is the last one that it has tried. -/
def probeLoop (answers : ℕ → Answer) : List Identity → ℕ → Identity → Json → ProbeRound
  | [], _, active, payload => ⟨active, [], raiseIfError textual payload⟩
  | identity :: identities, call, active, payload =>
      if identity = active then probeLoop answers identities call active payload
      else
        let said := (identity, verdict textual (answers call))
        match cloudRequest (answers call) with
        | .error error => ⟨identity, [said], .error error⟩
        | .ok payload =>
            match replyCode textual payload with
            | .error error => ⟨identity, [said], .error error⟩
            | .ok code =>
                if code ≠ codeBadSign then ⟨identity, [said], raiseIfError textual payload⟩
                else
                  let later := probeLoop answers identities (call + 1) identity payload
                  ⟨later.identity, said :: later.calls, later.result⟩

/-- `signedRequest`; its calls meet the answers one after the other. -/
def AqaraCloud.signedRequest (cloud : AqaraCloud) (answers : ℕ → Answer) :
    Attempt AqaraCloud (Except CloudFailure Json) :=
  match cloudRequest (answers 0) with
  | .error error => ⟨cloud, none, .error error⟩
  | .ok payload =>
      match replyCode textual payload with
      | .error error => ⟨cloud, none, .error error⟩
      | .ok code =>
          if code ≠ codeBadSign ∨ cloud.identityProbed then
            ⟨cloud, none, raiseIfError textual payload⟩
          else
            let round := probeLoop textual answers signingIdentities 1 cloud.identity payload
            ⟨⟨round.identity, true⟩, some round.calls, round.result⟩

/-! ## What the loop leaves behind -/

/-- The identities that the loop tries when a given one is active. -/
def tried : List Identity → Identity → List Identity
  | [], _ => []
  | identity :: identities, active =>
      if identity = active then tried identities active else identity :: tried identities identity

/-- What the calls of a request say about their identities. -/
def verdicts (answers : ℕ → Answer) (call : ℕ) : Verdict := verdict textual (answers call)

variable {textual}

theorem verdict_of_throw {answer : Answer} {error : CloudFailure}
    (thrown : cloudRequest answer = .error error) : verdict textual answer = .raised := by
  rw [verdict, thrown]

theorem verdict_of_noCode {answer : Answer} {payload : Json} {error : CloudFailure}
    (replied : cloudRequest answer = .ok payload)
    (thrown : replyCode textual payload = .error error) : verdict textual answer = .raised := by
  rw [verdict, replied]
  simp only [thrown]

theorem verdict_of_code {answer : Answer} {payload : Json} {code : String}
    (replied : cloudRequest answer = .ok payload) (read : replyCode textual payload = .ok code) :
    verdict textual answer = if code = codeBadSign then .refused else .accepted := by
  rw [verdict, replied]
  simp only [read]

/-- The loop calls the cloud for the identities that it tries, until one is not refused. -/
theorem probeLoop_calls (answers : ℕ → Answer) (identities : List Identity) (call : ℕ)
    (active : Identity) (payload : Json) :
    (probeLoop textual answers identities call active payload).calls =
      calls (verdicts textual answers) (tried identities active) call := by
  induction identities generalizing call active payload with
  | nil => rfl
  | cons identity identities induction =>
      rw [probeLoop, tried]
      split
      · exact induction call active payload
      · rw [calls, verdicts]
        split
        · rename_i error thrown
          rw [if_neg (by rw [verdict_of_throw thrown]; decide)]
        · rename_i reply replied
          split
          · rename_i error thrown
            rw [if_neg (by rw [verdict_of_noCode replied thrown]; decide)]
          · rename_i code read
            rw [verdict_of_code replied read]
            by_cases bad : code = codeBadSign
            · simp only [bad, ne_eq, not_true_eq_false, if_true, if_false]
              rw [induction]
            · simp only [bad, ne_eq, not_false_eq_true, if_true, if_false]
              rfl

/-- The identity of the last call stays, whatever that call has met. -/
theorem probeLoop_identity (answers : ℕ → Answer) (identities : List Identity) (call : ℕ)
    (active : Identity) (payload : Json) :
    (probeLoop textual answers identities call active payload).identity =
      lastTried active (calls (verdicts textual answers) (tried identities active) call) := by
  rw [← probeLoop_calls answers identities call active payload]
  induction identities generalizing call active payload with
  | nil => rfl
  | cons identity identities induction =>
      rw [probeLoop]
      split
      · exact induction call active payload
      · split
        · rfl
        · split
          · rfl
          · split
            · rfl
            · rw [lastTried_cons]
              exact induction _ _ _

variable (textual) in
/-- A request probes when its first call is refused and the client has not probed before. -/
theorem signedRequest_round (cloud : AqaraCloud) (answers : ℕ → Answer) :
    (cloud.identityProbed = true ∨ verdict textual (answers 0) ≠ .refused) ∧
        (cloud.signedRequest textual answers).round = none ∧
        (cloud.signedRequest textual answers).client = cloud ∨
      cloud.identityProbed = false ∧ verdict textual (answers 0) = .refused ∧
        (cloud.signedRequest textual answers).round =
          some (calls (verdicts textual answers) (tried signingIdentities cloud.identity) 1) ∧
        (cloud.signedRequest textual answers).client.identity = lastTried cloud.identity
          (calls (verdicts textual answers) (tried signingIdentities cloud.identity) 1) ∧
        (cloud.signedRequest textual answers).client.identityProbed = true := by
  rw [AqaraCloud.signedRequest]
  split
  · rename_i error thrown
    exact Or.inl ⟨Or.inr (by rw [verdict_of_throw thrown]; decide), rfl, rfl⟩
  · rename_i payload replied
    split
    · rename_i error thrown
      exact Or.inl ⟨Or.inr (by rw [verdict_of_noCode replied thrown]; decide), rfl, rfl⟩
    · rename_i code read
      rw [verdict_of_code replied read]
      by_cases bad : code = codeBadSign
      · cases probed : cloud.identityProbed with
        | true =>
            left
            simp [bad]
        | false =>
            right
            simp [bad, probeLoop_calls, probeLoop_identity]
      · left
        simp [bad]

end

section

variable (textual : Texts)

/-- A request does not strand the client: it does not begin a probe round, or the last call of the
round is answered or is signed with the identity that the round began with. -/
def Unstranded (history : History AqaraCloud) (answers : ℕ → Answer) : Prop :=
  history.client.identityProbed = false → verdict textual (answers 0) = .refused →
    Lands history.client.identity
      (calls (verdicts textual answers) (tried signingIdentities history.client.identity) 1)

/-- The requests of one client. -/
def cloudMachine : Machine (History AqaraCloud) (ℕ → Answer) :=
  machine (fun cloud => ∃ region, cloud = .new region) AqaraCloud.identity
    (AqaraCloud.signedRequest textual)

theorem remembers_signedRequest :
    Remembers AqaraCloud.identity AqaraCloud.identityProbed
      (AqaraCloud.signedRequest textual) where
  silent := by
    intro cloud answers quiet
    rcases signedRequest_round textual cloud answers with
      ⟨-, -, same⟩ | ⟨-, -, round, -⟩
    · rw [same]
      exact ⟨rfl, rfl⟩
    · rw [round] at quiet
      cases quiet
  round := by
    intro cloud answers made round
    rcases signedRequest_round textual cloud answers with
      ⟨-, quiet, -⟩ | ⟨unprobed, -, -, -, probed⟩
    · rw [quiet] at round
      cases round
    · exact ⟨unprobed, probed⟩

/-- A first request that is refused keeps the identity exactly when it does not strand the client. -/
theorem kept_signedRequest_iff (cloud : AqaraCloud) (unprobed : cloud.identityProbed = false)
    (answers : ℕ → Answer) :
    Kept AqaraCloud.identity ((History.new AqaraCloud.identity cloud).after
        (cloud.signedRequest textual answers)) ↔
      Unstranded textual (.new AqaraCloud.identity cloud) answers := by
  rcases signedRequest_round textual cloud answers with
    ⟨silent, quiet, same⟩ | ⟨-, refused, round, identity, -⟩
  · refine iff_of_true ((kept_new cloud).after_silent quiet (congrArg _ same)) ?_
    intro probed refused
    rcases silent with memory | other
    · exact absurd (memory.symm.trans probed) (by decide)
    · exact absurd refused other
  · rw [kept_after_round rfl rfl round, identity, History.new, ← lands_iff]
    exact ⟨fun lands _ _ => lands, fun lands => lands unprobed refused⟩

/-- In a run whose requests do not strand the client, the identity is kept. -/
theorem identity_kept {labels : List (ℕ → Answer)} {history : History AqaraCloud}
    (run : (cloudMachine textual).Run (Unstranded textual) labels history) :
    Kept AqaraCloud.identity history := by
  refine kept_of_run (remembers_signedRequest textual) ?_ run
  intro before answers made unstranded round
  rcases signedRequest_round textual before.client answers with
    ⟨-, quiet, -⟩ | ⟨unprobed, refused, tries, identity, -⟩
  · rw [quiet] at round
    cases round
  · cases tries.symm.trans round
    rw [identity, ← lands_iff]
    exact unstranded unprobed refused

end

/-! ## A European account -/

/-- Whole numbers as JavaScript writes them. -/
def plainText : Texts where
  text
    | .number value => toString value.num
    | _ => "[object Object]"
  levels := 4000

/-- The cloud says that the signature is wrong. -/
def badSign : Answer := .response 200 "" (some (.object [("code", .number 106)]))

/-- The cloud answers the request. -/
def granted : Answer := .response 200 "" (some (.object [("code", .number 0)]))

/-- The second identity is the account's. -/
def secondGranted (call : ℕ) : Answer := if call = 1 then granted else badSign

/-- The identity of the account is refused. -/
def revoked (call : ℕ) : Answer := if call = 0 then badSign else granted

/-- A European account that answers to the second identity ends with it, and keeps it when it is
refused later. -/
theorem identity_kept_second : ∃ history,
    (cloudMachine plainText).Run (Unstranded plainText) [secondGranted, revoked] history ∧
      history.client.identity = ⟨"94549908487478b220992a70", "euGhPe2rcmxwculATNj45eEtnd50zp0I"⟩ ∧
      Kept AqaraCloud.identity history := by
  have lands : Unstranded plainText (.new AqaraCloud.identity (.new "EU")) secondGranted := by
    intro _ _ last ended
    cases ended
    exact Or.inl rfl
  have start : (cloudMachine plainText).Run (Unstranded plainText) []
      (.new AqaraCloud.identity (.new "EU")) := .start ⟨_, ⟨"EU", rfl⟩, rfl⟩
  have first := start.extend secondGranted lands rfl
  have run := first.extend revoked (fun unprobed => by cases unprobed) rfl
  exact ⟨_, run, rfl, identity_kept plainText run⟩

/-- A European account that answers to none of the identities ends with the last one. -/
theorem identity_stranded : ∃ history,
    (cloudMachine plainText).Run (fun _ _ => True) [fun _ => badSign] history ∧
      (∀ probe ∈ history.probes, probe.2 = .refused) ∧
      ¬ Kept AqaraCloud.identity history := by
  have start : (cloudMachine plainText).Run (fun _ _ => True) []
      (.new AqaraCloud.identity (.new "EU")) := .start ⟨_, ⟨"EU", rfl⟩, rfl⟩
  refine ⟨_, start.extend (fun _ => badSign) trivial rfl, by decide, ?_⟩
  intro kept
  have moved := kept.restored (by decide)
  exact absurd moved (by decide)

/-! ## Logging in -/

/-- The servers of `AREAS`. -/
def servers : List (String × String) :=
  [("CN", "https://aiot-rpc.aqara.cn"), ("EU", "https://rpc-ger.aqara.com"),
    ("RU", "https://rpc-ru.aqara.com"), ("KR", "https://rpc-kr.aqara.com"),
    ("JP", "https://rpc-kr.aqara.com"), ("US", "https://aiot-rpc-usa.aqara.com"),
    ("AU", "https://rpc-au.aqara.com"), ("OTHER", "https://aiot-rpc-usa.aqara.com")]

/-- The server of a region in capitals; a region that is not known is `AREAS.OTHER`. -/
def serverOf (region : String) : String :=
  (servers.lookup region).getD "https://aiot-rpc-usa.aqara.com"

/-- What `login` resolves with. -/
structure CloudSession where
  userId : Json
  token : Json

/-- The keys of a result, sorted by their code units. -/
def sortedKeys (result : Json) : List String :=
  (result.entries.map Prod.fst).mergeSort fun first second =>
    decide (first.toList.flatMap codeUnits ≤ second.toList.flatMap codeUnits)

/-- The session in a reply to `login`. -/
def readSession (payload : Json) : Except CloudFailure CloudSession :=
  let result := Json.coalesce (payload.get? "result") (.object [])
  match result.get? "userId", result.get? "token" with
  | some userId, some token =>
      if userId.jsTruthy && token.jsTruthy then .ok ⟨userId, token⟩ else refuse result
  | _, _ => refuse result
where
  /-- The code of a reply that was not refused is a zero. -/
  refuse (result : Json) : Except CloudFailure CloudSession :=
    .error (.aqaraCloudError
      ("Login returned no token (keys: " ++ ", ".intercalate (sortedKeys result) ++ ")") (some "0"))

/-- `login`, with the client that it leaves behind. -/
def AqaraCloud.login (textual : Texts) (cloud : AqaraCloud) (answers : ℕ → Answer) :
    AqaraCloud × Except CloudFailure CloudSession :=
  let attempt := cloud.signedRequest textual answers
  (attempt.client, attempt.result >>= readSession)

end Port
end AqaraLanLink
