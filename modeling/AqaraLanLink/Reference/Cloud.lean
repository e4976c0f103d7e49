import AqaraLanLink.Json
import AqaraLanLink.Signing
import AqaraLanLink.Reference.GapReport

/-!
# The reference's client of the Aqara cloud

`hub/cloud_client.py`, from the identity of a region to the probe round of `_signed_request`.
-/

namespace AqaraLanLink
namespace Reference
namespace Cloud

open Library Signing

/-- The identities of `AREAS`. -/
def areas : List (String × Identity) :=
  [("CN", ⟨"94549908487478b220992a70", "Jddz01kIORDYrBzqGYgpUXKBnIHfW8E3"⟩),
    ("EU", ⟨"7be1984f0556276133336839", "Jddz01kIORDYrBzqGYgpUXKBnIHfW8E3"⟩),
    ("RU", ⟨"94549908487478b220992a70", "euGhPe2rcmxwculATNj45eEtnd50zp0I"⟩),
    ("KR", ⟨"94549908487478b220992a70", "euGhPe2rcmxwculATNj45eEtnd50zp0I"⟩),
    ("JP", ⟨"94549908487478b220992a70", "euGhPe2rcmxwculATNj45eEtnd50zp0I"⟩),
    ("AF", ⟨"7be1984f0556276133336839", "Jddz01kIORDYrBzqGYgpUXKBnIHfW8E3"⟩),
    ("US", ⟨"7be1984f0556276133336839", "Jddz01kIORDYrBzqGYgpUXKBnIHfW8E3"⟩),
    ("HMT", ⟨"7be1984f0556276133336839", "Jddz01kIORDYrBzqGYgpUXKBnIHfW8E3"⟩),
    ("OTHER", ⟨"7be1984f0556276133336839", "Jddz01kIORDYrBzqGYgpUXKBnIHfW8E3"⟩),
    ("AU", ⟨"7be1984f0556276133336839", "Jddz01kIORDYrBzqGYgpUXKBnIHfW8E3"⟩),
    ("ME", ⟨"7be1984f0556276133336839", "Jddz01kIORDYrBzqGYgpUXKBnIHfW8E3"⟩)]

/-- `_SIGNING_COMBOS`, in the order in which they are probed. -/
def signingCombos : List Identity :=
  [⟨"7be1984f0556276133336839", "Jddz01kIORDYrBzqGYgpUXKBnIHfW8E3"⟩,
    ⟨"94549908487478b220992a70", "euGhPe2rcmxwculATNj45eEtnd50zp0I"⟩,
    ⟨"94549908487478b220992a70", "Jddz01kIORDYrBzqGYgpUXKBnIHfW8E3"⟩]

/-- What is raised. -/
inductive CloudException where
  | aqaraAuthError (message : String)
  /-- By `get` or `strip` of what has none. -/
  | attributeError
  /-- Anything else, a cancelled call included. -/
  | other
  deriving DecidableEq, Repr

/-- What an HTTP call meets. -/
inductive Answer where
  /-- `aiohttp.ClientError`, with its text. -/
  | clientError (text : String)
  /-- Any other exception. -/
  | raises
  /-- The text of a response, as `repr` writes its head, and what `json.loads` makes of it. -/
  | response (head : String) (parsed : Option Json)

/-- `_request`. -/
def request : Answer → Except CloudException Json
  | .clientError text => .error (.aqaraAuthError s!"Aqara HTTP error: {text}")
  | .raises => .error .other
  | .response head none => .error (.aqaraAuthError s!"Aqara non-JSON response: {head}")
  | .response _ (some payload) => .ok payload

/-- `payload.get(key)`. -/
def get (payload : Json) (key : String) : Except CloudException (Option Json) :=
  match payload with
  | .object fields => .ok (fields.lookup key)
  | _ => .error .attributeError

section

/- `str` of a number, a list or a dictionary. -/
variable (textual : Json → String)

/-- `str` of what `get` returns. -/
def str : Option Json → String
  | none | some .null => "None"
  | some (.bool value) => if value then "True" else "False"
  | some (.string value) => value
  | some value => textual value

/-- `str(payload.get("code"))`. -/
def replyCode (payload : Json) : Except CloudException String :=
  (get payload "code").map (str textual)

def strip (text : String) : String :=
  String.ofList ((text.toList.dropWhile Python.isSpace).reverse.dropWhile Python.isSpace).reverse

/-- The refused reply with a clearer message. -/
def clarified (region : String) (payload : Json) : Except CloudException Json :=
  match payload with
  | .object fields =>
      let suffix := s!"all known app credentials were rejected for region {region}; " ++
        "the app may use an undocumented appid"
      let told (original : String) :=
        .object (Dictionary.setEntries fields "message"
          (.string (if original = "" then suffix else strip s!"{original} ({suffix})")))
      match fields.lookup "message" with
      | none => .ok (told "")
      | some (.string message) => .ok (told (strip message))
      | some message => if message.truthy then .error .attributeError else .ok (told "")
  | _ => .error .attributeError

/-- The part of the client's state that requests change, and the region. -/
structure AqaraCloudClient where
  region : String
  /-- `_appid` and `_appkey`. -/
  signing : Identity
  signingProbed : Bool
  deriving DecidableEq, Repr

/-- The constructor; it raises for an unknown region. -/
def AqaraCloudClient.new (region : String) : Option AqaraCloudClient :=
  (areas.lookup region).map fun signing => ⟨region, signing, false⟩

/-- What a call says about the identity that signed it. -/
def verdict (answer : Answer) : Verdict :=
  match request answer with
  | .error _ => .raised
  | .ok payload =>
      match replyCode textual payload with
      | .error _ => .raised
      | .ok code => if code = "106" then .refused else .accepted

/-- The loop of `_signed_request` with the calls that it makes: an exception, the identity that
signed and its reply, or nothing when every identity is refused. -/
def probeLoop (answers : ℕ → Answer) (seed : Identity) :
    List Identity → ℕ → List (Identity × Verdict) × Except CloudException (Option (Identity × Json))
  | [], _ => ([], .ok none)
  | combo :: combos, call =>
      if combo = seed then probeLoop answers seed combos call
      else
        let made := (combo, verdict textual (answers call))
        match request (answers call) with
        | .error error => ([made], .error error)
        | .ok retry =>
            match replyCode textual retry with
            | .error error => ([made], .error error)
            | .ok code =>
                if code ≠ "106" then ([made], .ok (some (combo, retry)))
                else
                  let later := probeLoop answers seed combos (call + 1)
                  (made :: later.1, later.2)

/-- `_signed_request`; its calls meet the answers one after the other. -/
def AqaraCloudClient.signedRequest (client : AqaraCloudClient) (answers : ℕ → Answer) :
    Attempt AqaraCloudClient (Except CloudException Json) :=
  match request (answers 0) with
  | .error error => ⟨client, none, .error error⟩
  | .ok payload =>
      match replyCode textual payload with
      | .error error => ⟨client, none, .error error⟩
      | .ok code =>
          if code ≠ "106" ∨ client.signingProbed then ⟨client, none, .ok payload⟩
          else
            let seed := client.signing
            let round := probeLoop textual answers seed signingCombos 1
            match round.2 with
            -- Whatever a probe raises, the seed is restored.
            | .error error =>
                ⟨{ client with signing := seed, signingProbed := true }, some round.1, .error error⟩
            | .ok (some (combo, retry)) =>
                ⟨{ client with signing := combo, signingProbed := true }, some round.1, .ok retry⟩
            | .ok none =>
                ⟨{ client with signing := seed, signingProbed := true }, some round.1,
                  clarified client.region payload⟩

variable {textual}

theorem verdict_of_code {answer : Answer} {payload : Json} {code : String}
    (replied : request answer = .ok payload) (read : replyCode textual payload = .ok code) :
    verdict textual answer = if code = "106" then .refused else .accepted := by
  rw [verdict, replied]
  simp only [read]

/-- The identity that the loop ends with has been answered. -/
theorem accepted_of_probeLoop {answers : ℕ → Answer} {seed combo : Identity} {retry : Json}
    {combos : List Identity} {call : ℕ}
    (found : (probeLoop textual answers seed combos call).2 = .ok (some (combo, retry))) :
    (combo, Verdict.accepted) ∈ (probeLoop textual answers seed combos call).1 := by
  induction combos generalizing call with
  | nil => cases found
  | cons next combos induction =>
      rw [probeLoop] at found ⊢
      split at found
      · rename_i same
        rw [if_pos same]
        exact induction found
      · rename_i other
        rw [if_neg other]
        split at found
        · cases found
        · rename_i reply replied
          split at found
          · cases found
          · rename_i code read
            split at found
            · rename_i good
              rw [if_pos good]
              cases found
              rw [verdict_of_code replied read, if_neg good]
              exact List.mem_singleton_self _
            · rename_i bad
              rw [if_neg bad]
              exact List.mem_cons_of_mem _ (induction found)

variable (textual) in
/-- A request probes only when the client has not, and its probe round ends at an identity that the
cloud has answered or at the seed. -/
theorem signedRequest_round (client : AqaraCloudClient) (answers : ℕ → Answer) :
    (client.signedRequest textual answers).round = none ∧
        (client.signedRequest textual answers).client = client ∨
      client.signingProbed = false ∧
        (client.signedRequest textual answers).client.signingProbed = true ∧
        ∃ calls, (client.signedRequest textual answers).round = some calls ∧
          (((client.signedRequest textual answers).client.signing, Verdict.accepted) ∈ calls ∨
            (client.signedRequest textual answers).client.signing = client.signing) := by
  rw [AqaraCloudClient.signedRequest]
  split
  · exact Or.inl ⟨rfl, rfl⟩
  · split
    · exact Or.inl ⟨rfl, rfl⟩
    · split
      · exact Or.inl ⟨rfl, rfl⟩
      · rename_i refused
        right
        refine ⟨Bool.eq_false_of_not_eq_true fun probed => refused (Or.inr probed), ?_⟩
        simp only
        split
        · exact ⟨rfl, _, rfl, Or.inr rfl⟩
        · rename_i combo retry found
          exact ⟨rfl, _, rfl, Or.inl (accepted_of_probeLoop found)⟩
        · exact ⟨rfl, _, rfl, Or.inr rfl⟩

end

/-- In every run the identity is kept. -/
theorem signing_kept (textual : Json → String) {good : History AqaraCloudClient → (ℕ → Answer) → Prop}
    {labels : List (ℕ → Answer)} {history : History AqaraCloudClient}
    (run : (machine (fun client => ∃ region, AqaraCloudClient.new region = some client)
      AqaraCloudClient.signing (AqaraCloudClient.signedRequest textual)).Run good labels history) :
    Signing.Kept AqaraCloudClient.signing history := by
  have remembers : Remembers AqaraCloudClient.signing AqaraCloudClient.signingProbed
      (AqaraCloudClient.signedRequest textual) := by
    constructor
    · intro client answers quiet
      rcases signedRequest_round textual client answers with
        ⟨-, same⟩ | ⟨-, -, calls, round, -⟩
      · rw [same]
        exact ⟨rfl, rfl⟩
      · rw [round] at quiet
        cases quiet
    · intro client answers calls round
      rcases signedRequest_round textual client answers with
        ⟨quiet, -⟩ | ⟨unprobed, probed, -⟩
      · rw [quiet] at round
        cases round
      · exact ⟨unprobed, probed⟩
  refine kept_of_run remembers ?_ run
  intro before answers calls _ round
  rcases signedRequest_round textual before.client answers with
    ⟨quiet, -⟩ | ⟨-, -, made, tries, ends⟩
  · rw [quiet] at round
    cases round
  · cases tries.symm.trans round
    exact ends

/-! ## Logging in -/

/-- The servers of `AREAS`. -/
def servers : List (String × String) :=
  [("CN", "https://aiot-rpc.aqara.cn"), ("EU", "https://rpc-ger.aqara.com"),
    ("RU", "https://rpc-ru.aqara.com"), ("KR", "https://rpc-kr.aqara.com"),
    ("JP", "https://rpc-kr.aqara.com"), ("AF", "https://rpc-ger.aqara.com"),
    ("US", "https://aiot-rpc-usa.aqara.com"), ("HMT", "https://aiot-rpc-usa.aqara.com"),
    ("OTHER", "https://aiot-rpc-usa.aqara.com"), ("AU", "https://rpc-au.aqara.com"),
    ("ME", "https://rpc-au.aqara.com")]

/-- `_AUTH_FAILURE_CODES`. -/
def authFailureCodes : List ℤ := [108, 109, 802, 804]

/-- What `login` raises. -/
inductive LoginException where
  /-- What `_signed_request` raises. -/
  | request (exception : CloudException)
  | aqaraAuthError (message : String)
  | aqaraCloudAuthError (message : String)
  | attributeError

structure AqaraTokens where
  userId : Json
  token : Json

/-- `int(code)`, unless it raises. -/
def codeInt : Option Json → Option ℤ
  | some (.bool value) => some (if value then 1 else 0)
  | some (.number value) => some (value.num.tdiv value.den)
  | some (.string text) => Python.int text.toList
  | _ => none

section

/- `str` of a number, a list or a dictionary, and `repr`. -/
variable (textual : Json → String) (repr : Option Json → String)

/-- `_raise_if_error` of a dictionary. -/
def raiseIfError (fields : List (String × Json)) : Except LoginException Unit :=
  let code := str textual (fields.lookup "code")
  if code = "0" then .ok ()
  else
    let message := "Aqara cloud rejected request (code=" ++ code ++ " msg=" ++
      repr (fields.lookup "message") ++ ")"
    if (codeInt (fields.lookup "code")).any (· ∈ authFailureCodes) then
      .error (.aqaraCloudAuthError message)
    else .error (.aqaraAuthError message)

/-- The tokens in the result of a reply. -/
def readTokens (result : List (String × Json)) : Except LoginException AqaraTokens :=
  let keys := (result.map Prod.fst).mergeSort fun first second => decide (first ≤ second)
  let refused := LoginException.aqaraAuthError ("Aqara login returned no userId/token (keys: " ++
    textual (.array (keys.map .string)) ++ ")")
  match result.lookup "userId", result.lookup "token" with
  | some userId, some token =>
      if userId.truthy && token.truthy then .ok ⟨userId, token⟩ else .error refused
  | _, _ => .error refused

/-- The tokens in a result that may be missing. -/
def readResult : Option Json → Except LoginException AqaraTokens
  | some (.object result) => readTokens textual result
  | some result => if result.truthy then .error .attributeError else readTokens textual []
  | none => readTokens textual []

/-- What `login` does with a reply. -/
def readLogin (payload : Json) : Except LoginException AqaraTokens :=
  match payload with
  | .object fields => do
      raiseIfError textual repr fields
      readResult textual (fields.lookup "result")
  | _ => .error .attributeError

/-- `login`, with the client that it leaves behind. -/
def AqaraCloudClient.login (client : AqaraCloudClient) (answers : ℕ → Answer) :
    AqaraCloudClient × Except LoginException AqaraTokens :=
  let attempt := client.signedRequest textual answers
  match attempt.result with
  | .ok payload => (attempt.client, readLogin textual repr payload)
  | .error exception => (attempt.client, .error (.request exception))

end

end Cloud
end Reference
end AqaraLanLink
