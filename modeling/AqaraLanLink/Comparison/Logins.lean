import AqaraLanLink.Port.Cloud
import AqaraLanLink.Reference.Cloud

/-!
# Logging in

Both clients of the cloud log in to one account.  They probe the signing identities in different
ways, and they know different regions; a cloud that answers by the server and by the identity only
gives both the same session, or none.
-/

namespace AqaraLanLink
namespace Comparison

open Library

/-! ## The cloud -/

/-- What a call to the cloud meets. -/
inductive CloudReply where
  | unreachable (message : String)
  /-- A response, with the JSON value of its text. -/
  | response (status : ℕ) (text : String) (parsed : Option Json)

def CloudReply.port : CloudReply → Port.Answer
  | .unreachable message => .unreachable message
  | .response status text parsed => .response status text parsed

def CloudReply.reference : CloudReply → Reference.Cloud.Answer
  | .unreachable message => .clientError message
  | .response _ text parsed => .response text parsed

/-- A cloud answers by the server that is called and by the identity that has signed. -/
abbrev Cloud := String → Identity → CloudReply

/-- The answers to calls for some identities, one after the other. -/
def answersOf {α : Type} (reply : Identity → α) (first : Identity) (later : List Identity)
    (call : ℕ) : α :=
  reply ((first :: later)[call]?.getD first)

/-- The session of an account, and the identity that has signed for it. -/
structure LoggedIn where
  userId : Json
  token : Json
  identity : Identity

section

/- What a number, an array or an object looks like as a text, in JavaScript and in Python, and what
`repr` makes of a value. -/
variable (textualJs : Port.Texts) (textualPy : Json → String) (repr : Option Json → String)

/-- The port logs in to a region, for the first time. -/
def portLogin (cloud : Cloud) (region : String) : Option LoggedIn :=
  let client := Port.AqaraCloud.new region
  let answers := answersOf (fun identity => (cloud (Port.serverOf region) identity).port)
    client.identity (Port.tried Port.signingIdentities client.identity)
  match client.login textualJs answers with
  | (after, .ok session) => some ⟨session.userId, session.token, after.identity⟩
  | (_, .error _) => none

/-- The reference logs in to a region, for the first time; it takes no region that it does not
know. -/
def referenceLogin (cloud : Cloud) (region : String) : Option LoggedIn := do
  let client ← Reference.Cloud.AqaraCloudClient.new region
  let server ← Reference.Cloud.servers.lookup region
  let answers := answersOf (fun identity => (cloud server identity).reference) client.signing
    (Reference.Cloud.signingCombos.filter (· ≠ client.signing))
  match client.login textualPy repr answers with
  | (after, .ok tokens) => some ⟨tokens.userId, tokens.token, after.signing⟩
  | (_, .error _) => none

/-! ## What a reply means -/

/-- What a reply means to a client that logs in. -/
inductive Meaning where
  | refused
  | failed
  | session (userId token : Json)

/-- The reply is not that the signature is wrong. -/
def Meaning.settles : Meaning → Bool
  | .refused => false
  | _ => true

/-- What a reply that was not refused means, if it can be read. -/
def Meaning.ofRead {ε : Type} : Except ε Meaning → Meaning
  | .ok meaning => meaning
  | .error _ => .failed

/-- What comes of a reply that settles the login. -/
def Meaning.loggedIn (identity : Identity) : Meaning → Option LoggedIn
  | .session userId token => some ⟨userId, token, identity⟩
  | _ => none

/-- A client asks with its identity, and if that is refused with the first one that is not. -/
def ask (meaning : Identity → Meaning) (identities : List Identity) (first : Identity) :
    Option LoggedIn :=
  if (meaning first).settles then (meaning first).loggedIn first
  else (identities.find? fun identity => (meaning identity).settles).bind fun identity =>
    (meaning identity).loggedIn identity

def portMeaning (answer : Port.Answer) : Meaning :=
  match Port.cloudRequest answer with
  | .error _ => .failed
  | .ok payload =>
      match Port.replyCode textualJs payload with
      | .error _ => .failed
      | .ok code =>
          if code = Port.codeBadSign then .refused
          else
            .ofRead ((Port.raiseIfError textualJs payload >>= Port.readSession).map fun session =>
              .session session.userId session.token)

def referenceMeaning (answer : Reference.Cloud.Answer) : Meaning :=
  match Reference.Cloud.request answer with
  | .error _ => .failed
  | .ok payload =>
      match Reference.Cloud.replyCode textualPy payload with
      | .error _ => .failed
      | .ok code =>
          if code = "106" then .refused
          else
            .ofRead ((Reference.Cloud.readLogin textualPy repr payload).map fun tokens =>
              .session tokens.userId tokens.token)

end

/-! ## The port asks -/

variable {textualJs : Port.Texts} {textualPy : Json → String} {repr : Option Json → String}

/-- What comes of a request of the port. -/
def portLanded (identity : Identity) (result : Except Port.CloudFailure Json) : Option LoggedIn :=
  match result >>= Port.readSession with
  | .ok session => some ⟨session.userId, session.token, identity⟩
  | .error _ => none

/-- A refusal is an error. -/
theorem portLanded_refused {payload : Json} (identity : Identity)
    (refused : Port.replyCode textualJs payload = .ok Port.codeBadSign) :
    portLanded identity (Port.raiseIfError textualJs payload) = none := by
  have code : Port.jsString textualJs
      (some (.coalesce (payload.get? "code") (.string ""))) = .ok Port.codeBadSign := by
    cases payload with
    | null => cases refused
    | object fields =>
        change Port.jsString textualJs (fields.lookup "code") = _ at refused
        change Port.jsString textualJs (some (.coalesce (fields.lookup "code") (.string ""))) = _
        cases found : fields.lookup "code" with
        | none =>
            rw [found] at refused
            exact absurd (Except.ok.inj refused) (by decide)
        | some value =>
            rw [found] at refused
            cases value with
            | null => exact absurd (Except.ok.inj refused) (by decide)
            | _ => exact refused
    | _ => exact absurd (Except.ok.inj refused) (by decide)
  have other : Port.codeBadSign ≠ "0" := by decide
  rw [Port.raiseIfError, code]
  simp only [ok_bind, if_neg other, portLanded]
  cases Port.jsString textualJs
    (some (.coalesce (payload.get? "message") (.string "no reason given"))) with
  | error _ => rfl
  | ok _ => rfl

/-- What a call of the port can meet: something that it throws at, a refusal, or a reply that it
reads. -/
theorem portMeaning_cases (textualJs : Port.Texts) (answer : Port.Answer) :
    (∃ error, Port.cloudRequest answer = .error error ∧ portMeaning textualJs answer = .failed) ∨
      ∃ payload, Port.cloudRequest answer = .ok payload ∧
        ((∃ error, Port.replyCode textualJs payload = .error error ∧
            portMeaning textualJs answer = .failed) ∨
          (Port.replyCode textualJs payload = .ok Port.codeBadSign ∧
            portMeaning textualJs answer = .refused) ∨
          ∃ code, Port.replyCode textualJs payload = .ok code ∧ code ≠ Port.codeBadSign ∧
            (portMeaning textualJs answer).settles = true ∧
            ∀ identity, (portMeaning textualJs answer).loggedIn identity =
              portLanded identity (Port.raiseIfError textualJs payload)) := by
  cases replied : Port.cloudRequest answer with
  | error error => exact .inl ⟨error, rfl, by rw [portMeaning, replied]⟩
  | ok payload =>
      refine .inr ⟨payload, rfl, ?_⟩
      cases coded : Port.replyCode textualJs payload with
      | error error =>
          refine .inl ⟨error, rfl, ?_⟩
          rw [portMeaning, replied]
          simp only [coded]
      | ok code =>
          by_cases bad : code = Port.codeBadSign
          · subst bad
            refine .inr (.inl ⟨rfl, ?_⟩)
            rw [portMeaning, replied]
            simp only [coded, if_true]
          · refine .inr (.inr ⟨code, rfl, bad, ?_⟩)
            rw [portMeaning, replied]
            simp only [coded, if_neg bad, portLanded]
            cases Port.raiseIfError textualJs payload >>= Port.readSession with
            | ok _ => exact ⟨rfl, fun _ => rfl⟩
            | error _ => exact ⟨rfl, fun _ => rfl⟩

/-- The loop of the port comes to the first identity that is not refused. -/
theorem portLanded_probeLoop (reply : Identity → Port.Answer) {answers : ℕ → Port.Answer}
    (identities : List Identity) (call : ℕ) (active : Identity) {payload : Json}
    (refused : Port.replyCode textualJs payload = .ok Port.codeBadSign)
    (skipped : (portMeaning textualJs (reply active)).settles = false)
    (met : ∀ place identity, (Port.tried identities active)[place]? = some identity →
      answers (call + place) = reply identity) :
    portLanded (Port.probeLoop textualJs answers identities call active payload).identity
        (Port.probeLoop textualJs answers identities call active payload).result =
      (identities.find? fun identity => (portMeaning textualJs (reply identity)).settles).bind
        fun identity => (portMeaning textualJs (reply identity)).loggedIn identity := by
  induction identities generalizing call active payload with
  | nil => exact portLanded_refused active refused
  | cons identity identities induction =>
      rw [Port.tried] at met
      by_cases same : identity = active
      · subst same
        rw [if_pos rfl] at met
        rw [Port.probeLoop, if_pos rfl, List.find?_cons_of_neg (by simp [skipped])]
        exact induction call identity refused skipped met
      rw [if_neg same] at met
      have here : answers call = reply identity := met 0 identity rfl
      have later : ∀ place other, (Port.tried identities identity)[place]? = some other →
          answers (call + 1 + place) = reply other := by
        intro place other found
        rw [Nat.add_assoc, Nat.add_comm 1]
        exact met (place + 1) other found
      rw [Port.probeLoop, if_neg same, here]
      rcases portMeaning_cases textualJs (reply identity) with ⟨error, thrown, means⟩ |
        ⟨payload, replied, ⟨error, thrown, means⟩ | ⟨coded, means⟩ | ⟨code, coded, good, settles, lands⟩⟩
      · rw [List.find?_cons_of_pos (by rw [means]; rfl)]
        simp only [thrown, Option.bind_some, means]
        rfl
      · rw [List.find?_cons_of_pos (by rw [means]; rfl)]
        simp only [replied, thrown, Option.bind_some, means]
        rfl
      · rw [List.find?_cons_of_neg (by rw [means]; decide)]
        simp only [replied, coded, ne_eq, not_true_eq_false, if_false]
        exact induction (call + 1) identity coded (by rw [means]; rfl) later
      · rw [List.find?_cons_of_pos (by exact settles)]
        simp only [replied, coded, ne_eq, good, not_false_eq_true, if_true, Option.bind_some, lands]

theorem answersOf_zero {α : Type} (reply : Identity → α) (first : Identity) (later : List Identity) :
    answersOf reply first later 0 = reply first := rfl

theorem answersOf_later {α : Type} (reply : Identity → α) {first identity : Identity}
    {later : List Identity} (place : ℕ) (found : later[place]? = some identity) :
    answersOf reply first later (1 + place) = reply identity := by
  rw [answersOf, Nat.add_comm 1, List.getElem?_cons_succ, found, Option.getD_some]

theorem portLogin_eq (cloud : Cloud) (region : String) :
    portLogin textualJs cloud region =
      ask (fun identity => portMeaning textualJs (cloud (Port.serverOf region) identity).port)
        Port.signingIdentities (Port.AqaraCloud.new region).identity := by
  obtain ⟨client, new⟩ : ∃ client, client = Port.AqaraCloud.new region := ⟨_, rfl⟩
  have unprobed : client.identityProbed = false := new ▸ rfl
  obtain ⟨reply, replies⟩ : ∃ reply : Identity → Port.Answer,
      reply = fun identity => (cloud (Port.serverOf region) identity).port := ⟨_, rfl⟩
  have landed (attempt : Signing.Attempt Port.AqaraCloud (Except Port.CloudFailure Json)) :
      (match (attempt.client, attempt.result >>= Port.readSession) with
        | (after, .ok session) => some (LoggedIn.mk session.userId session.token after.identity)
        | (_, .error _) => none) = portLanded attempt.client.identity attempt.result := by
    rw [portLanded]
    cases attempt.result >>= Port.readSession with
    | ok _ => rfl
    | error _ => rfl
  simp only [portLogin, Port.AqaraCloud.login, ← new, ← replies]
  rw [landed, ask, Port.AqaraCloud.signedRequest, answersOf_zero]
  have fold (identity : Identity) : portMeaning textualJs (cloud (Port.serverOf region) identity).port =
      portMeaning textualJs (reply identity) := by rw [replies]
  simp only [fold]
  rcases portMeaning_cases textualJs (reply client.identity) with ⟨error, thrown, means⟩ |
    ⟨payload, replied, ⟨error, thrown, means⟩ | ⟨coded, means⟩ | ⟨code, coded, good, settles, lands⟩⟩
  · simp only [thrown, means]
    rfl
  · simp only [replied, thrown, means]
    rfl
  · have skipped : (portMeaning textualJs (reply client.identity)).settles = false := by
      rw [means]
      rfl
    rw [if_neg (by rw [skipped]; decide)]
    simp only [replied, coded, ne_eq, not_true_eq_false, unprobed, Bool.false_eq_true, or_self,
      if_false]
    exact portLanded_probeLoop reply Port.signingIdentities 1 client.identity coded skipped
      fun place identity found => answersOf_later reply place found
  · rw [if_pos settles]
    simp only [replied, coded, ne_eq, good, not_false_eq_true, true_or, if_true, lands]

/-! ## The reference asks -/

/-- What comes of a reply that the reference reads. -/
def referenceLanded (textualPy : Json → String) (repr : Option Json → String) (identity : Identity)
    (payload : Json) : Option LoggedIn :=
  match Reference.Cloud.readLogin textualPy repr payload with
  | .ok tokens => some ⟨tokens.userId, tokens.token, identity⟩
  | .error _ => none

/-- What a call of the reference can meet: something that it raises at, a refusal, or a reply that
it reads. -/
theorem referenceMeaning_cases (textualPy : Json → String) (repr : Option Json → String)
    (answer : Reference.Cloud.Answer) :
    (∃ error, Reference.Cloud.request answer = .error error ∧
        referenceMeaning textualPy repr answer = .failed) ∨
      ∃ payload, Reference.Cloud.request answer = .ok payload ∧
        ((∃ error, Reference.Cloud.replyCode textualPy payload = .error error ∧
            referenceMeaning textualPy repr answer = .failed) ∨
          (Reference.Cloud.replyCode textualPy payload = .ok "106" ∧
            referenceMeaning textualPy repr answer = .refused) ∨
          ∃ code, Reference.Cloud.replyCode textualPy payload = .ok code ∧ code ≠ "106" ∧
            (referenceMeaning textualPy repr answer).settles = true ∧
            ∀ identity, (referenceMeaning textualPy repr answer).loggedIn identity =
              referenceLanded textualPy repr identity payload) := by
  cases replied : Reference.Cloud.request answer with
  | error error => exact .inl ⟨error, rfl, by rw [referenceMeaning, replied]⟩
  | ok payload =>
      refine .inr ⟨payload, rfl, ?_⟩
      cases coded : Reference.Cloud.replyCode textualPy payload with
      | error error =>
          refine .inl ⟨error, rfl, ?_⟩
          rw [referenceMeaning, replied]
          simp only [coded]
      | ok code =>
          by_cases bad : code = "106"
          · subst bad
            refine .inr (.inl ⟨rfl, ?_⟩)
            rw [referenceMeaning, replied]
            simp only [coded, if_true]
          · refine .inr (.inr ⟨code, rfl, bad, ?_⟩)
            rw [referenceMeaning, replied]
            simp only [coded, if_neg bad, referenceLanded]
            cases Reference.Cloud.readLogin textualPy repr payload with
            | ok _ => exact ⟨rfl, fun _ => rfl⟩
            | error _ => exact ⟨rfl, fun _ => rfl⟩

/-- What comes of the loop of the reference. -/
def roundLanded (textualPy : Json → String) (repr : Option Json → String) :
    Except Reference.Cloud.CloudException (Option (Identity × Json)) → Option LoggedIn
  | .ok (some (combo, retry)) => referenceLanded textualPy repr combo retry
  | _ => none

/-- The loop of the reference comes to the first identity that is not refused. -/
theorem roundLanded_probeLoop (reply : Identity → Reference.Cloud.Answer)
    {answers : ℕ → Reference.Cloud.Answer} {seed : Identity} (combos : List Identity) (call : ℕ)
    (skipped : (referenceMeaning textualPy repr (reply seed)).settles = false)
    (met : ∀ place identity, (combos.filter (· ≠ seed))[place]? = some identity →
      answers (call + place) = reply identity) :
    roundLanded textualPy repr (Reference.Cloud.probeLoop textualPy answers seed combos call).2 =
      (combos.find? fun identity => (referenceMeaning textualPy repr (reply identity)).settles).bind
        fun identity => (referenceMeaning textualPy repr (reply identity)).loggedIn identity := by
  induction combos generalizing call with
  | nil => rfl
  | cons combo combos induction =>
      by_cases same : combo = seed
      · subst same
        rw [List.filter_cons_of_neg (by simp)] at met
        rw [Reference.Cloud.probeLoop, if_pos rfl, List.find?_cons_of_neg (by simp [skipped])]
        exact induction call met
      rw [List.filter_cons_of_pos (by simpa using same)] at met
      have here : answers call = reply combo := met 0 combo rfl
      have later : ∀ place other, (combos.filter (· ≠ seed))[place]? = some other →
          answers (call + 1 + place) = reply other := by
        intro place other found
        rw [Nat.add_assoc, Nat.add_comm 1]
        exact met (place + 1) other found
      rw [Reference.Cloud.probeLoop, if_neg same, here]
      rcases referenceMeaning_cases textualPy repr (reply combo) with ⟨error, thrown, means⟩ |
        ⟨payload, replied, ⟨error, thrown, means⟩ | ⟨coded, means⟩ | ⟨code, coded, good, settles, lands⟩⟩
      · rw [List.find?_cons_of_pos (by rw [means]; rfl)]
        simp only [thrown, Option.bind_some, means]
        rfl
      · rw [List.find?_cons_of_pos (by rw [means]; rfl)]
        simp only [replied, thrown, Option.bind_some, means]
        rfl
      · rw [List.find?_cons_of_neg (by rw [means]; decide)]
        simp only [replied, coded, ne_eq, not_true_eq_false, if_false]
        exact induction (call + 1) later
      · rw [List.find?_cons_of_pos (by exact settles)]
        simp only [replied, coded, ne_eq, good, not_false_eq_true, if_true, Option.bind_some, lands]
        rfl

/-- A refusal stays one with a clearer message. -/
theorem referenceLanded_clarified {payload clearer : Json} (region : String) (identity : Identity)
    (refused : Reference.Cloud.replyCode textualPy payload = .ok "106")
    (clarified : Reference.Cloud.clarified region payload = .ok clearer) :
    referenceLanded textualPy repr identity clearer = none := by
  cases payload with
  | object fields =>
      have code : Reference.Cloud.str textualPy (fields.lookup "code") = "106" :=
        Except.ok.inj refused
      have told (text : Json) :
          referenceLanded textualPy repr identity
            (.object (Dictionary.setEntries fields "message" text)) = none := by
        have kept : (Dictionary.setEntries fields "message" text).lookup "code" =
            fields.lookup "code" := by
          rw [Dictionary.lookup_setEntries, if_neg (by decide)]
        have other : ("106" : String) ≠ "0" := by decide
        simp only [referenceLanded, Reference.Cloud.readLogin, Reference.Cloud.raiseIfError, kept,
          code, if_neg other]
        split
        · next login landed =>
          split at landed
          · cases landed
          · cases landed
        · rfl
      simp only [Reference.Cloud.clarified] at clarified
      split at clarified
      · cases clarified
        exact told _
      · cases clarified
        exact told _
      · split at clarified
        · cases clarified
        · cases clarified
          exact told _
  | _ => cases refused

theorem referenceLogin_eq (cloud : Cloud) {region server : String}
    {client : Reference.Cloud.AqaraCloudClient}
    (new : Reference.Cloud.AqaraCloudClient.new region = some client)
    (known : Reference.Cloud.servers.lookup region = some server) :
    referenceLogin textualPy repr cloud region =
      ask (fun identity => referenceMeaning textualPy repr (cloud server identity).reference)
        Reference.Cloud.signingCombos client.signing := by
  obtain ⟨area, -, made⟩ := Option.map_eq_some_iff.mp new
  have unprobed : client.signingProbed = false := made ▸ rfl
  obtain ⟨reply, replies⟩ : ∃ reply : Identity → Reference.Cloud.Answer,
      reply = fun identity => (cloud server identity).reference := ⟨_, rfl⟩
  have fold (identity : Identity) : referenceMeaning textualPy repr (cloud server identity).reference =
      referenceMeaning textualPy repr (reply identity) := by rw [replies]
  have landed (after : Reference.Cloud.AqaraCloudClient) (payload : Json) :
      (match (after, Reference.Cloud.readLogin textualPy repr payload) with
        | (after, .ok tokens) => some (LoggedIn.mk tokens.userId tokens.token after.signing)
        | (_, .error _) => none) = referenceLanded textualPy repr after.signing payload := by
    rw [referenceLanded]
    cases Reference.Cloud.readLogin textualPy repr payload with
    | ok _ => rfl
    | error _ => rfl
  simp only [referenceLogin, new, known, Option.bind_eq_bind, Option.bind_some,
    Reference.Cloud.AqaraCloudClient.login, ← replies]
  rw [ask, Reference.Cloud.AqaraCloudClient.signedRequest, answersOf_zero]
  simp only [fold]
  rcases referenceMeaning_cases textualPy repr (reply client.signing) with ⟨error, thrown, means⟩ |
    ⟨payload, replied, ⟨error, thrown, means⟩ | ⟨coded, means⟩ | ⟨code, coded, good, settles, lands⟩⟩
  · simp only [thrown, means]
    rfl
  · simp only [replied, thrown, means]
    rfl
  · have skipped : (referenceMeaning textualPy repr (reply client.signing)).settles = false := by
      rw [means]
      rfl
    rw [if_neg (by rw [skipped]; decide), ← roundLanded_probeLoop reply
      Reference.Cloud.signingCombos 1 skipped fun place identity found =>
        answersOf_later reply place found]
    simp only [replied, coded, ne_eq, not_true_eq_false, unprobed, Bool.false_eq_true, or_self,
      if_false]
    cases (Reference.Cloud.probeLoop textualPy (answersOf reply client.signing
        (Reference.Cloud.signingCombos.filter (· ≠ client.signing))) client.signing
          Reference.Cloud.signingCombos 1).2 with
    | error _ => rfl
    | ok found =>
        cases found with
        | some found => exact landed _ _
        | none =>
            cases clear : Reference.Cloud.clarified client.region payload with
            | error _ => rfl
            | ok clearer => exact (landed _ _).trans (referenceLanded_clarified _ _ coded clear)
  · rw [if_pos settles]
    simp only [replied, coded, ne_eq, good, not_false_eq_true, true_or, if_true, landed, lands]

/-! ## Replies that both read alike -/

/-- A value whose text is the same in both languages, or no code that either acts on. -/
inductive PlainCode : Option Json → Prop where
  | none : PlainCode none
  | null : PlainCode (some .null)
  | bool (value : Bool) : PlainCode (some (.bool value))
  | string (value : String) : PlainCode (some (.string value))
  /-- A number that both languages read exactly. -/
  | int (value : ℤ) (safe : value.natAbs < 2 ^ 53) : PlainCode (some (.number value))

/-- A value that is true in both languages or in neither: an empty array or object is true in
JavaScript only. -/
def PlainId (found : Option Json) : Prop := found ≠ some (.array []) ∧ found ≠ some (.object [])

/-- The result of a reply, if it is an object, has such a user and token. -/
def PlainResult (found : Option Json) : Prop :=
  ∀ fields, found = some (.object fields) →
    PlainId (fields.lookup "userId") ∧ PlainId (fields.lookup "token")

/-- A reply as the cloud gives it. -/
inductive PlainReply : CloudReply → Prop where
  | unreachable (message : String) : PlainReply (.unreachable message)
  | noJson (status : ℕ) (text : String) : PlainReply (.response status text none)
  | told {status : ℕ} {text : String} {fields : List (String × Json)}
      (success : 200 ≤ status ∧ status ≤ 299) (code : PlainCode (fields.lookup "code"))
      (result : PlainResult (fields.lookup "result")) :
      PlainReply (.response status text (some (.object fields)))

/-- A safe integer is written in digits. -/
def Numerals (textual : Json → String) : Prop :=
  ∀ value : ℤ, value.natAbs < 2 ^ 53 → textual (.number value) = toString value

/-- Both read one code, or codes on which neither acts. -/
theorem codes_alike (numeralsJs : Numerals textualJs.text) (numeralsPy : Numerals textualPy)
    {found : Option Json} (plain : PlainCode found) : ∃ js,
      Port.jsString textualJs found = .ok js ∧
      (js = Reference.Cloud.str textualPy found ∧
          Port.jsString textualJs (some (.coalesce found (.string ""))) = .ok js ∨
        js ≠ "106" ∧ Reference.Cloud.str textualPy found ≠ "106" ∧
          Reference.Cloud.str textualPy found ≠ "0" ∧
          Port.jsString textualJs (some (.coalesce found (.string ""))) ≠ .ok "0") := by
  cases plain with
  | none => exact ⟨_, rfl, .inr (by simp [Reference.Cloud.str, Json.coalesce, Port.jsString])⟩
  | null => exact ⟨_, rfl, .inr (by simp [Reference.Cloud.str, Json.coalesce, Port.jsString])⟩
  | bool value =>
      cases value with
      | false => exact ⟨_, rfl, .inr (by simp [Reference.Cloud.str, Json.coalesce, Port.jsString])⟩
      | true => exact ⟨_, rfl, .inr (by simp [Reference.Cloud.str, Json.coalesce, Port.jsString])⟩
  | string value => exact ⟨value, rfl, .inl ⟨rfl, rfl⟩⟩
  | int value safe =>
      have js : Port.jsString textualJs (some (.number value)) = .ok (toString value) := by
        simp [Port.jsString, Json.convertible_number, numeralsJs value safe]
      exact ⟨_, js, .inl ⟨(numeralsPy value safe).symm, js⟩⟩

theorem truthy_alike {value : Json} (plain : PlainId (some value)) :
    value.jsTruthy = value.truthy := by
  cases value with
  | array items =>
      cases items with
      | nil => exact absurd rfl plain.1
      | cons => rfl
  | object fields =>
      cases fields with
      | nil => exact absurd rfl plain.2
      | cons => rfl
  | _ => rfl

/-- What is not an object holds no session. -/
theorem readResult_fails (textualPy : Json → String) {result : Option Json}
    (noObject : ∀ fields, result ≠ some (.object fields)) :
    ∃ failure, Reference.Cloud.readResult textualPy result = .error failure := by
  cases result with
  | none => exact ⟨_, rfl⟩
  | some value =>
      rw [Reference.Cloud.readResult]
      · split
        · exact ⟨_, rfl⟩
        · exact ⟨_, rfl⟩
      · intro fields same
        exact noObject fields (congrArg some same)

/-- Both read the same session in a reply that was not refused. -/
theorem sessions_alike (textualPy : Json → String) {fields : List (String × Json)}
    (plain : PlainResult (fields.lookup "result")) :
    Meaning.ofRead ((Port.readSession (.object fields)).map fun session =>
        .session session.userId session.token) =
      .ofRead ((Reference.Cloud.readResult textualPy (fields.lookup "result")).map fun tokens =>
        .session tokens.userId tokens.token) := by
  have result : (Json.object fields).get? "result" = fields.lookup "result" := rfl
  rw [Port.readSession, result]
  cases found : fields.lookup "result" with
  | none => rfl
  | some value =>
      cases value with
      | object inner =>
          obtain ⟨userId, token⟩ := plain inner found
          have user : (Json.object inner).get? "userId" = inner.lookup "userId" := rfl
          have key : (Json.object inner).get? "token" = inner.lookup "token" := rfl
          simp only [Json.coalesce, user, key, Reference.Cloud.readResult, Reference.Cloud.readTokens]
          cases users : inner.lookup "userId" with
          | none => rfl
          | some user =>
              cases tokens : inner.lookup "token" with
              | none => rfl
              | some key =>
                  rw [users] at userId
                  rw [tokens] at token
                  simp only [truthy_alike userId, truthy_alike token]
                  split
                  · rfl
                  · rfl
      | _ =>
          have noObject : ∀ inner, fields.lookup "result" ≠ some (.object inner) := by simp [found]
          obtain ⟨failure, failed⟩ := readResult_fails textualPy noObject
          rw [← found, failed, found]
          rfl

/-- The port reads no session in a reply whose code is not a zero. -/
theorem port_fails (payload : Json)
    (other : Port.jsString textualJs (some (.coalesce (payload.get? "code") (.string ""))) ≠
      .ok "0") :
    ∃ failure, (Port.raiseIfError textualJs payload >>= Port.readSession) = .error failure := by
  rw [Port.raiseIfError]
  cases coded : Port.jsString textualJs (some (.coalesce (payload.get? "code") (.string ""))) with
  | error failure => exact ⟨failure, rfl⟩
  | ok code =>
      have zero : code ≠ "0" := fun same => other (by rw [coded, same])
      simp only [ok_bind, if_neg zero]
      cases Port.jsString textualJs
        (some (.coalesce (payload.get? "message") (.string "no reason given"))) with
      | error failure => exact ⟨failure, rfl⟩
      | ok message => exact ⟨_, rfl⟩

/-- Nor does the reference. -/
theorem reference_fails (repr : Option Json → String) {fields : List (String × Json)}
    (other : Reference.Cloud.str textualPy (fields.lookup "code") ≠ "0") :
    ∃ failure, Reference.Cloud.readLogin textualPy repr (.object fields) = .error failure := by
  simp only [Reference.Cloud.readLogin, Reference.Cloud.raiseIfError, if_neg other]
  split
  · exact ⟨_, rfl⟩
  · exact ⟨_, rfl⟩

/-- A plain reply means the same to both. -/
theorem meanings_alike (numeralsJs : Numerals textualJs.text) (numeralsPy : Numerals textualPy)
    {reply : CloudReply} (plain : PlainReply reply) :
    portMeaning textualJs reply.port = referenceMeaning textualPy repr reply.reference := by
  cases plain with
  | unreachable message => rfl
  | noJson status text =>
      rw [CloudReply.port, portMeaning, Port.cloudRequest]
      split
      · next error thrown => rfl
      · next payload replied =>
        split at replied
        · cases replied
        · cases replied
  | @told status text fields success code result =>
      have request : Port.cloudRequest (.response status text (some (.object fields))) =
          .ok (.object fields) := if_neg (not_not.mpr success)
      obtain ⟨js, read, same | ⟨notBad, notBad', notZero, notZero'⟩⟩ :=
        codes_alike numeralsJs numeralsPy code
      all_goals
        have replyCode : Port.replyCode textualJs (.object fields) = .ok js := read
        have replyCode' : Reference.Cloud.replyCode textualPy (.object fields) =
          .ok (Reference.Cloud.str textualPy (fields.lookup "code")) := rfl
        simp only [portMeaning, referenceMeaning, CloudReply.port, CloudReply.reference, request,
          Reference.Cloud.request, replyCode, replyCode']
      · obtain ⟨same, kept⟩ := same
        rw [← same]
        by_cases bad : js = Port.codeBadSign
        · rw [if_pos bad, if_pos (show js = "106" from bad)]
        rw [if_neg bad, if_neg (show ¬js = "106" from bad)]
        by_cases zero : js = "0"
        · have passed : Port.raiseIfError textualJs (.object fields) = .ok (.object fields) := by
            have coded : Port.jsString textualJs
                (some (.coalesce ((Json.object fields).get? "code") (.string ""))) = .ok js := kept
            rw [Port.raiseIfError, coded]
            simp only [ok_bind, if_pos zero]
          have passed' : Reference.Cloud.readLogin textualPy repr (.object fields) =
              Reference.Cloud.readResult textualPy (fields.lookup "result") := by
            simp only [Reference.Cloud.readLogin, Reference.Cloud.raiseIfError,
              if_pos (same.symm.trans zero)]
            rfl
          rw [passed, passed', ok_bind]
          exact sessions_alike textualPy result
        · obtain ⟨_, failed⟩ := port_fails (.object fields)
            (fun coded => zero (Except.ok.inj (kept.symm.trans coded)))
          obtain ⟨_, failed'⟩ := reference_fails repr (fun read => zero (same.trans read))
          rw [failed, failed']
          rfl
      · rw [if_neg (show ¬js = Port.codeBadSign from notBad), if_neg notBad']
        obtain ⟨_, failed⟩ := port_fails (.object fields) notZero'
        obtain ⟨_, failed'⟩ := reference_fails repr notZero
        rw [failed, failed']
        rfl

/-! ## The regions -/

/-- In a region where both call one server with one identity first, both log in alike. -/
theorem logins_agree (numeralsJs : Numerals textualJs.text) (numeralsPy : Numerals textualPy)
    {cloud : Cloud} (plain : ∀ server identity, PlainReply (cloud server identity))
    {region server : String} {client : Reference.Cloud.AqaraCloudClient}
    (new : Reference.Cloud.AqaraCloudClient.new region = some client)
    (known : Reference.Cloud.servers.lookup region = some server)
    (called : Port.serverOf region = server)
    (signs : (Port.AqaraCloud.new region).identity = client.signing) :
    portLogin textualJs cloud region = referenceLogin textualPy repr cloud region := by
  have meanings (identity : Identity) :
      portMeaning textualJs (cloud (Port.serverOf region) identity).port =
        referenceMeaning textualPy repr (cloud server identity).reference := by
    rw [called]
    exact meanings_alike numeralsJs numeralsPy (plain server identity)
  rw [portLogin_eq, referenceLogin_eq cloud new known, signs]
  simp only [meanings]
  rfl

/-- A cloud of one server, which knows the account. -/
def onlyAt (home : String) : Cloud := fun server _ =>
  if server = home then
    .response 200 "" (some (.object [("code", .string "0"),
      ("result", .object [("userId", .string "user"), ("token", .string "token")])]))
  else .unreachable "no such server"

theorem plainReply_onlyAt (home server : String) (identity : Identity) :
    PlainReply (onlyAt home server identity) := by
  rw [onlyAt]
  split
  · refine .told (by decide) (.string "0") ?_
    intro fields found
    cases found
    exact ⟨by simp [PlainId], by simp [PlainId, List.lookup_cons]⟩
  · exact .unreachable _

theorem portLogin_onlyAt (textualJs : Port.Texts) (region : String) :
    portLogin textualJs (onlyAt (Port.serverOf region)) region =
      some ⟨.string "user", .string "token", (Port.AqaraCloud.new region).identity⟩ := by
  rw [portLogin_eq]
  simp only [onlyAt, if_true]
  rfl

/-- The reference does not log in where it calls another server. -/
theorem referenceLogin_onlyAt (textualPy : Json → String) (repr : Option Json → String)
    {home region server : String} {client : Reference.Cloud.AqaraCloudClient}
    (new : Reference.Cloud.AqaraCloudClient.new region = some client)
    (known : Reference.Cloud.servers.lookup region = some server) (other : server ≠ home) :
    referenceLogin textualPy repr (onlyAt home) region = none := by
  rw [referenceLogin_eq _ new known]
  simp only [onlyAt, if_neg other]
  rfl

theorem referenceLogin_unknown (textualPy : Json → String) (repr : Option Json → String)
    (cloud : Cloud) {region : String} (unknown : Reference.Cloud.areas.lookup region = none) :
    referenceLogin textualPy repr cloud region = none := by
  rw [referenceLogin, Reference.Cloud.AqaraCloudClient.new, unknown]
  rfl

/-- Both clients log in alike to every cloud exactly in the regions of the port and in `HMT`: of the
other regions of the reference, the port calls the server of `AREAS.OTHER`. -/
theorem logins_agree_iff (numeralsJs : Numerals textualJs.text) (numeralsPy : Numerals textualPy)
    (region : String) :
    (∀ cloud : Cloud, (∀ server identity, PlainReply (cloud server identity)) →
        portLogin textualJs cloud region = referenceLogin textualPy repr cloud region) ↔
      region ∈ Port.servers.map Prod.fst ∨ region = "HMT" := by
  constructor
  · intro agree
    have lands := (portLogin_onlyAt textualJs region).symm.trans
      (agree (onlyAt (Port.serverOf region)) (plainReply_onlyAt _))
    cases known : Reference.Cloud.areas.lookup region with
    | none =>
        rw [referenceLogin_unknown textualPy repr _ known] at lands
        cases lands
    | some area =>
        have member : region ∈ Reference.Cloud.areas.map Prod.fst :=
          List.mem_map.mpr ⟨_, mem_of_lookup known, rfl⟩
        simp only [Reference.Cloud.areas, List.map_cons, List.map_nil, List.mem_cons,
          List.not_mem_nil, or_false] at member
        rcases member with rfl | rfl | rfl | rfl | rfl | rfl | rfl | rfl | rfl | rfl | rfl
        -- The port does not know Africa and the Middle East.
        case inr.inr.inr.inr.inr.inl =>
          rw [referenceLogin_onlyAt textualPy repr rfl rfl (by decide)] at lands
          cases lands
        case inr.inr.inr.inr.inr.inr.inr.inr.inr.inr =>
          rw [referenceLogin_onlyAt textualPy repr rfl rfl (by decide)] at lands
          cases lands
        all_goals decide
  · intro shared cloud plain
    simp only [Port.servers, List.map_cons, List.map_nil, List.mem_cons, List.not_mem_nil,
      or_false] at shared
    rcases shared with (rfl | rfl | rfl | rfl | rfl | rfl | rfl | rfl) | rfl
    all_goals exact logins_agree numeralsJs numeralsPy plain rfl rfl rfl rfl

/-- Whole numbers as Python writes them. -/
def pythonText : Json → String
  | .number value => toString value.num
  | _ => "{}"

/-- Both log in alike from Hong Kong, and not from Africa. -/
theorem logins_agree_hongKong :
    (∀ cloud : Cloud, (∀ server identity, PlainReply (cloud server identity)) →
        portLogin Port.plainText cloud "HMT" =
          referenceLogin pythonText (fun _ => "None") cloud "HMT") ∧
      ¬ ∀ cloud : Cloud, (∀ server identity, PlainReply (cloud server identity)) →
        portLogin Port.plainText cloud "AF" =
          referenceLogin pythonText (fun _ => "None") cloud "AF" :=
  ⟨(logins_agree_iff (fun _ _ => rfl) (fun _ _ => rfl) "HMT").mpr (.inr rfl),
    fun agree => absurd ((logins_agree_iff (fun _ _ => rfl) (fun _ _ => rfl) "AF").mp agree) (by decide)⟩

end Comparison
end AqaraLanLink
