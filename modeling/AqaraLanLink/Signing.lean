import AqaraLanLink.Library.Runs
import Mathlib.Data.List.Basic

/-!
# Signing identities

A request to the Aqara cloud is signed with one of the app's identities.  A client that is told that
its signature is wrong probes the other identities, and it should keep one only when the cloud has
answered to it.
-/

namespace AqaraLanLink

open Library

/-- One of the app's signing identities. -/
structure Identity where
  appId : String
  appKey : String
  deriving DecidableEq, Repr

/-- What a call means for the identity that signed it. -/
inductive Verdict where
  /-- A reply with any code but that of a wrong signature. -/
  | accepted
  /-- The reply that the signature is wrong. -/
  | refused
  /-- No reply with a code: the call, or reading the code, has raised. -/
  | raised
  deriving DecidableEq, Repr

namespace Signing

variable {κ α ρ : Type}

/-- What one signed request does. -/
structure Attempt (κ ρ : Type) where
  /-- The client afterwards. -/
  client : κ
  /-- The calls of the probe round, when there was one. -/
  round : Option (List (Identity × Verdict))
  /-- What the caller gets. -/
  result : ρ

/-- A client and what has happened to it. -/
structure History (κ : Type) where
  client : κ
  /-- The identity that the client has started with. -/
  start : Identity
  /-- The calls of the probe rounds so far. -/
  probes : List (Identity × Verdict)
  /-- The number of probe rounds so far. -/
  rounds : ℕ

/-- A client that has made no request. -/
def History.new (active : κ → Identity) (client : κ) : History κ := ⟨client, active client, [], 0⟩

/-- The history with one more request. -/
def History.after (history : History κ) (attempt : Attempt κ ρ) : History κ where
  client := attempt.client
  start := history.start
  probes := history.probes ++ attempt.round.getD []
  rounds := history.rounds + if attempt.round.isSome then 1 else 0

/-- The identity is kept unless a probe has found another one. -/
structure Kept (active : κ → Identity) (history : History κ) : Prop where
  /-- Another identity than the first is one whose probe the cloud has answered. -/
  answered : active history.client ≠ history.start →
    (active history.client, Verdict.accepted) ∈ history.probes
  /-- When every probe was refused or has raised, the first identity is the active one. -/
  restored : (∀ probe ∈ history.probes, probe.2 ≠ .accepted) → active history.client = history.start
  /-- There has been one probe round at most. -/
  once : history.rounds ≤ 1

/-- One request after the other; the label of a request is what its calls meet. -/
def machine (new : κ → Prop) (active : κ → Identity) (request : κ → (ℕ → α) → Attempt κ ρ) :
    Machine (History κ) (ℕ → α) where
  initial history := ∃ client, new client ∧ history = .new active client
  step history answers next := next = history.after (request history.client answers)

variable {active : κ → Identity}

theorem kept_new (client : κ) : Kept active (.new active client) :=
  ⟨fun moved => absurd rfl moved, fun _ => rfl, Nat.zero_le _⟩

/-- A request without a probe round leaves what it leaves alone. -/
theorem Kept.after_silent {history : History κ} (kept : Kept active history) {attempt : Attempt κ ρ}
    (silent : attempt.round = none) (same : active attempt.client = active history.client) :
    Kept active (history.after attempt) := by
  have probes : (history.after attempt).probes = history.probes := by
    rw [History.after, silent]
    exact List.append_nil _
  have rounds : (history.after attempt).rounds = history.rounds := by
    rw [History.after, silent]
    rfl
  have client : active (history.after attempt).client = active history.client := same
  refine ⟨fun moved => ?_, fun unanswered => ?_, ?_⟩
  · rw [probes, client]
    exact kept.answered (client ▸ moved)
  · rw [client]
    exact kept.restored (probes ▸ unanswered)
  · rw [rounds]
    exact kept.once

/-- The first probe round keeps the identity exactly when it ends at an identity that the cloud has
answered, or at the first one. -/
theorem kept_after_round {history : History κ} (unprobed : history.probes = [])
    (first : history.rounds = 0) {attempt : Attempt κ ρ} {calls : List (Identity × Verdict)}
    (round : attempt.round = some calls) :
    Kept active (history.after attempt) ↔
      (active attempt.client, Verdict.accepted) ∈ calls ∨
        active attempt.client = history.start := by
  have probes : (history.after attempt).probes = calls := by
    rw [History.after, unprobed, round]
    rfl
  have rounds : (history.after attempt).rounds = 1 := by
    rw [History.after, first, round]
    rfl
  constructor
  · intro kept
    by_cases same : active attempt.client = history.start
    · exact Or.inr same
    · left
      rw [← probes]
      exact kept.answered same
  · intro ends
    refine ⟨fun moved => ?_, fun unanswered => ?_, Nat.le_of_eq rounds⟩
    · rw [probes]
      exact ends.resolve_right moved
    · rw [probes] at unanswered
      exact ends.resolve_left fun member => unanswered _ member rfl

/-! ## Probe rounds -/

/-- The calls of a probe round: one identity after the other, until a call is not refused. -/
def calls (verdicts : ℕ → Verdict) : List Identity → ℕ → List (Identity × Verdict)
  | [], _ => []
  | identity :: identities, call =>
      (identity, verdicts call) ::
        if verdicts call = .refused then calls verdicts identities (call + 1) else []

/-- A round that has called the cloud ends with an answer, or with a given identity. -/
def Lands (start : Identity) (calls : List (Identity × Verdict)) : Prop :=
  ∀ last, calls.getLast? = some last → last.2 = .accepted ∨ last.1 = start

/-- The identity of the last call, or the one before the round. -/
def lastTried (start : Identity) (calls : List (Identity × Verdict)) : Identity :=
  (calls.getLast?.map Prod.fst).getD start

theorem lastTried_cons (start : Identity) (probe : Identity × Verdict)
    (probes : List (Identity × Verdict)) :
    lastTried start (probe :: probes) = lastTried probe.1 probes := by
  rw [lastTried, lastTried, List.getLast?_cons]
  cases probes.getLast? with
  | none => rfl
  | some last => rfl

/-- An answer ends the round. -/
theorem getLast?_of_accepted {verdicts : ℕ → Verdict} {identities : List Identity} {call : ℕ}
    {probe : Identity × Verdict} (member : probe ∈ calls verdicts identities call)
    (accepted : probe.2 = .accepted) : (calls verdicts identities call).getLast? = some probe := by
  induction identities generalizing call with
  | nil => exact absurd member List.not_mem_nil
  | cons identity identities induction =>
      rw [calls] at member ⊢
      by_cases refused : verdicts call = .refused
      · rw [if_pos refused] at member ⊢
        rcases List.mem_cons.mp member with rfl | later
        · rw [refused] at accepted
          cases accepted
        · rw [List.getLast?_cons, induction later]
          rfl
      · rw [if_neg refused] at member ⊢
        rw [List.mem_singleton.mp member]
        rfl

/-- A round that goes on to the identity of its last call lands exactly when that identity is one
that the cloud has answered, or the one before the round. -/
theorem lands_iff {verdicts : ℕ → Verdict} {identities : List Identity} {call : ℕ}
    {start : Identity} :
    Lands start (calls verdicts identities call) ↔
      (lastTried start (calls verdicts identities call), Verdict.accepted) ∈
          calls verdicts identities call ∨
        lastTried start (calls verdicts identities call) = start := by
  cases ended : (calls verdicts identities call).getLast? with
  | none =>
      have stays : lastTried start (calls verdicts identities call) = start := by
        rw [lastTried, ended]
        rfl
      refine ⟨fun _ => Or.inr stays, fun _ last some => ?_⟩
      rw [ended] at some
      cases some
  | some probe =>
      have goes : lastTried start (calls verdicts identities call) = probe.1 := by
        rw [lastTried, ended]
        rfl
      rw [goes]
      constructor
      · intro lands
        rcases lands probe ended with accepted | returned
        · left
          rw [← accepted]
          exact List.mem_of_getLast? ended
        · exact Or.inr returned
      · intro kept last reached
        cases ended.symm.trans reached
        rcases kept with member | returned
        · have same := getLast?_of_accepted member rfl
          left
          exact congrArg Prod.snd (Option.some.inj (ended.symm.trans same))
        · exact Or.inr returned

/-! ## Runs -/

/-- A client that remembers whether it has probed, and probes only when it has not. -/
structure Remembers (active : κ → Identity) (probed : κ → Bool)
    (request : κ → (ℕ → α) → Attempt κ ρ) : Prop where
  /-- A request without a probe round changes neither the identity nor the memory. -/
  silent : ∀ {client answers}, (request client answers).round = none →
    active (request client answers).client = active client ∧
      probed (request client answers).client = probed client
  /-- A probe round is remembered, and is the first one. -/
  round : ∀ {client answers calls}, (request client answers).round = some calls →
    probed client = false ∧ probed (request client answers).client = true

/-- The identity is kept, and a client that has not probed is as it was. -/
structure Accounted (active : κ → Identity) (probed : κ → Bool) (history : History κ) : Prop where
  kept : Kept active history
  unprobed : probed history.client = false →
    history.probes = [] ∧ history.rounds = 0 ∧ active history.client = history.start

/-- When every probe round of a run ends at an identity that the cloud has answered, or at the one
that it began with, the identity is kept. -/
theorem kept_of_run {probed : κ → Bool} {request : κ → (ℕ → α) → Attempt κ ρ}
    (remembers : Remembers active probed request) {new : κ → Prop}
    {good : History κ → (ℕ → α) → Prop}
    (ends : ∀ history answers calls, good history answers →
      (request history.client answers).round = some calls →
      (active (request history.client answers).client, Verdict.accepted) ∈ calls ∨
        active (request history.client answers).client = active history.client)
    {labels : List (ℕ → α)} {history : History κ}
    (run : (machine new active request).Run good labels history) : Kept active history := by
  have begins : ∀ history, (machine new active request).initial history →
      Accounted active probed history := by
    rintro _ ⟨client, -, rfl⟩
    exact ⟨kept_new client, fun _ => ⟨rfl, rfl, rfl⟩⟩
  refine (run.invariant begins ?_).kept
  rintro history answers _ accounted meets rfl
  cases round : (request history.client answers).round with
  | none =>
      obtain ⟨same, memory⟩ := remembers.silent round
      refine ⟨accounted.kept.after_silent round same, fun blank => ?_⟩
      obtain ⟨probes, rounds, started⟩ := accounted.unprobed (memory.symm.trans blank)
      refine ⟨?_, ?_, same.trans started⟩
      · rw [History.after, probes, round]
        rfl
      · rw [History.after, rounds, round]
        rfl
  | some calls =>
      obtain ⟨blank, memory⟩ := remembers.round round
      obtain ⟨probes, rounds, started⟩ := accounted.unprobed blank
      refine ⟨(kept_after_round probes rounds round).mpr ?_, fun unset => ?_⟩
      · rw [← started]
        exact ends history answers calls meets round
      · exact absurd (memory.symm.trans unset) (by decide)

end Signing
end AqaraLanLink
