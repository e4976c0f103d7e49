import AqaraLanLink.Library.Runs
import Mathlib.Data.List.Basic
import Mathlib.Order.Nat

/-!
# Subscriptions across sessions

`_rearm_subscriptions` with its triggers as a labelled transition system: a pass makes one cloud call
for each batch of wire paths of each target, and a trigger that finds a pass in flight returns. The
setup makes the same calls as it builds the devices, and only then wires the triggers.
-/

namespace AqaraLanLink
namespace Reference
namespace Resubscription

open Library

/-! ## The machine -/

/-- `_TRAIT_READ_BATCH_SIZE`. -/
def traitReadBatchSize : ℕ := 16

/-- A member of `subscription_targets`: a device of a subentry, not the one of the hub itself. -/
structure Target where
  /-- Its device id. -/
  did : String
  /-- The wire paths of its merged traits, sorted and without repetition. -/
  paths : List String
  deriving DecidableEq, Repr

/-- A subscribe call: the device id and the wire paths of a batch. -/
abbrev Call := String × List String

/-- The calls that `_subscribe_and_seed_traits` makes for a target. -/
def Target.calls (target : Target) : List Call :=
  (target.paths.toChunks traitReadBatchSize).map fun batch => (target.did, batch)

/-- A pass that waits for the answer to a call. -/
structure Pass where
  /-- The session in which it began. -/
  session : ℕ
  /-- The calls that it has still to make. -/
  rest : List Call
  deriving DecidableEq, Repr

/-- The part of the runtime data that the passes use, and the history of the current session. -/
structure Runtime where
  /-- `cloud_token`. -/
  token : String
  /-- `subscription_targets`. -/
  targets : List Target
  /-- The calls for the targets that the setup has still to issue; none once it has wired the
  callbacks. -/
  setup : Option (List Call)
  /-- The session-ups so far. -/
  session : ℕ
  /-- The triggers whose task has not run. -/
  triggers : ℕ
  /-- The pass in flight; `rearm_in_flight` is whether there is one. -/
  pass : Option Pass
  /-- The calls issued since the last session-up. -/
  issued : List Call
  /-- Whether the cloud has rejected the token since the last session-up. -/
  rejected : Bool

/-- What happens to the subscriptions. -/
inductive Label where
  /-- The coordinator has a new session; `_on_session_up`, once wired, creates a task. -/
  | sessionUp
  /-- The setup, which has waited for a session, issues its next call. -/
  | setupCalls
  /-- The cloud rejects the token at a call of the setup. -/
  | setupRejected
  /-- The setup has built the devices and wires the callbacks. -/
  | wired
  /-- Topology growth or the watchdog triggers a pass. -/
  | triggered
  /-- The task of a trigger runs. -/
  | triggerRuns
  /-- The call in flight returns or fails. -/
  | callEnded
  /-- The cloud rejects the token. -/
  | tokenRejected
  /-- Something else ends the pass with an exception. -/
  | passRaises
  deriving DecidableEq, Repr

/-- The calls of a pass, in order. -/
def Runtime.calls (runtime : Runtime) : List Call := runtime.targets.flatMap Target.calls

/-- A pass issues its next call, or ends. -/
def Runtime.continuePass (runtime : Runtime) (session : ℕ) : List Call → Runtime
  | [] => { runtime with pass := none }
  | call :: rest =>
      { runtime with
        pass := some ⟨session, rest⟩
        issued := call :: runtime.issued }

/-- When a label is possible. -/
def Possible (runtime : Runtime) : Label → Prop
  | .sessionUp => True
  | .setupCalls => 0 < runtime.session ∧ ∃ call rest, runtime.setup = some (call :: rest)
  | .setupRejected => 0 < runtime.session ∧ runtime.setup ≠ none
  | .wired => 0 < runtime.session ∧ runtime.setup = some []
  | .triggered => runtime.setup = none
  | .triggerRuns => 0 < runtime.triggers
  | .callEnded => runtime.pass ≠ none
  | .tokenRejected => runtime.pass ≠ none
  | .passRaises => runtime.pass ≠ none

/-- What a label does. -/
def perform (runtime : Runtime) : Label → Runtime
  | .sessionUp =>
      { runtime with
        session := runtime.session + 1
        triggers := if runtime.setup.isNone then runtime.triggers + 1 else runtime.triggers
        issued := []
        rejected := false }
  | .setupCalls =>
      match runtime.setup with
      | some (call :: rest) =>
          { runtime with setup := some rest, issued := call :: runtime.issued }
      | _ => runtime
  -- The devices that are left are skipped, as in a pass.
  | .setupRejected => { runtime with setup := some [], rejected := true }
  | .wired => { runtime with setup := none }
  | .triggered => { runtime with triggers := runtime.triggers + 1 }
  | .triggerRuns =>
      let runtime := { runtime with triggers := runtime.triggers - 1 }
      if runtime.token = "" then runtime else
      match runtime.pass with
      | some _ => runtime
      | none => runtime.continuePass runtime.session runtime.calls
  | .callEnded =>
      match runtime.pass with
      | some pass => runtime.continuePass pass.session pass.rest
      | none => runtime
  -- The devices that are left are skipped without an `await`.
  | .tokenRejected => { runtime with pass := none, rejected := true }
  | .passRaises => { runtime with pass := none }

/-- The subscriptions from the start of the coordinator, before its first session. -/
def machine : Machine Runtime Label where
  initial runtime := runtime.setup = some runtime.calls ∧ runtime.session = 0 ∧
    runtime.triggers = 0 ∧ runtime.pass = none ∧ runtime.issued = [] ∧ runtime.rejected = false
  step runtime label next := Possible runtime label ∧ next = perform runtime label

/-! ## What the triggers promise -/

/-- Once the setup has issued its calls, no trigger waits and no pass is in flight, every call has
been issued since the last session-up, unless the cloud has rejected the token. -/
def Rearmed (runtime : Runtime) : Prop :=
  0 < runtime.session → (∀ rest, runtime.setup = some rest → rest = []) → runtime.triggers = 0 →
    runtime.pass = none → runtime.rejected = false → ∀ call ∈ runtime.calls, call ∈ runtime.issued

/-- A session that comes up before the callbacks are wired has every call of the setup before it. A
trigger that finds a pass in flight is not the last one, or the pass has begun in the current session;
and only a pass that something will make up for ends with an exception. -/
def Covered (runtime : Runtime) : Label → Prop
  | .sessionUp => ∀ rest, runtime.setup = some rest → ∀ call ∈ runtime.calls, call ∈ rest
  | .triggerRuns => runtime.token ≠ "" ∧ ∀ pass, runtime.pass = some pass →
      pass.session = runtime.session ∨ 1 < runtime.triggers
  | .passRaises => 0 < runtime.triggers ∨ ∀ call ∈ runtime.calls, call ∈ runtime.issued
  | _ => True

/-! ## What a run preserves -/

/-- Every call has been issued in the current session, but for some that are left. -/
def Runtime.IssuedBut (runtime : Runtime) (rest : List Call) : Prop :=
  ∀ call ∈ runtime.calls, call ∈ runtime.issued ∨ call ∈ rest

/-- What holds in every state of a covered run. -/
structure Invariant (runtime : Runtime) : Prop where
  /-- A pass has begun in a session that there has been. -/
  known : ∀ pass, runtime.pass = some pass → pass.session ≤ runtime.session
  /-- A pass that has begun in the current session makes every call in it. -/
  complete : ∀ pass, runtime.pass = some pass → pass.session = runtime.session →
    runtime.IssuedBut pass.rest
  /-- Something is still to cover the current session, or has covered it. -/
  covered : 0 < runtime.session → runtime.rejected = false →
    0 < runtime.triggers ∨ (∃ pass, runtime.pass = some pass ∧ pass.session = runtime.session) ∨
      (∃ rest, runtime.setup = some rest ∧ runtime.IssuedBut rest) ∨ runtime.IssuedBut []

theorem Invariant.rearmed {runtime : Runtime} (invariant : Invariant runtime) : Rearmed runtime := by
  intro up set idle settled accepted call member
  rcases invariant.covered up accepted with waits | ⟨pass, inFlight, -⟩ | ⟨rest, left, but⟩ | all
  · omega
  · exact nomatch settled.symm.trans inFlight
  · rw [set rest left] at but
    exact (but call member).resolve_right List.not_mem_nil
  · exact (all call member).resolve_right List.not_mem_nil

variable {runtime : Runtime}

/-- A call that is issued adds to those issued. -/
theorem Runtime.IssuedBut.issue {rest : List Call} (but : runtime.IssuedBut rest) (call : Call)
    {pass : Option Pass} {setup : Option (List Call)} :
    Runtime.IssuedBut { runtime with setup, pass, issued := call :: runtime.issued } rest := by
  intro other member
  exact (but other member).imp_left (List.mem_cons_of_mem call)

/-- The next call of those that are left is issued. -/
theorem Runtime.IssuedBut.issueNext {call : Call} {rest : List Call}
    (but : runtime.IssuedBut (call :: rest)) {pass : Option Pass} {setup : Option (List Call)} :
    Runtime.IssuedBut { runtime with setup, pass, issued := call :: runtime.issued } rest := by
  intro other member
  rcases but other member with issued | left
  · exact Or.inl (List.mem_cons_of_mem call issued)
  · rcases List.mem_cons.mp left with rfl | left
    · exact Or.inl List.mem_cons_self
    · exact Or.inr left

/-- A pass that continues in the current session covers it. -/
theorem Invariant.continuePass {rest : List Call}
    (complete : runtime.IssuedBut rest) :
    Invariant (runtime.continuePass runtime.session rest) := by
  cases rest with
  | nil => exact ⟨nofun, nofun, fun _ _ => Or.inr (Or.inr (Or.inr complete))⟩
  | cons call rest =>
      refine ⟨?_, ?_, fun _ _ => Or.inr (Or.inl ⟨⟨runtime.session, rest⟩, rfl, rfl⟩)⟩
      · rintro pass ⟨⟩
        exact le_rfl
      · rintro pass ⟨⟩ -
        exact complete.issueNext

/-- A pass of an earlier session continues, and something else covers the current one. -/
theorem Invariant.continueStale (invariant : Invariant runtime) {session : ℕ}
    (stale : session ≠ runtime.session)
    (inFlight : ∃ rest, runtime.pass = some ⟨session, rest⟩) (rest : List Call) :
    Invariant (runtime.continuePass session rest) := by
  obtain ⟨before, inFlight⟩ := inFlight
  have covered : 0 < runtime.session → runtime.rejected = false → 0 < runtime.triggers ∨
      (∃ rest, runtime.setup = some rest ∧ runtime.IssuedBut rest) ∨ runtime.IssuedBut [] := by
    intro up accepted
    rcases invariant.covered up accepted with waits | ⟨pass, same, current⟩ | rest
    · exact Or.inl waits
    · rw [inFlight] at same
      cases same
      exact absurd current stale
    · exact Or.inr rest
  cases rest with
  | nil =>
      refine ⟨nofun, nofun, fun up accepted => ?_⟩
      rcases covered up accepted with waits | rest
      · exact Or.inl waits
      · exact Or.inr (Or.inr rest)
  | cons call rest =>
      refine ⟨?_, ?_, fun up accepted => ?_⟩
      · rintro pass ⟨⟩
        have known := invariant.known _ inFlight
        exact known
      · rintro pass ⟨⟩ current
        exact absurd current stale
      · rcases covered up accepted with waits | ⟨left, setup, but⟩ | all
        · exact Or.inl waits
        · exact Or.inr (Or.inr (Or.inl ⟨left, setup, but.issue call⟩))
        · exact Or.inr (Or.inr (Or.inr (all.issue call)))

/-- A trigger that finds a pass in flight is swallowed. -/
theorem Invariant.swallow (invariant : Invariant runtime) {pass : Pass}
    (inFlight : runtime.pass = some pass)
    (covered : pass.session = runtime.session ∨ 1 < runtime.triggers) :
    Invariant { runtime with triggers := runtime.triggers - 1 } where
  known := invariant.known
  complete := invariant.complete
  covered up accepted := by
    rcases covered with current | more
    · exact Or.inr (Or.inl ⟨pass, inFlight, current⟩)
    · exact Or.inl (Nat.sub_pos_of_lt more)

/-- A pass that ends early leaves another trigger behind, or nothing to do. -/
theorem Invariant.drop (rejected : Bool)
    (covered : rejected = false →
      0 < runtime.triggers ∨ ∀ call ∈ runtime.calls, call ∈ runtime.issued) :
    Invariant { runtime with pass := none, rejected } where
  known := nofun
  complete := nofun
  covered _ accepted := by
    rcases covered accepted with waits | all
    · exact Or.inl waits
    · exact Or.inr (Or.inr (Or.inr fun call member => Or.inl (all call member)))

/-- A call of the setup adds to those issued, and it is one of those left. -/
theorem Invariant.setupCalls (invariant : Invariant runtime) {call : Call} {rest : List Call}
    (left : runtime.setup = some (call :: rest)) :
    Invariant { runtime with setup := some rest, issued := call :: runtime.issued } where
  known := invariant.known
  complete pass inFlight current := (invariant.complete pass inFlight current).issue call
  covered up accepted := by
    rcases invariant.covered up accepted with waits | pass | ⟨before, same, but⟩ | all
    · exact Or.inl waits
    · exact Or.inr (Or.inl pass)
    · rw [left] at same
      cases same
      exact Or.inr (Or.inr (Or.inl ⟨rest, rfl, but.issueNext⟩))
    · exact Or.inr (Or.inr (Or.inr (all.issue call)))

/-- The setup leaves no call behind when it wires the callbacks. -/
theorem Invariant.wired (invariant : Invariant runtime) (left : runtime.setup = some []) :
    Invariant { runtime with setup := none } where
  known := invariant.known
  complete := invariant.complete
  covered up accepted := by
    rcases invariant.covered up accepted with waits | pass | ⟨rest, same, but⟩ | all
    · exact Or.inl waits
    · exact Or.inr (Or.inl pass)
    · rw [left] at same
      cases same
      exact Or.inr (Or.inr (Or.inr but))
    · exact Or.inr (Or.inr (Or.inr all))

/-- A covered label keeps the invariant. -/
theorem Invariant.perform (invariant : Invariant runtime) {label : Label}
    (possible : Possible runtime label) (covered : Covered runtime label) :
    Invariant (perform runtime label) := by
  cases label with
  | sessionUp =>
      refine ⟨fun pass inFlight => (invariant.known pass inFlight).trans (Nat.le_succ _),
        fun pass inFlight current => ?_, fun _ _ => ?_⟩
      · have := invariant.known pass inFlight
        simp only [Resubscription.perform] at current
        omega
      · cases setup : runtime.setup with
        | none => exact Or.inl (by simp [Resubscription.perform, setup])
        | some rest =>
            have all := covered rest setup
            exact Or.inr (Or.inr (Or.inl ⟨rest, setup, fun call member => Or.inr (all call member)⟩))
  | setupCalls =>
      obtain ⟨-, call, rest, left⟩ := possible
      simp only [Resubscription.perform, left]
      exact invariant.setupCalls left
  | setupRejected => exact ⟨invariant.known, invariant.complete, nofun⟩
  | wired => exact invariant.wired possible.2
  | triggered =>
      exact ⟨invariant.known, invariant.complete, fun _ _ => Or.inl (Nat.succ_pos _)⟩
  | triggerRuns =>
      obtain ⟨stored, covered⟩ := covered
      cases inFlight : runtime.pass with
      | some pass =>
          have swallowed := invariant.swallow inFlight (covered pass inFlight)
          simpa only [Resubscription.perform, if_neg stored, inFlight] using swallowed
      | none =>
          simp only [Resubscription.perform, if_neg stored, inFlight]
          exact Invariant.continuePass fun call member => Or.inr member
  | callEnded =>
      rw [Resubscription.perform]
      cases inFlight : runtime.pass with
      | none => exact absurd inFlight possible
      | some pass =>
          by_cases current : pass.session = runtime.session
          · simp only [current]
            exact Invariant.continuePass (invariant.complete pass inFlight current)
          · exact invariant.continueStale current ⟨pass.rest, inFlight⟩ pass.rest
  | tokenRejected => exact Invariant.drop true nofun
  | passRaises => exact Invariant.drop runtime.rejected fun _ => covered

/-- In every covered run, a settled session has had every call since its session-up. -/
theorem sessions_rearmed {labels : List Label} {runtime : Runtime}
    (run : machine.Run Covered labels runtime) : Rearmed runtime := by
  refine Invariant.rearmed (run.invariant ?_ ?_)
  · rintro runtime ⟨-, session, -, pass, -, -⟩
    have idle : ∀ other, runtime.pass ≠ some other := by simp [pass]
    refine ⟨fun other inFlight => absurd inFlight (idle other),
      fun other inFlight => absurd inFlight (idle other), fun up => ?_⟩
    omega
  · rintro runtime label next invariant covered ⟨possible, rfl⟩
    exact invariant.perform possible covered

/-- Two targets with one wire path each, before the first session. -/
def started : Runtime :=
  ⟨"token", [⟨"lumi.lamp", ["2.132.32920"]⟩, ⟨"lumi.plug", ["4.1.85"]⟩],
    some [("lumi.lamp", ["2.132.32920"]), ("lumi.plug", ["4.1.85"])], 0, 0, none, [], false⟩

theorem run_started (good : Runtime → Label → Prop) : machine.Run good [] started :=
  .start ⟨rfl, rfl, rfl, rfl, rfl, rfl⟩

/-- The setup makes both calls in the first session, and a pass makes them in the second. -/
theorem sessions_rearmed_started :
    ∃ runtime, runtime.session = 2 ∧ runtime.setup = none ∧ runtime.pass = none ∧
      Rearmed runtime := by
  have run := (run_started Covered)
    |>.extend .sessionUp (by rintro rest ⟨⟩; exact fun call member => member) ⟨trivial, rfl⟩
    |>.extend .setupCalls trivial ⟨⟨Nat.one_pos, _, _, rfl⟩, rfl⟩
    |>.extend .setupCalls trivial ⟨⟨Nat.one_pos, _, _, rfl⟩, rfl⟩
    |>.extend .wired trivial ⟨⟨Nat.one_pos, rfl⟩, rfl⟩
    |>.extend .sessionUp nofun ⟨trivial, rfl⟩
    |>.extend .triggerRuns ⟨by decide, nofun⟩ ⟨Nat.one_pos, rfl⟩
    |>.extend .callEnded trivial ⟨nofun, rfl⟩
    |>.extend .callEnded trivial ⟨nofun, rfl⟩
  exact ⟨_, rfl, rfl, rfl, sessions_rearmed run⟩

/-- A session comes up while the pass of the one before is at its second target. -/
theorem swallowed_trigger_leaves_target :
    ∃ labels runtime, machine.Run (fun _ _ => True) labels runtime ∧ ¬ Rearmed runtime := by
  refine ⟨_, _, (run_started fun _ _ => True)
    |>.extend .sessionUp trivial ⟨trivial, rfl⟩
    |>.extend .setupCalls trivial ⟨⟨Nat.one_pos, _, _, rfl⟩, rfl⟩
    |>.extend .setupCalls trivial ⟨⟨Nat.one_pos, _, _, rfl⟩, rfl⟩
    |>.extend .wired trivial ⟨⟨Nat.one_pos, rfl⟩, rfl⟩
    |>.extend .sessionUp trivial ⟨trivial, rfl⟩
    |>.extend .triggerRuns trivial ⟨Nat.one_pos, rfl⟩
    |>.extend .sessionUp trivial ⟨trivial, rfl⟩
    |>.extend .triggerRuns trivial ⟨Nat.one_pos, rfl⟩
    |>.extend .callEnded trivial ⟨nofun, rfl⟩
    |>.extend .callEnded trivial ⟨nofun, rfl⟩, fun rearmed => ?_⟩
  have issued := rearmed (Nat.succ_pos 2) nofun rfl rfl rfl ("lumi.lamp", ["2.132.32920"])
    List.mem_cons_self
  have only : ("lumi.lamp", ["2.132.32920"]) ∉ [("lumi.plug", ["4.1.85"])] := by decide
  exact only issued

end Resubscription
end Reference
end AqaraLanLink
