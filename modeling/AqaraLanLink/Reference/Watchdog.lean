import AqaraLanLink.Library.Runs
import Mathlib.Algebra.Order.Ring.Rat
import Mathlib.Tactic.Linarith
import Mathlib.Tactic.NormNum

/-!
# The push watchdog

`_push_appears_stalled` and `_watchdog_tick` as a labelled transition system with a clock.  A tick
that re-arms waits for the pass, and other ticks, reports and changes of the connection come in
between.
-/

namespace AqaraLanLink
namespace Reference
namespace Watchdog

open Library

/-! ## The machine -/

/-- `PUSH_STALL_TTL_SECONDS`. -/
def pushStallTtlSeconds : ℚ := 300

/-- `STALL_REARM_REPAIR_THRESHOLD`. -/
def stallRearmRepairThreshold : ℕ := 3

/-- What a tick reads and writes, and the history of its re-arms. -/
structure Runtime where
  /-- The monotonic clock. -/
  now : ℚ
  /-- `connected` of the coordinator. -/
  connected : Bool
  /-- The number of device ids in the latest topology push. -/
  topologySize : ℕ
  /-- `_last_report_monotonic`. -/
  lastReport : ℚ
  /-- `watchdog_last_rearm`. -/
  watchdogLastRearm : ℚ
  /-- `stall_rearm_count`. -/
  stallRearmCount : ℕ
  /-- Whether the `push_stalled` issue is open. -/
  issue : Bool
  /-- The ticks that wait for their re-arm pass. -/
  waiting : ℕ
  /-- The times of the re-arms, the latest first. -/
  rearms : List ℚ
  /-- The re-arms since the last report. -/
  unanswered : ℕ
  /-- How many there had been when the issue was opened. -/
  unansweredAtOpen : ℕ
  /-- Whether a report has arrived since the issue was opened. -/
  heard : Bool
  /-- Whether an open issue has been deleted before a report had arrived. -/
  deletedUnheard : Bool

/-- What happens to the watchdog. -/
inductive Label where
  /-- Time passes. -/
  | clock (elapsed : ℚ)
  /-- A report arrives. -/
  | report
  /-- The session comes up or goes down. -/
  | connection (connected : Bool)
  /-- The hub pushes a topology with this many devices. -/
  | topology (size : ℕ)
  /-- A keepalive is acknowledged. -/
  | tick
  /-- The pass of a tick is over. -/
  | rearmed
  /-- The pass of a tick raises. -/
  | rearmRaises
  deriving DecidableEq, Repr

/-- `_push_appears_stalled` on what the tick reads. -/
def Runtime.pushAppearsStalled (runtime : Runtime) : Bool :=
  runtime.connected && decide (0 < runtime.topologySize) &&
    decide (pushStallTtlSeconds < runtime.now - runtime.lastReport)

/-- A tick that finds the pushes healthy. -/
def Runtime.recover (runtime : Runtime) : Runtime :=
  if runtime.stallRearmCount = 0 then runtime
  else
    { runtime with
      stallRearmCount := 0
      issue := false
      deletedUnheard := runtime.deletedUnheard || (runtime.issue && !runtime.heard) }

/-- A tick that re-arms, up to the pass. -/
def Runtime.rearm (runtime : Runtime) : Runtime :=
  { runtime with
    watchdogLastRearm := runtime.now
    stallRearmCount := runtime.stallRearmCount + 1
    waiting := runtime.waiting + 1
    rearms := runtime.now :: runtime.rearms
    unanswered := runtime.unanswered + 1 }

/-- `_watchdog_tick`, up to the pass. -/
def Runtime.tick (runtime : Runtime) : Runtime :=
  if !runtime.pushAppearsStalled then runtime.recover
  else if stallRearmRepairThreshold ≤ runtime.stallRearmCount then runtime
  else if runtime.now - runtime.watchdogLastRearm < pushStallTtlSeconds then runtime
  else runtime.rearm

/-- `_watchdog_tick` after the pass. -/
def Runtime.escalate (runtime : Runtime) : Runtime :=
  if stallRearmRepairThreshold ≤ runtime.stallRearmCount ∧ runtime.issue = false then
    { runtime with issue := true, unansweredAtOpen := runtime.unanswered, heard := false }
  else runtime

/-- When a label is possible. -/
def Possible (runtime : Runtime) : Label → Prop
  | .clock elapsed => 0 ≤ elapsed
  | .rearmed => 0 < runtime.waiting
  | .rearmRaises => 0 < runtime.waiting
  | _ => True

/-- What a label does. -/
def perform (runtime : Runtime) : Label → Runtime
  | .clock elapsed => { runtime with now := runtime.now + elapsed }
  | .report => { runtime with lastReport := runtime.now, unanswered := 0, heard := true }
  | .connection connected => { runtime with connected }
  | .topology size => { runtime with topologySize := size }
  | .tick => runtime.tick
  | .rearmed => Runtime.escalate { runtime with waiting := runtime.waiting - 1 }
  | .rearmRaises => { runtime with waiting := runtime.waiting - 1 }

/-- The watchdog from setup on. -/
def machine : Machine Runtime Label where
  initial runtime := runtime.watchdogLastRearm = 0 ∧ runtime.stallRearmCount = 0 ∧
    runtime.issue = false ∧ runtime.waiting = 0 ∧ runtime.rearms = [] ∧ runtime.unanswered = 0 ∧
    runtime.deletedUnheard = false
  step runtime label next := Possible runtime label ∧ next = perform runtime label

/-! ## What the watchdog promises -/

/-- The budget and the escalation of the watchdog. -/
structure Measured (runtime : Runtime) : Prop where
  /-- Two re-arms are at least the stall time apart. -/
  apart : runtime.rearms.Pairwise fun later earlier => earlier + pushStallTtlSeconds ≤ later
  /-- Between two reports there are no more re-arms than the threshold. -/
  budget : runtime.unanswered ≤ stallRearmRepairThreshold
  /-- The issue is open only after that many re-arms without a report. -/
  opened : runtime.issue = true → stallRearmRepairThreshold ≤ runtime.unansweredAtOpen
  /-- An open issue is deleted only after a report has arrived. -/
  deleted : runtime.deletedUnheard = false

/-- A tick finds the pushes healthy only with an unused budget or after a report that followed the
last re-arm, and a pass that ends with the budget used up has brought no report. -/
def Truthful (runtime : Runtime) : Label → Prop
  | .tick => runtime.pushAppearsStalled = false → runtime.stallRearmCount = 0 ∨ runtime.unanswered = 0
  | .rearmed => stallRearmRepairThreshold ≤ runtime.stallRearmCount → runtime.issue = true ∨
      stallRearmRepairThreshold ≤ runtime.unanswered
  | _ => True

/-! ## What a run preserves -/

/-- What holds in every state of a truthful run. -/
structure Invariant (runtime : Runtime) : Prop where
  apart : runtime.rearms.Pairwise fun later earlier => earlier + pushStallTtlSeconds ≤ later
  opened : runtime.issue = true → stallRearmRepairThreshold ≤ runtime.unansweredAtOpen
  deleted : runtime.deletedUnheard = false
  /-- The cooldown stamp is that of the last re-arm. -/
  stamped : ∀ time ∈ runtime.rearms, time ≤ runtime.watchdogLastRearm
  /-- The counter counts every re-arm since the last report. -/
  counted : runtime.unanswered ≤ runtime.stallRearmCount
  capped : runtime.stallRearmCount ≤ stallRearmRepairThreshold
  /-- An issue that no report has followed was opened with the budget used up. -/
  unheard : runtime.issue = true → runtime.heard = false →
    stallRearmRepairThreshold ≤ runtime.unanswered

variable {runtime : Runtime}

theorem Invariant.measured (invariant : Invariant runtime) : Measured runtime where
  apart := invariant.apart
  budget := invariant.counted.trans invariant.capped
  opened := invariant.opened
  deleted := invariant.deleted

theorem Invariant.recover (invariant : Invariant runtime)
    (truthful : runtime.stallRearmCount = 0 ∨ runtime.unanswered = 0) :
    Invariant runtime.recover := by
  rw [Runtime.recover]
  split
  · exact invariant
  · rename_i used
    have answered := truthful.resolve_left used
    refine ⟨invariant.apart, nofun, ?_, invariant.stamped, answered.le, Nat.zero_le _, nofun⟩
    cases isOpen : runtime.issue with
    | false => simp [invariant.deleted]
    | true =>
        cases heard : runtime.heard with
        | true => simp [invariant.deleted]
        | false =>
            have many := invariant.unheard isOpen heard
            rw [answered, stallRearmRepairThreshold] at many
            omega

theorem Invariant.rearm (invariant : Invariant runtime)
    (left : runtime.stallRearmCount < stallRearmRepairThreshold)
    (cooled : pushStallTtlSeconds ≤ runtime.now - runtime.watchdogLastRearm) :
    Invariant runtime.rearm := by
  have earlier : ∀ time ∈ runtime.rearms, time + pushStallTtlSeconds ≤ runtime.now := by
    intro time member
    have := invariant.stamped time member
    linarith
  refine ⟨List.pairwise_cons.mpr ⟨earlier, invariant.apart⟩, invariant.opened, invariant.deleted,
    ?_, Nat.succ_le_succ invariant.counted, left, fun isOpen heard => ?_⟩
  · intro time member
    rcases List.mem_cons.mp member with rfl | member
    · exact le_rfl
    · have := earlier time member
      rw [pushStallTtlSeconds] at this
      simp only [Runtime.rearm]
      linarith
  · exact (invariant.unheard isOpen heard).trans (Nat.le_succ _)

theorem Invariant.tick (invariant : Invariant runtime) (truthful : Truthful runtime .tick) :
    Invariant runtime.tick := by
  rw [Runtime.tick]
  split
  · rename_i healthy
    exact invariant.recover (truthful (by simpa using healthy))
  · split
    · exact invariant
    · rename_i left
      split
      · exact invariant
      · rename_i cooled
        exact invariant.rearm (Nat.lt_of_not_le left) (not_lt.mp cooled)

theorem Invariant.rearmed (invariant : Invariant runtime) (truthful : Truthful runtime .rearmed) :
    Invariant (perform runtime .rearmed) := by
  rw [perform, Runtime.escalate]
  split
  · rename_i escalates
    have many : stallRearmRepairThreshold ≤ runtime.unanswered := by
      refine (truthful escalates.1).resolve_left fun isOpen => ?_
      exact nomatch isOpen.symm.trans escalates.2
    exact ⟨invariant.apart, fun _ => many, invariant.deleted, invariant.stamped, invariant.counted,
      invariant.capped, fun _ _ => many⟩
  · exact ⟨invariant.apart, invariant.opened, invariant.deleted, invariant.stamped,
      invariant.counted, invariant.capped, invariant.unheard⟩

/-- A truthful label keeps the invariant. -/
theorem Invariant.perform (invariant : Invariant runtime) {label : Label}
    (truthful : Truthful runtime label) : Invariant (perform runtime label) := by
  cases label with
  | report =>
      exact ⟨invariant.apart, invariant.opened, invariant.deleted, invariant.stamped,
        Nat.zero_le _, invariant.capped, fun _ => nofun⟩
  | tick => exact invariant.tick truthful
  | rearmed => exact invariant.rearmed truthful
  | clock _ | connection _ | topology _ | rearmRaises =>
      exact ⟨invariant.apart, invariant.opened, invariant.deleted, invariant.stamped,
        invariant.counted, invariant.capped, invariant.unheard⟩

/-- In every truthful run the watchdog keeps to its budget and its escalation. -/
theorem watchdog_measured {labels : List Label} {runtime : Runtime}
    (run : machine.Run Truthful labels runtime) : Measured runtime := by
  refine Invariant.measured (run.invariant ?_ ?_)
  · rintro runtime ⟨-, count, issue, -, rearms, unanswered, deleted⟩
    have shut : runtime.issue ≠ true := by simp [issue]
    refine ⟨by simp [rearms], fun isOpen => absurd isOpen shut, deleted, by simp [rearms],
      by simp [unanswered], by simp [count], fun isOpen => absurd isOpen shut⟩
  · rintro runtime label next invariant truthful ⟨-, rfl⟩
    exact invariant.perform truthful

/-- The watchdog at setup. -/
def atSetup : Runtime := ⟨1000, false, 0, 1000, 0, 0, false, 0, [], 0, 0, false, false⟩

theorem run_atSetup (good : Runtime → Label → Prop) : machine.Run good [] atSetup :=
  .start ⟨rfl, rfl, rfl, rfl, rfl, rfl, rfl⟩

/-- A report follows the first re-arm. -/
theorem watchdog_measured_recovery :
    ∃ runtime, runtime.rearms = [1301] ∧ runtime.stallRearmCount = 0 ∧ Measured runtime := by
  have run := (run_atSetup Truthful)
    |>.extend (.connection true) trivial ⟨trivial, rfl⟩
    |>.extend (.topology 4) trivial ⟨trivial, rfl⟩
    |>.extend (.clock 301) trivial ⟨by norm_num [Possible], rfl⟩
    |>.extend .tick (fun _ => Or.inl rfl) ⟨trivial, rfl⟩
    |>.extend .report trivial ⟨trivial, rfl⟩
    |>.extend .tick (fun _ => Or.inr rfl) ⟨trivial, rfl⟩
  refine ⟨_, ?_, ?_, watchdog_measured run⟩
  · decide +kernel
  · decide +kernel

/-- A dropped connection restores the budget, and the watchdog re-arms a fourth time. -/
theorem fourth_rearm_unanswered :
    ∃ labels runtime, machine.Run (fun _ _ => True) labels runtime ∧ ¬ Measured runtime := by
  have run := (run_atSetup fun _ _ => True)
    |>.extend (.connection true) trivial ⟨trivial, rfl⟩
    |>.extend (.topology 4) trivial ⟨trivial, rfl⟩
    |>.extend (.clock 301) trivial ⟨by norm_num [Possible], rfl⟩
    |>.extend .tick trivial ⟨trivial, rfl⟩
    |>.extend (.connection false) trivial ⟨trivial, rfl⟩
    |>.extend .tick trivial ⟨trivial, rfl⟩
    |>.extend (.connection true) trivial ⟨trivial, rfl⟩
    |>.extend (.clock 300) trivial ⟨by norm_num [Possible], rfl⟩
    |>.extend .tick trivial ⟨trivial, rfl⟩
    |>.extend (.clock 300) trivial ⟨by norm_num [Possible], rfl⟩
    |>.extend .tick trivial ⟨trivial, rfl⟩
    |>.extend (.clock 300) trivial ⟨by norm_num [Possible], rfl⟩
    |>.extend .tick trivial ⟨trivial, rfl⟩
  refine ⟨_, _, run, fun measured => absurd measured.budget ?_⟩
  decide +kernel

end Watchdog
end Reference
end AqaraLanLink
