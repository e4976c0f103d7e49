import Mathlib.Data.List.Basic
import Mathlib.Data.List.Nodup
import Mathlib.Data.List.Perm.Basic

/-!
# Tickets that are settled once

A ledger of the tickets that have been issued, those that still wait, and those that have been
settled, in the order in which they were.  In a balanced ledger every issued ticket either waits or
has been settled, and only once.
-/

namespace Library

universe u

/-- The tickets of a run so far. -/
structure Ledger (ι : Type u) where
  /-- The tickets that have been issued. -/
  issued : List ι
  /-- The tickets that still wait. -/
  waiting : List ι
  /-- The tickets that have been settled, one entry for each settlement. -/
  settled : List ι

namespace Ledger

variable {ι : Type u} {ledger : Ledger ι} {issued waiting settled : List ι} {ticket : ι}

/-- Every issued ticket waits or has been settled, once. -/
structure Balanced (ledger : Ledger ι) : Prop where
  /-- No ticket is issued twice. -/
  nodup : ledger.issued.Nodup
  /-- The issued tickets are those that wait and those that have been settled. -/
  perm : ledger.issued.Perm (ledger.waiting ++ ledger.settled)

theorem balanced_nil : Balanced (⟨[], [], []⟩ : Ledger ι) :=
  ⟨List.nodup_nil, .nil⟩

/-- Issue a new ticket, which waits. -/
theorem Balanced.issue (balanced : Balanced ⟨issued, waiting, settled⟩) (fresh : ticket ∉ issued) :
    Balanced ⟨issued ++ [ticket], waiting ++ [ticket], settled⟩ := by
  refine ⟨?_, ?_⟩
  · rw [← List.concat_eq_append]
    exact balanced.nodup.concat fresh
  · have moved : (waiting ++ [ticket] ++ settled).Perm (waiting ++ settled ++ [ticket]) := by
      rw [List.append_assoc, List.append_assoc]
      exact List.perm_append_comm.append_left waiting
    exact (balanced.perm.append_right [ticket]).trans moved.symm

/-- A ticket that is issued and settled at once. -/
theorem Balanced.issueSettled (balanced : Balanced ⟨issued, waiting, settled⟩)
    (fresh : ticket ∉ issued) : Balanced ⟨issued ++ [ticket], waiting, settled ++ [ticket]⟩ := by
  refine ⟨(balanced.issue fresh).nodup, ?_⟩
  rw [← List.append_assoc]
  exact balanced.perm.append_right [ticket]

/-- Settle every ticket that waits. -/
theorem Balanced.settleAll (balanced : Balanced ⟨issued, waiting, settled⟩) :
    Balanced ⟨issued, [], settled ++ waiting⟩ :=
  ⟨balanced.nodup, balanced.perm.trans List.perm_append_comm⟩

theorem Balanced.waiting_nodup (balanced : Balanced ledger) : ledger.waiting.Nodup :=
  (List.nodup_append.mp (balanced.perm.nodup_iff.mp balanced.nodup)).1

variable [DecidableEq ι]

/-- Settle one ticket that waits. -/
theorem Balanced.settle (balanced : Balanced ⟨issued, waiting, settled⟩)
    (member : ticket ∈ waiting) :
    Balanced ⟨issued, waiting.filter fun other => other != ticket, settled ++ [ticket]⟩ := by
  refine ⟨balanced.nodup, balanced.perm.trans ?_⟩
  have distinct : waiting.Nodup := balanced.waiting_nodup
  have split : waiting.Perm (waiting.filter (fun other => other != ticket) ++ [ticket]) := by
    rw [← List.Nodup.erase_eq_filter distinct]
    exact (List.perm_cons_erase member).trans (List.perm_append_singleton ticket _).symm
  refine (split.append_right settled).trans ?_
  rw [List.append_assoc]
  exact List.perm_append_comm.append_left _

end Ledger
end Library
