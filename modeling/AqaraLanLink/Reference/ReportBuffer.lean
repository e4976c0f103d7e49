import AqaraLanLink.Library.Dictionary
import AqaraLanLink.Library.Runs
import AqaraLanLink.Reference.Delivery
import Mathlib.Data.List.DropRight

/-!
# Report handlers, and reports without one

`register_report_handler` and `_dispatch_report` of the hub coordinator, over whole runs.  Handlers
are called one after the other; each may raise, and while it runs, anyone may be unregistered.
-/

namespace AqaraLanLink
namespace Reference
namespace ReportBuffer

open Library

/-- A report, with whatever else it carries. -/
structure Report (V : Type) where
  did : String
  sdid : String
  values : V
  deriving DecidableEq, Repr

variable {H V : Type}

/-- `report.sdid or report.did`. -/
def Report.key (report : Report V) : String :=
  if report.sdid = "" then report.did else report.sdid

/-! ## The coordinator -/

/-- The part of a coordinator that delivers reports, in the middle of a loop over handlers. -/
structure Coordinator (H V : Type) where
  /-- `_report_handlers`. -/
  reportHandlers : Dictionary String (List H)
  /-- `_pending_reports`. -/
  pendingReports : Dictionary String (List (Report V))
  /-- The device ids and handlers of the `_unregister` callables, oldest first. -/
  callables : List (String × H)
  /-- The calls that the loop has still to make. -/
  loop : List (H × Report V)
  /-- The calls that have been made, in order. -/
  called : List (H × Report V)

namespace Coordinator

/-- `append` of a `deque` with `maxlen=_REPORT_BUFFER_MAXLEN`. -/
def append (buf : List (Report V)) (report : Report V) : List (Report V) :=
  (buf ++ [report]).drop ((buf ++ [report]).length - reportBufferMaxlen)

/-- `_buffer_report`. -/
def bufferReport (coordinator : Coordinator H V) (did : String) (report : Report V) :
    Coordinator H V :=
  match coordinator.pendingReports.get? did with
  | some buf =>
      { coordinator with
        pendingReports := coordinator.pendingReports.set did (append buf report) }
  | none =>
      if coordinator.pendingReports.entries.length ≥ reportBufferMaxDids then coordinator
      else
        { coordinator with
          pendingReports := coordinator.pendingReports.set did (append [] report) }

/-- `_report_handlers.get(did)`, with an empty list for none. -/
def handlers (coordinator : Coordinator H V) (did : String) : List H :=
  (coordinator.reportHandlers.get? did).getD []

/-- `_pending_reports.get(did)`, with an empty buffer for none. -/
def buffered (coordinator : Coordinator H V) (did : String) : List (Report V) :=
  (coordinator.pendingReports.get? did).getD []

/-- `_dispatch_report`, up to its loop. -/
def dispatchReport (coordinator : Coordinator H V) (report : Report V) : Coordinator H V :=
  if coordinator.handlers report.key = [] then coordinator.bufferReport report.key report
  else
    { coordinator with
      loop := (coordinator.handlers report.key).map fun handler => (handler, report) }

/-- `register_report_handler`, up to its loop.  Its callable counts as returned here already. -/
def registerReportHandler (coordinator : Coordinator H V) (did : String) (handler : H) :
    Coordinator H V :=
  { coordinator with
    reportHandlers := coordinator.reportHandlers.set did (coordinator.handlers did ++ [handler])
    pendingReports := coordinator.pendingReports.erase did
    callables := coordinator.callables ++ [(did, handler)]
    loop := (coordinator.buffered did).map fun report => (handler, report) }

/-- A turn of either loop.  That a handler raises is only logged. -/
def call (coordinator : Coordinator H V) (_raises : Bool) : Coordinator H V :=
  match coordinator.loop with
  | [] => coordinator
  | next :: loop => { coordinator with loop, called := coordinator.called ++ [next] }

/-- `_unregister`, for this device id and this handler. -/
def unregister [DecidableEq H] (coordinator : Coordinator H V) (did : String) (handler : H) :
    Coordinator H V :=
  match coordinator.reportHandlers.get? did with
  | none => coordinator
  | some handlers =>
      if handler ∉ handlers then coordinator
      else if handlers.erase handler = [] then
        { coordinator with reportHandlers := coordinator.reportHandlers.erase did }
      else
        { coordinator with
          reportHandlers := coordinator.reportHandlers.set did (handlers.erase handler) }

end Coordinator

/-! ## What is owed -/

/-- A registration, by the place of its callable. -/
structure Registration (H : Type) where
  callable : ℕ
  did : String
  handler : H
  deriving DecidableEq, Repr

/-- What the registrations and the reports come to, whatever the coordinator makes of them. -/
structure Account (H V : Type) where
  /-- How many registrations there have been. -/
  registrations : ℕ
  /-- The registrations whose callable has not been called, oldest first. -/
  live : List (Registration H)
  /-- The device ids without a registration that have been admitted, each with all the reports that
  have come for it since. -/
  unhandled : Dictionary String (List (Report V))
  /-- The calls that are owed, in order: a report to every registration at its time, and the newest
  unhandled ones to the registration that comes first. -/
  owed : List (H × Report V)

/-- The registrations for a device id. -/
def Account.registered (account : Account H V) (did : String) : List (Registration H) :=
  account.live.filter fun registration => registration.did = did

/-- The newest of some reports, in their order. -/
def newest (reports : List (Report V)) : List (Report V) := reports.rtake reportBufferMaxlen

/-- A report without a registration: it is unhandled if its device id has been admitted, or is one of
the first so many. -/
def Account.keepUnhandled (account : Account H V) (report : Report V) : Account H V :=
  if (account.unhandled.get? report.key).isSome ∨
      account.unhandled.entries.length < reportBufferMaxDids then
    { account with
      unhandled := account.unhandled.set report.key
        ((account.unhandled.get? report.key).getD [] ++ [report]) }
  else account

/-! ## The machine -/

structure State (H V : Type) where
  coordinator : Coordinator H V
  account : Account H V

/-- What happens. -/
inductive Label (H V : Type) where
  /-- The session hands on a report. -/
  | dispatchReport (report : Report V)
  | registerReportHandler (did : String) (handler : H)
  /-- The loop calls its next handler, which may raise. -/
  | call (raises : Bool)
  /-- Anyone calls a callable, a handler that the loop has called included. -/
  | unregister (callable : ℕ)

variable [DecidableEq H]

/-- A loop runs to its end before anything else is dispatched or registered. -/
def Possible (state : State H V) : Label H V → Prop
  | .dispatchReport _ | .registerReportHandler _ _ => state.coordinator.loop = []
  | .call _ => state.coordinator.loop ≠ []
  | .unregister callable => callable < state.coordinator.callables.length

def Coordinator.perform (coordinator : Coordinator H V) : Label H V → Coordinator H V
  | .dispatchReport report => coordinator.dispatchReport report
  | .registerReportHandler did handler => coordinator.registerReportHandler did handler
  | .call raises => coordinator.call raises
  | .unregister callable =>
      match coordinator.callables[callable]? with
      | none => coordinator
      | some (did, handler) => coordinator.unregister did handler

/-- The account after a label. -/
def Account.perform (account : Account H V) : Label H V → Account H V
  | .dispatchReport report =>
      if account.registered report.key = [] then account.keepUnhandled report
      else
        { account with
          owed := account.owed ++
            (account.registered report.key).map fun registration => (registration.handler, report) }
  | .registerReportHandler did handler =>
      { registrations := account.registrations + 1
        live := account.live ++ [⟨account.registrations, did, handler⟩]
        unhandled := account.unhandled.erase did
        owed := account.owed ++
          (newest ((account.unhandled.get? did).getD [])).map fun report => (handler, report) }
  | .call _ => account
  | .unregister callable =>
      { account with
        live := account.live.filter fun registration => registration.callable ≠ callable }

def perform (state : State H V) (label : Label H V) : State H V :=
  ⟨state.coordinator.perform label, state.account.perform label⟩

/-- Nobody is registered, and no report has come. -/
def start : State H V := ⟨⟨.empty, .empty, [], [], []⟩, ⟨0, [], .empty, []⟩⟩

/-- A coordinator from its beginning. -/
def machine : Machine (State H V) (Label H V) where
  initial state := state = start
  step state label next := Possible state label ∧ next = perform state label

/-- What the coordinator keeps and calls is what it should. -/
structure Promise (state : State H V) : Prop where
  /-- Nothing is kept for a device id with a handler. -/
  unbuffered : ∀ registration ∈ state.account.live,
    state.coordinator.pendingReports.get? registration.did = none
  dids : state.coordinator.pendingReports.entries.length ≤ reportBufferMaxDids
  /-- What is kept for a device id is some report, and not too many. -/
  bounded : ∀ did buf, state.coordinator.pendingReports.get? did = some buf →
    buf ≠ [] ∧ buf.length ≤ reportBufferMaxlen
  /-- What is kept are exactly the newest reports of the admitted device ids, in order. -/
  kept : state.coordinator.pendingReports = state.account.unhandled.map newest
  /-- Every call that is owed has been made, or is the loop's to make, in order. -/
  calls : state.coordinator.called ++ state.coordinator.loop = state.account.owed

/-- A callable is called while its own registration is the first one of its handler for its device
id, or while there is none. -/
def Fresh (state : State H V) : Label H V → Prop
  | .unregister callable => ∀ did handler,
      state.coordinator.callables[callable]? = some (did, handler) →
      ∀ first, (state.account.registered did).find? (fun registration =>
        registration.handler = handler) = some first → first.callable = callable
  | _ => True

/-! ## Buffers -/

section
omit [DecidableEq H]

theorem append_ne_nil (buf : List (Report V)) (report : Report V) :
    Coordinator.append buf report ≠ [] := by
  intro empty
  have length := congrArg List.length empty
  simp only [Coordinator.append, List.length_drop, List.length_append, List.length_singleton,
    List.length_nil, reportBufferMaxlen] at length
  omega

theorem length_append_le (buf : List (Report V)) (report : Report V) :
    (Coordinator.append buf report).length ≤ reportBufferMaxlen := by
  rw [Coordinator.append, List.length_drop]
  omega

/-- A buffer with the newest reports has the newest again once another has come. -/
theorem append_newest (history : List (Report V)) (report : Report V) :
    Coordinator.append (newest history) report = newest (history ++ [report]) := by
  have shorter : (history.rtake (9 + 1)).rtake 9 = history.rtake 9 := by
    simp only [List.rtake, List.drop_drop, List.length_drop]
    congr 1
    omega
  calc Coordinator.append (newest history) report
      = (history.rtake (9 + 1) ++ [report]).rtake (9 + 1) := rfl
    _ = history.rtake 9 ++ [report] := by rw [List.rtake_concat_succ, shorter]
    _ = newest (history ++ [report]) := (List.rtake_concat_succ ..).symm

/-- A report without a handler is dropped, or put behind what is kept. -/
theorem bufferReport_cases (coordinator : Coordinator H V) (did : String) (report : Report V) :
    coordinator.bufferReport did report = coordinator ∧
        coordinator.pendingReports.get? did = none ∨
      ∃ buf, coordinator.bufferReport did report =
          { coordinator with
            pendingReports := coordinator.pendingReports.set did (Coordinator.append buf report) } ∧
        (coordinator.pendingReports.get? did = some buf ∨
          coordinator.pendingReports.get? did = none ∧ buf = [] ∧
            coordinator.pendingReports.entries.length < reportBufferMaxDids) := by
  rw [Coordinator.bufferReport]
  split
  · rename_i buf held
    exact Or.inr ⟨buf, rfl, Or.inl held⟩
  · rename_i missing
    split
    · exact Or.inl ⟨rfl, missing⟩
    · rename_i room
      exact Or.inr ⟨[], rfl, Or.inr ⟨missing, rfl, by omega⟩⟩

end

section
omit [DecidableEq H]

/-- What the coordinator keeps after a report without a handler. -/
theorem pendingReports_bufferReport {coordinator : Coordinator H V} {account : Account H V}
    (kept : coordinator.pendingReports = account.unhandled.map newest) (report : Report V) :
    (coordinator.bufferReport report.key report).pendingReports =
      (account.keepUnhandled report).unhandled.map newest := by
  have found : coordinator.pendingReports.get? report.key =
      (account.unhandled.get? report.key).map newest := by
    rw [kept, Dictionary.get?_map]
  have length : coordinator.pendingReports.entries.length = account.unhandled.entries.length := by
    rw [kept, Dictionary.map, List.length_map]
  rw [Coordinator.bufferReport, Account.keepUnhandled, found, length]
  cases known : account.unhandled.get? report.key with
  | some history =>
      simp only [Option.map_some, Option.isSome_some, Option.getD_some, true_or, if_true,
        append_newest, kept, Dictionary.map_set]
  | none =>
      simp only [Option.map_none, Option.isSome_none, Option.getD_none, Bool.false_eq_true, false_or]
      by_cases room : account.unhandled.entries.length < reportBufferMaxDids
      · have first : Coordinator.append [] report = newest ([] ++ [report]) := append_newest [] report
        rw [if_neg (Nat.not_le.mpr room), if_pos room]
        simp only [first, kept, Dictionary.map_set]
      · rw [if_pos (Nat.not_lt.mp room), if_neg room, kept]

end

/-! ## Registrations -/

section
omit [DecidableEq H]
variable {account : Account H V} {did : String}

theorem mem_registered {registration : Registration H} :
    registration ∈ account.registered did ↔
      registration ∈ account.live ∧ registration.did = did := by
  rw [Account.registered, List.mem_filter, decide_eq_true_iff]

theorem eq_nil_of_registered (absent : ∀ registration ∈ account.live, registration.did ≠ did) :
    account.registered did = [] := by
  rw [List.eq_nil_iff_forall_not_mem]
  intro registration member
  exact absent registration (mem_registered.mp member).1 (mem_registered.mp member).2

end

/-- What the tables of the coordinator have to do with the registrations. -/
structure Synced (state : State H V) : Prop where
  handlers : ∀ did, state.coordinator.reportHandlers.get? did =
    if state.account.registered did = [] then none
    else some ((state.account.registered did).map Registration.handler)
  callable : ∀ registration ∈ state.account.live,
    state.coordinator.callables[registration.callable]? =
      some (registration.did, registration.handler)
  distinct : (state.account.live.map Registration.callable).Nodup
  registrations : state.account.registrations = state.coordinator.callables.length

omit [DecidableEq H] in
theorem Synced.handlers_eq {state : State H V} (synced : Synced state) (did : String) :
    state.coordinator.handlers did =
      (state.account.registered did).map Registration.handler := by
  rw [Coordinator.handlers, synced.handlers]
  split
  · rename_i none
    rw [none]
    rfl
  · rfl

/-- Of registrations for one device id, the first one of a handler is the one that is taken out of
their handlers. -/
theorem erase_map_handler {registrations : List (Registration H)}
    (distinct : (registrations.map Registration.callable).Nodup) {handler : H}
    {first : Registration H}
    (found : registrations.find? (fun registration => registration.handler = handler) =
      some first) :
    (registrations.map Registration.handler).erase handler =
      (registrations.filter fun registration => registration.callable ≠ first.callable).map
        Registration.handler := by
  induction registrations with
  | nil => cases found
  | cons registration registrations induction =>
      obtain ⟨apart, distinct⟩ := List.nodup_cons.mp distinct
      rw [List.map_cons]
      by_cases same : registration.handler = handler
      · rw [List.find?_cons_of_pos (by simpa using same)] at found
        have head := Option.some.inj found
        subst head
        have others : registrations.filter (fun other =>
            other.callable ≠ registration.callable) = registrations := by
          apply List.filter_eq_self.mpr
          intro other member
          rw [decide_eq_true_iff]
          intro hit
          exact apart (hit ▸ List.mem_map_of_mem member)
        rw [same, List.erase_cons_head, List.filter_cons_of_neg (by simp), others]
      · rw [List.find?_cons_of_neg (by simpa using same)] at found
        have member := List.mem_of_find?_eq_some found
        have differ : registration.callable ≠ first.callable := by
          intro hit
          exact apart (hit ▸ List.mem_map_of_mem member)
        rw [List.erase_cons_tail (by simpa using same), induction distinct found,
          List.filter_cons_of_pos (by simpa using differ), List.map_cons]

/-! ## Steps -/

section
variable {state : State H V}

omit [DecidableEq H] in
theorem Promise.fresh (promise : Promise state) {did : String} {buf : List (Report V)}
    (held : state.coordinator.pendingReports.get? did = some buf) :
    state.account.registered did = [] := by
  apply eq_nil_of_registered
  rintro registration member rfl
  rw [promise.unbuffered registration member] at held
  cases held

omit [DecidableEq H] in
/-- A report that is admitted changes nothing else. -/
theorem keepUnhandled_eq (account : Account H V) (report : Report V) :
    ∃ unhandled, account.keepUnhandled report = { account with unhandled } := by
  rw [Account.keepUnhandled]
  split
  · exact ⟨_, rfl⟩
  · exact ⟨_, rfl⟩

omit [DecidableEq H] in
/-- A report for a device id without a handler. -/
theorem promise_bufferReport (promise : Promise state) (report : Report V)
    (unheard : state.account.registered report.key = []) :
    Promise ⟨state.coordinator.bufferReport report.key report, state.account.keepUnhandled report⟩ := by
  have kept := pendingReports_bufferReport promise.kept report
  obtain ⟨unhandled, admitted⟩ := keepUnhandled_eq state.account report
  rw [admitted] at kept ⊢
  rcases bufferReport_cases state.coordinator report.key report with
    ⟨same, missing⟩ | ⟨buf, set, held⟩
  · rw [same] at kept ⊢
    exact ⟨promise.unbuffered, promise.dids, promise.bounded, kept, promise.calls⟩
  · rw [set] at kept ⊢
    refine ⟨?_, ?_, ?_, kept, promise.calls⟩
    · intro registration member
      have apart : registration.did ≠ report.key := by
        intro same
        have there : registration ∈ state.account.registered report.key :=
          mem_registered.mpr ⟨member, same⟩
        rw [unheard] at there
        cases there
      simp only [Dictionary.get?_set, if_neg apart]
      exact promise.unbuffered registration member
    · rcases held with found | ⟨missing, _, room⟩
      · simp only [Dictionary.length_set_of_get? found]
        exact promise.dids
      · have longer := Dictionary.length_set_le state.coordinator.pendingReports report.key
          (Coordinator.append buf report)
        simp only []
        omega
    · intro did buf' held'
      simp only [Dictionary.get?_set] at held'
      split at held'
      · cases held'
        exact ⟨append_ne_nil _ _, length_append_le _ _⟩
      · exact promise.bounded did buf' held'

omit [DecidableEq H] in
theorem registered_append (account : Account H V) (registration : Registration H) (did : String) :
    Account.registered { account with live := account.live ++ [registration] } did =
      account.registered did ++ if registration.did = did then [registration] else [] := by
  rw [Account.registered, List.filter_append]
  by_cases same : registration.did = did
  · rw [if_pos same, List.filter_cons_of_pos (by simpa using same), List.filter_nil]
    rfl
  · rw [if_neg same, List.filter_cons_of_neg (by simpa using same), List.filter_nil]
    rfl

omit [DecidableEq H] in
theorem promise_registerReportHandler (promise : Promise state) (idle : state.coordinator.loop = [])
    (did : String) (handler : H) :
    Promise ⟨state.coordinator.registerReportHandler did handler,
      state.account.perform (.registerReportHandler did handler)⟩ := by
  refine ⟨?_, ?_, ?_, ?_, ?_⟩
  · intro registration member
    simp only [Coordinator.registerReportHandler, Dictionary.get?_erase]
    split
    · rfl
    · rename_i apart
      rcases List.mem_append.mp member with old | new
      · exact promise.unbuffered registration old
      · rw [List.mem_singleton.mp new] at apart
        exact absurd rfl apart
  · exact Nat.le_trans (Dictionary.length_erase_le _ _) promise.dids
  · intro other buf held
    simp only [Coordinator.registerReportHandler, Dictionary.get?_erase] at held
    split at held
    · cases held
    · exact promise.bounded other buf held
  · simp only [Coordinator.registerReportHandler, Account.perform, promise.kept, Dictionary.map_erase]
  · have calls := promise.calls
    rw [idle, List.append_nil] at calls
    have replayed : state.coordinator.buffered did =
        newest ((state.account.unhandled.get? did).getD []) := by
      rw [Coordinator.buffered, promise.kept, Dictionary.get?_map]
      cases state.account.unhandled.get? did with
      | none => rfl
      | some reports => rfl
    simp only [Coordinator.registerReportHandler, Account.perform, calls, replayed]

omit [DecidableEq H] in
theorem synced_registerReportHandler (synced : Synced state) (did : String) (handler : H) :
    Synced ⟨state.coordinator.registerReportHandler did handler,
      state.account.perform (.registerReportHandler did handler)⟩ := by
  have new : ∀ registration ∈ state.account.live,
      registration.callable < state.coordinator.callables.length := by
    intro registration member
    exact (List.getElem?_eq_some_iff.mp (synced.callable registration member)).1
  refine ⟨?_, ?_, ?_, ?_⟩
  · intro other
    have registered : (state.account.perform (.registerReportHandler did handler)).registered other =
        state.account.registered other ++
          if did = other then [⟨state.account.registrations, did, handler⟩] else [] :=
      registered_append state.account ⟨state.account.registrations, did, handler⟩ other
    rw [registered]
    simp only [Coordinator.registerReportHandler, Dictionary.get?_set]
    by_cases same : other = did
    · rw [if_pos same, if_pos same.symm, if_neg (by simp), synced.handlers_eq, same,
        List.map_append]
      rfl
    · rw [if_neg same, if_neg (Ne.symm same), List.append_nil]
      exact synced.handlers other
  · intro registration member
    simp only [Coordinator.registerReportHandler]
    rcases List.mem_append.mp member with old | latest
    · rw [List.getElem?_append_left (new registration old)]
      exact synced.callable registration old
    · simp only [List.mem_singleton.mp latest, synced.registrations, List.getElem?_concat_length]
  · simp only [Account.perform, List.map_append, List.map_singleton]
    refine List.concat_eq_append ▸ synced.distinct.concat ?_
    intro member
    obtain ⟨registration, old, same⟩ := List.mem_map.mp member
    have older := new registration old
    rw [same, synced.registrations] at older
    exact absurd older (Nat.lt_irrefl _)
  · simp only [Account.perform, Coordinator.registerReportHandler, synced.registrations,
      List.length_append, List.length_singleton]

/-- What handlers there are once one has been taken out. -/
theorem get?_unregister {coordinator : Coordinator H V} {did : String}
    (clean : coordinator.reportHandlers.get? did ≠ some []) (handler : H) (other : String) :
    (coordinator.unregister did handler).reportHandlers.get? other =
      if other = did then
        if (coordinator.handlers did).erase handler = [] then none
        else some ((coordinator.handlers did).erase handler)
      else coordinator.reportHandlers.get? other := by
  rw [Coordinator.unregister, Coordinator.handlers]
  split
  · rename_i missing
    by_cases same : other = did
    · rw [if_pos same, same, missing]
      rfl
    · rw [if_neg same]
  · rename_i handlers found
    rw [found, Option.getD_some]
    split
    · rename_i absent
      rw [List.erase_of_not_mem absent]
      by_cases same : other = did
      · rw [if_pos same, same, found, if_neg]
        rintro rfl
        exact clean found
      · rw [if_neg same]
    · split
      · exact Dictionary.get?_erase _ _ _
      · exact Dictionary.get?_set _ _ _ _

/-- Only the handlers change when one is unregistered. -/
theorem unregister_eq (coordinator : Coordinator H V) (did : String) (handler : H) :
    ∃ reportHandlers, coordinator.unregister did handler = { coordinator with reportHandlers } := by
  rw [Coordinator.unregister]
  split
  · exact ⟨_, rfl⟩
  · split
    · exact ⟨_, rfl⟩
    · split
      · exact ⟨_, rfl⟩
      · exact ⟨_, rfl⟩

omit [DecidableEq H] in
/-- A callable is of the device id and the handler it was made for. -/
theorem Synced.owner (synced : Synced state) {callable : ℕ} {did : String} {handler : H}
    (closure : state.coordinator.callables[callable]? = some (did, handler)) :
    ∀ registration ∈ state.account.live, registration.callable = callable →
      registration.did = did ∧ registration.handler = handler := by
  intro registration member same
  have known := synced.callable registration member
  rw [same, closure] at known
  cases known
  exact ⟨rfl, rfl⟩

omit [DecidableEq H] in
/-- An empty list of handlers is not kept. -/
theorem Synced.handlers_ne_nil (synced : Synced state) (did : String) :
    state.coordinator.reportHandlers.get? did ≠ some [] := by
  rw [synced.handlers]
  split
  · exact nofun
  · rename_i some
    simpa using some

/-- What is left of the handlers is those of the other registrations. -/
theorem Synced.erase_handlers (synced : Synced state) {callable : ℕ} {did : String} {handler : H}
    (closure : state.coordinator.callables[callable]? = some (did, handler))
    (fresh : ∀ first, (state.account.registered did).find? (fun registration =>
      registration.handler = handler) = some first → first.callable = callable) :
    (state.coordinator.handlers did).erase handler =
      ((state.account.registered did).filter fun registration =>
        registration.callable ≠ callable).map Registration.handler := by
  rw [synced.handlers_eq]
  cases found : (state.account.registered did).find? fun registration =>
      registration.handler = handler with
  | none =>
      have others := List.find?_eq_none.mp found
      have absent : handler ∉ (state.account.registered did).map Registration.handler := by
        rintro member
        obtain ⟨registration, there, same⟩ := List.mem_map.mp member
        exact others registration there (decide_eq_true same)
      rw [List.erase_of_not_mem absent, List.filter_eq_self.mpr]
      intro registration member
      rw [decide_eq_true_iff]
      intro same
      have ours := synced.owner closure registration (mem_registered.mp member).1 same
      exact others registration member (decide_eq_true ours.2)
  | some first =>
      have distinct : ((state.account.registered did).map Registration.callable).Nodup :=
        synced.distinct.sublist (List.filter_sublist.map _)
      rw [erase_map_handler distinct found, fresh first found]

/-- The tables after a callable has been called that is fresh. -/
theorem synced_unregister (synced : Synced state) {callable : ℕ} {did : String} {handler : H}
    (closure : state.coordinator.callables[callable]? = some (did, handler))
    (fresh : ∀ first, (state.account.registered did).find? (fun registration =>
      registration.handler = handler) = some first → first.callable = callable) :
    Synced ⟨state.coordinator.unregister did handler, { state.account with
      live := state.account.live.filter fun registration =>
        registration.callable ≠ callable }⟩ := by
  obtain ⟨reportHandlers, changed⟩ := unregister_eq state.coordinator did handler
  refine ⟨?_, ?_, ?_, ?_⟩
  · intro other
    have swapped : Account.registered { state.account with
        live := state.account.live.filter fun registration =>
          registration.callable ≠ callable } other =
        (state.account.registered other).filter fun registration =>
          registration.callable ≠ callable := by
      simp only [Account.registered, List.filter_filter, Bool.and_comm]
    rw [swapped, get?_unregister (synced.handlers_ne_nil did)]
    by_cases same : other = did
    · rw [if_pos same, synced.erase_handlers closure fresh, same]
      simp only [List.map_eq_nil_iff]
    · have others : (state.account.registered other).filter (fun registration =>
          registration.callable ≠ callable) = state.account.registered other := by
        apply List.filter_eq_self.mpr
        intro registration member
        rw [decide_eq_true_iff]
        intro hit
        have there := mem_registered.mp member
        exact same (there.2.symm.trans (synced.owner closure registration there.1 hit).1)
      rw [if_neg same, others, synced.handlers]
  · intro registration member
    simp only [changed]
    exact synced.callable registration (List.mem_of_mem_filter member)
  · exact synced.distinct.sublist (List.filter_sublist.map _)
  · simp only [changed]
    exact synced.registrations

theorem promise_dispatchReport (synced : Synced state) (promise : Promise state)
    (idle : state.coordinator.loop = []) (report : Report V) :
    Promise (perform state (.dispatchReport report)) := by
  change Promise ⟨state.coordinator.dispatchReport report,
    state.account.perform (.dispatchReport report)⟩
  have handlers := synced.handlers_eq report.key
  rw [Coordinator.dispatchReport, handlers, Account.perform]
  by_cases unheard : state.account.registered report.key = []
  · simp only [unheard, List.map_nil, if_true]
    exact promise_bufferReport promise report unheard
  · have calls := promise.calls
    rw [idle, List.append_nil] at calls
    simp only [List.map_eq_nil_iff, if_neg unheard]
    refine ⟨promise.unbuffered, promise.dids, promise.bounded, promise.kept, ?_⟩
    simp only [calls, List.map_map, Function.comp_def]

omit [DecidableEq H] in
/-- A report changes nothing about who is registered. -/
theorem performDispatch_eq (account : Account H V) (report : Report V) :
    ∃ unhandled owed,
      account.perform (.dispatchReport report) = { account with unhandled, owed } := by
  rw [Account.perform]
  split
  · obtain ⟨unhandled, admitted⟩ := keepUnhandled_eq account report
    exact ⟨unhandled, account.owed, admitted⟩
  · exact ⟨_, _, rfl⟩

theorem synced_dispatchReport (synced : Synced state) (report : Report V) :
    Synced (perform state (.dispatchReport report)) := by
  have same : (state.coordinator.dispatchReport report).reportHandlers =
      state.coordinator.reportHandlers ∧ (state.coordinator.dispatchReport report).callables =
        state.coordinator.callables := by
    rw [Coordinator.dispatchReport]
    split
    · rcases bufferReport_cases state.coordinator report.key report with
        ⟨same, _⟩ | ⟨buf, kept, _⟩
      · rw [same]
        exact ⟨rfl, rfl⟩
      · rw [kept]
        exact ⟨rfl, rfl⟩
    · exact ⟨rfl, rfl⟩
  obtain ⟨unhandled, owed, account⟩ := performDispatch_eq state.account report
  simp only [perform, Coordinator.perform, account]
  refine ⟨?_, ?_, synced.distinct, ?_⟩
  · intro did
    simp only [same.1]
    exact synced.handlers did
  · intro registration member
    simp only [same.2]
    exact synced.callable registration member
  · simp only [same.2]
    exact synced.registrations

/-- Every step that calls no stale callable keeps what the coordinator promises. -/
theorem step_promise (synced : Synced state) (promise : Promise state) {label : Label H V}
    (fresh : Fresh state label) (possible : Possible state label) :
    Synced (perform state label) ∧ Promise (perform state label) := by
  cases label with
  | dispatchReport report =>
      exact ⟨synced_dispatchReport synced report,
        promise_dispatchReport synced promise possible report⟩
  | registerReportHandler did handler =>
      exact ⟨synced_registerReportHandler synced did handler,
        promise_registerReportHandler promise possible did handler⟩
  | call raises =>
      have turn : ∃ next loop, state.coordinator.loop = next :: loop :=
        List.exists_cons_of_ne_nil possible
      obtain ⟨next, loop, turn⟩ := turn
      have called : state.coordinator.call raises =
          { state.coordinator with loop, called := state.coordinator.called ++ [next] } := by
        rw [Coordinator.call, turn]
      have calls := promise.calls
      rw [turn] at calls
      simp only [perform, Coordinator.perform, Account.perform, called]
      refine ⟨⟨synced.handlers, synced.callable, synced.distinct, synced.registrations⟩,
        ⟨promise.unbuffered, promise.dids, promise.bounded, promise.kept, ?_⟩⟩
      simp only [List.append_assoc, List.singleton_append, calls]
  | unregister callable =>
      have closure := List.getElem?_eq_getElem possible
      generalize state.coordinator.callables[callable] = closed at closure
      obtain ⟨did, handler⟩ := closed
      simp only [perform, Coordinator.perform, Account.perform, closure]
      refine ⟨synced_unregister synced closure (fresh did handler closure), ?_⟩
      obtain ⟨reportHandlers, same⟩ := unregister_eq state.coordinator did handler
      rw [same]
      refine ⟨?_, promise.dids, promise.bounded, promise.kept, promise.calls⟩
      intro registration member
      exact promise.unbuffered registration (List.mem_of_mem_filter member)

end

/-- Every report reaches who is registered for it, as long as no callable is called that is stale. -/
theorem run_promise {labels : List (Label H V)} {state : State H V}
    (run : machine.Run Fresh labels state) : Promise state := by
  have initial : ∀ state : State H V, machine.initial state → Synced state ∧ Promise state := by
    rintro _ rfl
    exact ⟨⟨fun _ => rfl, nofun, List.nodup_nil, rfl⟩, ⟨nofun, Nat.zero_le _, nofun, rfl, rfl⟩⟩
  refine (run.invariant initial ?_).2
  rintro state label _ ⟨synced, promise⟩ fresh ⟨possible, rfl⟩
  exact step_promise synced promise fresh possible

/-- A run goes on with what is possible. -/
theorem run_perform {good : State H V → Label H V → Prop} {labels : List (Label H V)}
    {state : State H V} (run : machine.Run good labels state) (label : Label H V)
    (meets : good state label) (possible : Possible state label) :
    machine.Run good (labels ++ [label]) (perform state label) :=
  run.extend label meets ⟨possible, rfl⟩

def lampReport : Report Unit := ⟨"hub", "lamp", ()⟩

/-- A report is kept and replayed to a handler that raises, which is then unregistered. -/
theorem run_promise_lamp : Promise (perform (perform (perform (perform start
    (.dispatchReport lampReport)) (.registerReportHandler "lamp" "entity")) (.call true))
      (.unregister 0)) := by
  have run : (machine : Machine (State String Unit) _).Run Fresh [] start := .start rfl
  have first := run_perform run (.dispatchReport lampReport) trivial rfl
  have second := run_perform first (.registerReportHandler "lamp" "entity") trivial rfl
  have third := run_perform second (.call true) trivial nofun
  refine run_promise (run_perform third (.unregister 0) ?_ Nat.one_pos)
  intro did handler closure first found
  cases closure
  cases found
  rfl

/-- A callable that has been called before is called again. -/
def staleLabels : List (Label String Unit) :=
  [.registerReportHandler "lamp" "entity", .unregister 0, .registerReportHandler "lamp" "entity",
    .unregister 0, .dispatchReport lampReport]

/-- It takes out a registration that is not its own, and a report does not reach the handler. -/
theorem stale_callable_unregisters :
    machine.Run (fun _ _ => True) staleLabels (staleLabels.foldl perform start) ∧
      ¬ Promise (staleLabels.foldl perform start) := by
  have run : (machine : Machine (State String Unit) _).Run (fun _ _ => True) [] start := .start rfl
  have first := run_perform run (.registerReportHandler "lamp" "entity") trivial rfl
  have second := run_perform first (.unregister 0) trivial Nat.one_pos
  have third := run_perform second (.registerReportHandler "lamp" "entity") trivial rfl
  have fourth := run_perform third (.unregister 0) trivial Nat.two_pos
  have fifth := run_perform fourth (.dispatchReport lampReport) trivial rfl
  refine ⟨fifth, ?_⟩
  intro promise
  cases promise.calls

end ReportBuffer
end Reference
end AqaraLanLink
