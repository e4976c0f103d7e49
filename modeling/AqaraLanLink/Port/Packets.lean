import AqaraLanLink.Library.Overlay
import AqaraLanLink.Port.Names

/-!
# What a packet does to a search

Every host of the multicast group can send the search a packet.  Which packets the `message` handler
survives, and which of these leave the hubs that have answered where they are.
-/

namespace AqaraLanLink
namespace Port
namespace Discovery

open Library Outcome

/-! ## Reading a packet -/

/-- Where the reader comes in a packet: the questions and the records that it has not read yet, and
the offset. -/
inductive ComesTo (packet : List UInt8) : ℕ → ℕ → ℕ → Prop
  | start : 12 ≤ packet.length → ComesTo packet (questionCount packet) (recordCount packet) 12
  | question {questions records offset next : ℕ} {name : String} :
      ComesTo packet (questions + 1) records offset → Names packet offset name next →
      ComesTo packet questions records (next + 4)
  | record {records offset next : ℕ} {name : String} :
      ComesTo packet 0 (records + 1) offset → offset < packet.length →
      Names packet offset name next → next + 10 ≤ packet.length →
      ComesTo packet 0 records (next + 10 + readUInt16BE packet (next + 8))

/-- No name that the reader comes to leads round in a circle. -/
def Straight (packet : List UInt8) : Prop :=
  ∀ questions records offset, ComesTo packet questions records offset →
    questions ≠ 0 ∨ records ≠ 0 ∧ offset < packet.length → ¬ Circular (hop packet) offset

/-- Reading over some questions. -/
inductive Skips (packet : List UInt8) : ℕ → ℕ → ℕ → Prop
  | done {offset : ℕ} : Skips packet 0 offset offset
  | question {questions offset next last : ℕ} {name : String} : Names packet offset name next →
      Skips packet questions (next + 4) last → Skips packet (questions + 1) offset last

/-- The records from an offset on. -/
inductive Lists (packet : List UInt8) : ℕ → ℕ → List Record → Prop
  | done {offset : ℕ} : Lists packet 0 offset []
  | past {total offset : ℕ} : packet.length ≤ offset → Lists packet (total + 1) offset []
  | short {total offset next : ℕ} {name : String} : offset < packet.length →
      Names packet offset name next → packet.length < next + 10 → Lists packet (total + 1) offset []
  | record {total offset next : ℕ} {name : String} {records : List Record} :
      offset < packet.length → Names packet offset name next → next + 10 ≤ packet.length →
      Lists packet total (next + 10 + readUInt16BE packet (next + 8)) records →
      Lists packet (total + 1) offset (recordAt packet name next :: records)

/-- The records of a packet. -/
def Carries (packet : List UInt8) (records : List Record) : Prop :=
  if packet.length < 12 then records = []
  else ∃ offset, Skips packet (questionCount packet) 12 offset ∧
    Lists packet (recordCount packet) offset records

variable {packet : List UInt8} {questions total offset last next : ℕ} {records : List Record}

theorem settles_skipQuestions (packet : List UInt8) (questions offset : ℕ) :
    ∃ outcome, Settles (fun fuel => skipQuestions fuel packet questions offset) outcome := by
  induction questions generalizing offset with
  | zero => exact ⟨_, yields_returns _⟩
  | succ questions induction =>
      exact settles_bind (settles_readName packet offset) fun name => induction (name.2 + 4)

theorem settles_readRecords (packet : List UInt8) (total offset : ℕ) :
    ∃ outcome, Settles (fun fuel => readRecords fuel packet total offset) outcome := by
  induction total generalizing offset with
  | zero => exact ⟨_, yields_returns _⟩
  | succ total induction =>
      simp only [readRecords]
      split
      · apply settles_bind (settles_readName packet offset)
        rintro ⟨name, next⟩
        by_cases short : packet.length < next + 10
        · simp only [if_pos short]
          exact ⟨_, yields_returns _⟩
        · simp only [if_neg short]
          exact settles_bind (induction _) fun others => ⟨_, yields_returns _⟩
      · exact ⟨_, yields_returns _⟩

theorem settles_parseRecords (packet : List UInt8) :
    ∃ outcome, Settles (fun fuel => parseRecords fuel packet) outcome := by
  simp only [parseRecords]
  split
  · exact ⟨_, yields_returns _⟩
  · exact settles_bind (settles_skipQuestions packet _ _) fun offset =>
      settles_readRecords packet _ offset

theorem yields_skipQuestions_iff :
    Yields (fun fuel => skipQuestions fuel packet questions offset) last ↔
      Skips packet questions offset last := by
  induction questions generalizing offset with
  | zero =>
      simp only [skipQuestions, yields_returns_iff]
      constructor
      · rintro rfl
        exact .done
      · rintro ⟨⟩
        rfl
  | succ questions induction =>
      simp only [skipQuestions]
      rw [yields_bind_iff (settles_readName packet offset)]
      constructor
      · rintro ⟨⟨name, next⟩, read, rest⟩
        exact .question (yields_readName_iff.mp read) (induction.mp rest)
      · rintro (_ | ⟨names, rest⟩)
        exact ⟨(_, _), yields_of_names names, induction.mpr rest⟩

theorem yields_readRecords_iff :
    Yields (fun fuel => readRecords fuel packet total offset) records ↔
      Lists packet total offset records := by
  induction total generalizing offset records with
  | zero =>
      simp only [readRecords, yields_returns_iff]
      constructor
      · rintro rfl
        exact .done
      · rintro ⟨⟩
        rfl
  | succ total induction =>
      simp only [readRecords]
      by_cases inside : offset < packet.length
      · simp only [if_pos inside]
        rw [yields_bind_iff (settles_readName packet offset)]
        constructor
        · rintro ⟨⟨name, next⟩, read, rest⟩
          have names := yields_readName_iff.mp read
          simp only [] at rest
          split at rest
          · rw [← yields_returns_iff.mp rest]
            exact .short inside names ‹_›
          · rw [yields_bind_iff (settles_readRecords packet _ _)] at rest
            obtain ⟨others, listed, whole⟩ := rest
            rw [← yields_returns_iff.mp whole]
            exact .record inside names (by omega) (induction.mp listed)
        · intro lists
          cases lists with
          | past outside => omega
          | short _ names short =>
              refine ⟨(_, _), yields_of_names names, ?_⟩
              simp only [if_pos short]
              exact yields_returns _
          | record _ names fits others =>
              refine ⟨(_, _), yields_of_names names, ?_⟩
              simp only [if_neg (Nat.not_lt.mpr fits)]
              rw [yields_bind_iff (settles_readRecords packet _ _)]
              exact ⟨_, induction.mpr others, yields_returns _⟩
      · simp only [if_neg inside, yields_returns_iff]
        constructor
        · rintro rfl
          exact .past (by omega)
        · rintro (_ | _ | ⟨inside', _, _⟩ | ⟨inside', _, _, _⟩)
          · rfl
          · exact absurd inside' inside
          · exact absurd inside' inside

/-- `parseRecords` gives the records of the packet. -/
theorem yields_parseRecords_iff :
    Yields (fun fuel => parseRecords fuel packet) records ↔ Carries packet records := by
  simp only [parseRecords, Carries]
  split
  · rw [yields_returns_iff]
    exact eq_comm
  · rw [yields_bind_iff (settles_skipQuestions packet _ _)]
    simp only [yields_skipQuestions_iff, yields_readRecords_iff]

/-! ## Packets that can be read -/

theorem exists_lists (straight : Straight packet) (comes : ComesTo packet 0 total offset) :
    ∃ records, Lists packet total offset records := by
  induction total generalizing offset with
  | zero => exact ⟨[], .done⟩
  | succ total induction =>
      rcases Nat.lt_or_ge offset packet.length with inside | outside
      · obtain ⟨name, next, names⟩ := exists_names_iff.mpr
          (straight _ _ _ comes (Or.inr ⟨Nat.succ_ne_zero _, inside⟩))
        rcases Nat.lt_or_ge packet.length (next + 10) with short | fits
        · exact ⟨[], .short inside names short⟩
        · obtain ⟨records, lists⟩ := induction (.record comes inside names fits)
          exact ⟨_, .record inside names fits lists⟩
      · exact ⟨[], .past outside⟩

theorem exists_skips (straight : Straight packet) (comes : ComesTo packet questions total offset) :
    ∃ last, Skips packet questions offset last ∧ ComesTo packet 0 total last := by
  induction questions generalizing offset with
  | zero => exact ⟨offset, .done, comes⟩
  | succ questions induction =>
      obtain ⟨name, next, names⟩ := exists_names_iff.mpr
        (straight _ _ _ comes (Or.inl (Nat.succ_ne_zero _)))
      obtain ⟨last, skips, there⟩ := induction (.question comes names)
      exact ⟨last, .question names skips, there⟩

/-- In a packet that has been read, what is left to read can be read wherever the reader comes. -/
theorem lists_of_comesTo (carries : Carries packet records)
    (comes : ComesTo packet questions total offset) :
    ∃ last rest, Skips packet questions offset last ∧ Lists packet total last rest := by
  induction comes with
  | start long =>
      rw [Carries, if_neg (by omega)] at carries
      obtain ⟨last, skips, lists⟩ := carries
      exact ⟨last, records, skips, lists⟩
  | question _ names induction =>
      obtain ⟨last, rest, skips, lists⟩ := induction
      cases skips with
      | question names' skips =>
          obtain ⟨-, rfl⟩ := names.unique names'
          exact ⟨last, rest, skips, lists⟩
  | record _ inside names fits induction =>
      obtain ⟨last, rest, skips, lists⟩ := induction
      cases skips
      cases lists with
      | past outside => omega
      | short _ names' short =>
          obtain ⟨-, rfl⟩ := names.unique names'
          omega
      | record _ names' _ others =>
          obtain ⟨-, rfl⟩ := names.unique names'
          exact ⟨_, _, .done, others⟩

/-- A packet can be read to its end when no name in it leads round in a circle. -/
theorem exists_carries_iff : (∃ records, Carries packet records) ↔ Straight packet := by
  constructor
  · rintro ⟨records, carries⟩ questions total offset comes reads
    obtain ⟨last, rest, skips, lists⟩ := lists_of_comesTo carries comes
    rw [← exists_names_iff]
    cases skips with
    | question names _ => exact ⟨_, _, names⟩
    | done =>
        rcases reads with some | ⟨some, inside⟩
        · exact absurd rfl some
        · cases lists with
          | done => exact absurd rfl some
          | past outside => omega
          | short _ names _ => exact ⟨_, _, names⟩
          | record _ names _ _ => exact ⟨_, _, names⟩
  · intro straight
    by_cases short : packet.length < 12
    · exact ⟨[], by rw [Carries, if_pos short]⟩
    · obtain ⟨last, skips, comes⟩ := exists_skips straight (.start (by omega))
      obtain ⟨records, lists⟩ := exists_lists straight comes
      exact ⟨records, by rw [Carries, if_neg short]; exact ⟨last, skips, lists⟩⟩

theorem Carries.unique {others : List Record} (carries : Carries packet records)
    (carries' : Carries packet others) : records = others := by
  have same := Settles.unique (yields_parseRecords_iff.mpr carries)
    (yields_parseRecords_iff.mpr carries')
  cases same
  rfl

/-! ## Hearing a packet -/

/-- The record can be heard: the port and the target of a service are there to be read. -/
def Audible (record : Record) : Prop :=
  record.type = typeSrv →
    6 ≤ record.data.length ∧ ¬ Circular (hop record.packet) (record.dataAt + 6)

/-- The target that a record names, if it is a service's. -/
def Targets (record : Record) (target : String) : Prop :=
  record.type = typeSrv → ∃ next, Names record.packet (record.dataAt + 6) target next

/-- What has been heard once a record with a given target has been heard. -/
def noted (heard : Heard) (record : Record) (target : String) : Heard :=
  let existing := heard.existing record.name
  if record.type = typeSrv then
    heard.setService record.name
      { existing with endpoint := some (readUInt16BE record.data 4, target) }
  else if record.type = typeTxt then
    heard.setService record.name
      { existing with deviceId := (parseTxt record.data).get? "id" }
  else if record.type = typeA ∧ record.data.length = 4 then
    { heard with addresses := heard.addresses.set record.name (dotted record.data) }
  else heard

variable {record : Record} {heard heard' : Heard}

theorem hearRecord_of_service (srv : record.type = typeSrv) (fuel : ℕ) (heard : Heard) :
    hearRecord fuel heard record = (do
      let port ← readPort record.data
      let (target, _) ← readName fuel record.packet (record.dataAt + 6)
      .returns (heard.setService record.name
        { heard.existing record.name with endpoint := some (port, target) })) := by
  simp only [hearRecord]
  rw [if_pos srv]

/-- Every other record is heard at once. -/
theorem hearRecord_of_other (other : record.type ≠ typeSrv) (fuel : ℕ) (heard : Heard)
    (target : String) : hearRecord fuel heard record = .returns (noted heard record target) := by
  simp only [hearRecord, noted]
  rw [if_neg other, if_neg other]
  split
  · rfl
  · split
    · rfl
    · rfl

theorem settles_hearRecord (heard : Heard) (record : Record) :
    ∃ outcome, Settles (fun fuel => hearRecord fuel heard record) outcome := by
  by_cases srv : record.type = typeSrv
  · simp only [hearRecord_of_service srv, readPort]
    split
    · exact ⟨.throws _, 0, fun _ _ => throws_bind _ _⟩
    · simp only [returns_bind]
      exact settles_bind (settles_readName _ _) fun target => ⟨_, yields_returns _⟩
  · simp only [hearRecord_of_other srv _ _ ""]
    exact ⟨_, yields_returns _⟩

theorem yields_hearRecord_iff : Yields (fun fuel => hearRecord fuel heard record) heard' ↔
    Audible record ∧ ∃ target, Targets record target ∧ heard' = noted heard record target := by
  by_cases srv : record.type = typeSrv
  · simp only [hearRecord_of_service srv, readPort]
    by_cases short : record.data.length < 6
    · simp only [if_pos short, throws_bind]
      constructor
      · intro yields
        have threw : Settles (fun _ => (.throws "ERR_OUT_OF_RANGE" : Outcome String Heard)) _ :=
          ⟨0, fun _ _ => rfl⟩
        cases Settles.unique yields threw
      · rintro ⟨audible, -⟩
        exact absurd (audible srv).1 (Nat.not_le.mpr short)
    · simp only [if_neg short, returns_bind]
      rw [yields_bind_iff (settles_readName _ _)]
      have after : ∀ target, noted heard record target = heard.setService record.name
          { heard.existing record.name with
            endpoint := some (readUInt16BE record.data 4, target) } := fun target => if_pos srv
      constructor
      · rintro ⟨⟨target, next⟩, read, whole⟩
        have names := yields_readName_iff.mp read
        refine ⟨fun _ => ⟨by omega, exists_names_iff.mp ⟨target, next, names⟩⟩, target,
          fun _ => ⟨next, names⟩, ?_⟩
        rw [after, yields_returns_iff.mp whole]
      · rintro ⟨-, target, names, rfl⟩
        obtain ⟨next, names⟩ := names srv
        refine ⟨(target, next), yields_of_names names, ?_⟩
        rw [after]
        exact yields_returns _
  · simp only [hearRecord_of_other srv _ _ "", yields_returns_iff]
    have silent : ∀ target, noted heard record target = noted heard record "" := by
      intro target
      simp only [noted, if_neg srv]
    constructor
    · rintro rfl
      exact ⟨fun same => absurd same srv, "", fun same => absurd same srv, rfl⟩
    · rintro ⟨-, target, -, rfl⟩
      exact (silent target).symm

/-- An audible record is heard, whatever had been heard before. -/
theorem exists_targets (audible : Audible record) : ∃ target, Targets record target := by
  by_cases srv : record.type = typeSrv
  · obtain ⟨target, next, names⟩ := exists_names_iff.mpr (audible srv).2
    exact ⟨target, fun _ => ⟨next, names⟩⟩
  · exact ⟨"", fun same => absurd same srv⟩

/-- What a packet brings: its records, each with the target that it names. -/
def Brings (packet : List UInt8) (news : List (Record × String)) : Prop :=
  Carries packet (news.map Prod.fst) ∧ ∀ item ∈ news, Audible item.1 ∧ Targets item.1 item.2

/-- What has been heard once some records have been heard. -/
def notedAll (heard : Heard) (news : List (Record × String)) : Heard :=
  news.foldl (fun heard item => noted heard item.1 item.2) heard

variable {news : List (Record × String)}

theorem settles_hearRecords (heard : Heard) (records : List Record) :
    ∃ outcome, Settles (fun fuel => records.foldlM (hearRecord fuel) heard) outcome := by
  induction records generalizing heard with
  | nil => exact ⟨_, yields_returns _⟩
  | cons record records induction =>
      simp only [List.foldlM_cons]
      exact settles_bind (settles_hearRecord heard record) fun heard => induction heard

theorem yields_hearRecords_iff :
    Yields (fun fuel => records.foldlM (hearRecord fuel) heard) heard' ↔
      ∃ news, news.map Prod.fst = records ∧ (∀ item ∈ news, Audible item.1 ∧ Targets item.1 item.2) ∧
        heard' = notedAll heard news := by
  induction records generalizing heard with
  | nil =>
      simp only [List.foldlM_nil, pure_eq, yields_returns_iff, List.map_eq_nil_iff]
      constructor
      · rintro rfl
        exact ⟨[], rfl, nofun, rfl⟩
      · rintro ⟨_, rfl, -, rfl⟩
        rfl
  | cons record records induction =>
      simp only [List.foldlM_cons]
      rw [yields_bind_iff (settles_hearRecord heard record)]
      constructor
      · rintro ⟨next, first, others⟩
        obtain ⟨audible, target, targets, rfl⟩ := yields_hearRecord_iff.mp first
        obtain ⟨news, rfl, fine, rfl⟩ := induction.mp others
        exact ⟨(record, target) :: news, rfl, List.forall_mem_cons.mpr ⟨⟨audible, targets⟩, fine⟩,
          rfl⟩
      · rintro ⟨news, same, fine, rfl⟩
        obtain ⟨item, news, rfl, rfl, rfl⟩ := List.map_eq_cons_iff.mp same
        obtain ⟨⟨audible, targets⟩, fine⟩ := List.forall_mem_cons.mp fine
        exact ⟨_, yields_hearRecord_iff.mpr ⟨audible, item.2, targets, rfl⟩,
          induction.mpr ⟨news, rfl, fine, rfl⟩⟩

/-- The handler takes up what the packet brings, and it returns only if it can be read. -/
theorem yields_onMessage_iff : Yields (fun fuel => onMessage fuel heard packet) heard' ↔
    ∃ news, Brings packet news ∧ heard' = notedAll heard news := by
  simp only [onMessage]
  rw [yields_bind_iff (settles_parseRecords packet)]
  simp only [yields_parseRecords_iff, yields_hearRecords_iff]
  constructor
  · rintro ⟨_, carries, news, rfl, fine, rfl⟩
    exact ⟨news, ⟨carries, fine⟩, rfl⟩
  · rintro ⟨news, ⟨carries, fine⟩, rfl⟩
    exact ⟨_, carries, news, rfl, fine, rfl⟩

theorem settles_onMessage (heard : Heard) (packet : List UInt8) :
    ∃ outcome, Settles (fun fuel => onMessage fuel heard packet) outcome :=
  settles_bind (settles_parseRecords packet) fun records => settles_hearRecords heard records

theorem exists_news (audible : ∀ record ∈ records, Audible record) :
    ∃ news : List (Record × String), news.map Prod.fst = records ∧
      ∀ item ∈ news, Audible item.1 ∧ Targets item.1 item.2 := by
  induction records with
  | nil => exact ⟨[], rfl, nofun⟩
  | cons record records induction =>
      obtain ⟨first, others⟩ := List.forall_mem_cons.mp audible
      obtain ⟨target, targets⟩ := exists_targets first
      obtain ⟨news, rfl, fine⟩ := induction others
      exact ⟨(record, target) :: news, rfl, List.forall_mem_cons.mpr ⟨⟨first, targets⟩, fine⟩⟩

/-! ## What a search knows -/

/-- The port and the target that a record gives a service. -/
def endpointTold (item : Record × String) (name : String) : Option (ℕ × String) :=
  if item.1.type = typeSrv ∧ item.1.name = name then some (readUInt16BE item.1.data 4, item.2)
  else none

/-- The device id that a record gives a service, if it has one. -/
def deviceIdTold (item : Record × String) (name : String) : Option (Option String) :=
  if item.1.type = typeTxt ∧ item.1.name = name then some ((parseTxt item.1.data).get? "id")
  else none

/-- The address that a record gives a host. -/
def addressTold (item : Record × String) (host : String) : Option String :=
  if (item.1.type = typeA ∧ item.1.data.length = 4) ∧ item.1.name = host then
    some (dotted item.1.data)
  else none

namespace Heard

/-- The port and the target of a service. -/
def endpoint (heard : Heard) (name : String) : Option (ℕ × String) := (heard.existing name).endpoint

/-- The device id of a service. -/
def deviceId (heard : Heard) (name : String) : Option String := (heard.existing name).deviceId

/-- Where a target is. -/
def hostOf (heard : Heard) (target : String) : String := (heard.addresses.get? target).getD target

end Heard

theorem existing_setService (heard : Heard) (name : String) (service : Service) (other : String) :
    (heard.setService name service).existing other =
      if other = name then service else heard.existing other := by
  simp only [Heard.existing, Heard.setService, Dictionary.get?_set]
  split
  · rfl
  · rfl

theorem endpoint_noted (heard : Heard) (record : Record) (target : String) :
    (noted heard record target).endpoint = overlay heard.endpoint (endpointTold (record, target)) := by
  funext name
  simp only [Heard.endpoint, noted, overlay]
  by_cases srv : record.type = typeSrv
  · rw [if_pos srv, existing_setService]
    by_cases same : name = record.name
    · rw [if_pos same, endpointTold, if_pos ⟨srv, same.symm⟩]
      rfl
    · rw [if_neg same, endpointTold, if_neg fun both => same both.2.symm]
      rfl
  · have silent : endpointTold (record, target) name = none := if_neg fun both => srv both.1
    rw [if_neg srv, silent, Option.none_or]
    split
    · rw [existing_setService]
      split
      · rename_i same
        rw [same]
      · rfl
    · split
      · rfl
      · rfl

theorem deviceId_noted (heard : Heard) (record : Record) (target : String) :
    (fun name => some ((noted heard record target).deviceId name)) =
      overlay (fun name => some (heard.deviceId name)) (deviceIdTold (record, target)) := by
  funext name
  simp only [Heard.deviceId, noted, overlay]
  by_cases txt : record.type = typeTxt
  · have other : record.type ≠ typeSrv := by
      rw [txt]
      decide
    rw [if_neg other, if_pos txt, existing_setService]
    by_cases same : name = record.name
    · rw [if_pos same, deviceIdTold, if_pos ⟨txt, same.symm⟩]
      rfl
    · rw [if_neg same, deviceIdTold, if_neg fun both => same both.2.symm]
      rfl
  · have silent : deviceIdTold (record, target) name = none := if_neg fun both => txt both.1
    rw [silent, Option.none_or]
    split
    · rw [existing_setService]
      split
      · rename_i same
        rw [same]
      · rfl
    · split
      · rfl
      · rfl

theorem address_noted (heard : Heard) (record : Record) (target : String) :
    (noted heard record target).addresses.get? =
      overlay heard.addresses.get? (addressTold (record, target)) := by
  funext host
  simp only [noted, overlay]
  by_cases address : record.type = typeA ∧ record.data.length = 4
  · have other : record.type ≠ typeSrv ∧ record.type ≠ typeTxt := by
      rw [address.1]
      decide
    rw [if_neg other.1, if_neg other.2, if_pos address, Dictionary.get?_set]
    by_cases same : host = record.name
    · rw [if_pos same, addressTold, if_pos ⟨address, same.symm⟩]
      rfl
    · rw [if_neg same, addressTold, if_neg fun both => same both.2.symm]
      rfl
  · have silent : addressTold (record, target) host = none := if_neg fun both => address both.1
    rw [silent, Option.none_or, if_neg address]
    split
    · rfl
    · split
      · rfl
      · rfl

theorem endpoint_notedAll (heard : Heard) (news : List (Record × String)) :
    (notedAll heard news).endpoint = overlayAll endpointTold heard.endpoint news := by
  induction news generalizing heard with
  | nil => rfl
  | cons item news induction =>
      change (notedAll (noted heard item.1 item.2) news).endpoint = _
      rw [induction, endpoint_noted]
      rfl

theorem deviceId_notedAll (heard : Heard) (news : List (Record × String)) :
    (fun name => some ((notedAll heard news).deviceId name)) =
      overlayAll deviceIdTold (fun name => some (heard.deviceId name)) news := by
  induction news generalizing heard with
  | nil => rfl
  | cons item news induction =>
      change (fun name => some ((notedAll (noted heard item.1 item.2) news).deviceId name)) = _
      rw [induction, deviceId_noted]
      rfl

theorem address_notedAll (heard : Heard) (news : List (Record × String)) :
    (notedAll heard news).addresses.get? = overlayAll addressTold heard.addresses.get? news := by
  induction news generalizing heard with
  | nil => rfl
  | cons item news induction =>
      change (notedAll (noted heard item.1 item.2) news).addresses.get? = _
      rw [induction, address_noted]
      rfl

/-- The services that are reported: those whose port and device id are known. -/
theorem mem_finish_iff {hub : Hub} : hub ∈ finish heard ↔
    isAqara hub.name = true ∧ (hub.deviceId ≠ "" ∧ hub.port ≠ 0) ∧
      heard.deviceId hub.name = some hub.deviceId ∧
        ∃ target, heard.endpoint hub.name = some (hub.port, target) ∧
          heard.hostOf target = hub.host := by
  constructor
  · intro member
    obtain ⟨⟨name, service⟩, there, built⟩ := List.mem_filterMap.mp member
    have existing : heard.existing name = service := by
      rw [Heard.existing, Dictionary.get?_eq_some_iff.mpr there, Option.getD_some]
    simp only [hubOf] at built
    split at built
    · rename_i aqara
      split at built
      · rename_i port target did known told
        split at built
        · rename_i fine
          cases built
          refine ⟨aqara, fine, ?_, target, ?_, rfl⟩
          · rw [Heard.deviceId, existing, told]
          · rw [Heard.endpoint, existing, known]
        · cases built
      · cases built
    · cases built
  · rintro ⟨aqara, fine, told, target, known, host⟩
    rw [Heard.endpoint] at known
    rw [Heard.deviceId] at told
    have there : (hub.name, heard.existing hub.name) ∈ heard.services.entries := by
      rw [← Dictionary.get?_eq_some_iff]
      cases found : heard.services.get? hub.name with
      | none =>
          rw [Heard.existing, found] at known
          cases known
      | some service => rw [Heard.existing, found, Option.getD_some]
    refine List.mem_filterMap.mpr ⟨_, there, ?_⟩
    rw [Heard.hostOf] at host
    simp only [hubOf, known, told, host]
    rw [if_pos aqara, if_pos fine]

/-! ## Hubs that stay -/

/-- What the records of a packet say of a hub, where none that come later say it again, is what the
hub is reported with. -/
structure Keeps (heard : Heard) (news later : List (Record × String)) (hub : Hub) : Prop where
  /-- The last text of its service name has its device id. -/
  deviceId : latest deviceIdTold later hub.name = none →
    ∀ item, latest deviceIdTold news hub.name = some item →
      (parseTxt item.1.data).get? "id" = some hub.deviceId
  /-- The last service of that name has its port, and a target that is where it is. -/
  endpoint : latest endpointTold later hub.name = none →
    ∀ item, latest endpointTold news hub.name = some item →
      readUInt16BE item.1.data 4 = hub.port ∧
        (notedAll heard (news ++ later)).hostOf item.2 = hub.host
  /-- Without such a service, the last address of its target is where it is. -/
  address : (latest endpointTold later hub.name = none → latest endpointTold news hub.name = none) →
    ∀ target, (notedAll heard later).endpoint hub.name = some (hub.port, target) →
      latest addressTold later target = none →
        ∀ item, latest addressTold news target = some item → dotted item.1.data = hub.host

section

variable {later : List (Record × String)} {item : Record × String} {name : String}

theorem endpoint_of_silent
    (silent : latest endpointTold later name = none → latest endpointTold news name = none) :
    (notedAll heard (news ++ later)).endpoint name = (notedAll heard later).endpoint name := by
  rw [endpoint_notedAll, endpoint_notedAll, overlayAll_append_of_silent silent]

theorem endpoint_of_last (silent : latest endpointTold later name = none)
    (found : latest endpointTold news name = some item) :
    (notedAll heard (news ++ later)).endpoint name =
      some (readUInt16BE item.1.data 4, item.2) := by
  rw [endpoint_notedAll, overlayAll_append_of_last silent found]
  have tells := tells_of_latest found
  rw [endpointTold] at tells ⊢
  split at tells
  · rename_i told
    exact if_pos told
  · cases tells

theorem deviceId_of_silent
    (silent : latest deviceIdTold later name = none → latest deviceIdTold news name = none) :
    (notedAll heard (news ++ later)).deviceId name = (notedAll heard later).deviceId name := by
  have whole := congrFun (deviceId_notedAll heard (news ++ later)) name
  rw [overlayAll_append_of_silent silent, ← deviceId_notedAll] at whole
  exact Option.some.inj whole

theorem deviceId_of_last (silent : latest deviceIdTold later name = none)
    (found : latest deviceIdTold news name = some item) :
    (notedAll heard (news ++ later)).deviceId name = (parseTxt item.1.data).get? "id" := by
  have whole := congrFun (deviceId_notedAll heard (news ++ later)) name
  have tells := tells_of_latest found
  rw [overlayAll_append_of_last silent found] at whole
  rw [deviceIdTold] at tells whole
  split at tells
  · rename_i told
    rw [if_pos told] at whole
    exact Option.some.inj whole
  · cases tells

theorem hostOf_of_silent
    (silent : latest addressTold later name = none → latest addressTold news name = none) :
    (notedAll heard (news ++ later)).hostOf name = (notedAll heard later).hostOf name := by
  rw [Heard.hostOf, Heard.hostOf, address_notedAll, address_notedAll,
    overlayAll_append_of_silent silent]

theorem hostOf_of_last (silent : latest addressTold later name = none)
    (found : latest addressTold news name = some item) :
    (notedAll heard (news ++ later)).hostOf name = dotted item.1.data := by
  rw [Heard.hostOf, address_notedAll, overlayAll_append_of_last silent found]
  have tells := tells_of_latest found
  rw [addressTold] at tells ⊢
  split at tells
  · rename_i told
    rw [if_pos told]
    rfl
  · cases tells

/-- The device id of a hub stays exactly when the last one that is told is its own. -/
theorem deviceId_kept_iff {did : String}
    (known : (notedAll heard later).deviceId name = some did) :
    (notedAll heard (news ++ later)).deviceId name = some did ↔
      (latest deviceIdTold later name = none → ∀ item, latest deviceIdTold news name = some item →
        (parseTxt item.1.data).get? "id" = some did) := by
  constructor
  · intro kept silent item found
    rw [← deviceId_of_last silent found, kept]
  · intro own
    cases silent : latest deviceIdTold later name with
    | some last =>
        have spoken : latest deviceIdTold later name ≠ none := silent ▸ Option.some_ne_none last
        rw [deviceId_of_silent fun none => absurd none spoken, known]
    | none =>
        cases found : latest deviceIdTold news name with
        | none => rw [deviceId_of_silent fun _ => found, known]
        | some item => rw [deviceId_of_last silent found, own silent item found]

/-- A hub that is reported without the packet is reported with it exactly when the packet keeps it. -/
theorem mem_finish_iff_keeps {hub : Hub} (reported : hub ∈ finish (notedAll heard later)) :
    hub ∈ finish (notedAll heard (news ++ later)) ↔ Keeps heard news later hub := by
  obtain ⟨aqara, fine, told, target, known, host⟩ := mem_finish_iff.mp reported
  rw [mem_finish_iff]
  constructor
  · rintro ⟨-, -, told', target', known', host'⟩
    refine ⟨(deviceId_kept_iff told).mp told', fun silent item found => ?_,
      fun silent other same quiet item found => ?_⟩
    · rw [endpoint_of_last silent found, Option.some.injEq, Prod.mk.injEq] at known'
      exact ⟨known'.1, known'.2 ▸ host'⟩
    · rw [endpoint_of_silent silent, same] at known'
      cases known'
      rw [← hostOf_of_last quiet found, host']
  · rintro ⟨deviceId, endpoint, address⟩
    refine ⟨aqara, fine, (deviceId_kept_iff told).mpr deviceId, ?_⟩
    have unsaid (silent : latest endpointTold later hub.name = none →
        latest endpointTold news hub.name = none) :
        ∃ target, (notedAll heard (news ++ later)).endpoint hub.name = some (hub.port, target) ∧
          (notedAll heard (news ++ later)).hostOf target = hub.host := by
      refine ⟨target, by rw [endpoint_of_silent silent, known], ?_⟩
      cases quiet : latest addressTold later target with
      | some last =>
          have spoken : latest addressTold later target ≠ none := quiet ▸ Option.some_ne_none last
          rw [hostOf_of_silent fun none => absurd none spoken, host]
      | none =>
          cases found : latest addressTold news target with
          | none => rw [hostOf_of_silent fun _ => found, host]
          | some item =>
              rw [hostOf_of_last quiet found, address silent target known quiet item found]
    cases silent : latest endpointTold later hub.name with
    | some last =>
        have spoken : latest endpointTold later hub.name ≠ none :=
          silent ▸ Option.some_ne_none last
        exact unsaid fun none => absurd none spoken
    | none =>
        cases found : latest endpointTold news hub.name with
        | none => exact unsaid fun _ => found
        | some item =>
            obtain ⟨port, host⟩ := endpoint silent item found
            exact ⟨item.2, by rw [endpoint_of_last silent found, port], host⟩

end

/-! ## Packets that a search tolerates -/

/-- What some packets bring, one after the other. -/
inductive BringsAll : List (List UInt8) → List (Record × String) → Prop
  | none : BringsAll [] []
  | more {packet : List UInt8} {packets : List (List UInt8)} {news later : List (Record × String)} :
      Brings packet news → BringsAll packets later → BringsAll (packet :: packets) (news ++ later)

theorem settles_hearAll (heard : Heard) (packets : List (List UInt8)) :
    ∃ outcome, Settles (fun fuel => hearAll fuel heard packets) outcome := by
  induction packets generalizing heard with
  | nil => exact ⟨_, yields_returns _⟩
  | cons packet packets induction =>
      simp only [hearAll, List.foldlM_cons]
      exact settles_bind (settles_onMessage heard packet) fun heard => induction heard

theorem yields_hearAll_iff {packets : List (List UInt8)} :
    Yields (fun fuel => hearAll fuel heard packets) heard' ↔
      ∃ news, BringsAll packets news ∧ heard' = notedAll heard news := by
  induction packets generalizing heard with
  | nil =>
      simp only [hearAll, List.foldlM_nil, pure_eq, yields_returns_iff]
      constructor
      · rintro rfl
        exact ⟨[], .none, rfl⟩
      · rintro ⟨_, ⟨⟩, rfl⟩
        rfl
  | cons packet packets induction =>
      simp only [hearAll, List.foldlM_cons] at induction ⊢
      rw [yields_bind_iff (settles_onMessage heard packet)]
      constructor
      · rintro ⟨next, first, others⟩
        obtain ⟨news, brings, rfl⟩ := yields_onMessage_iff.mp first
        obtain ⟨later, all, rfl⟩ := induction.mp others
        exact ⟨_, .more brings all, List.foldl_append.symm⟩
      · rintro ⟨_, ⟨⟩, rfl⟩
        rename_i news later brings all
        exact ⟨_, yields_onMessage_iff.mpr ⟨news, brings, rfl⟩,
          induction.mpr ⟨later, all, List.foldl_append⟩⟩

theorem yields_hubsAfter_iff {packets : List (List UInt8)} {hubs : List Hub} :
    Yields (fun fuel => hubsAfter fuel heard packets) hubs ↔
      ∃ news, BringsAll packets news ∧ finish (notedAll heard news) = hubs := by
  simp only [hubsAfter]
  rw [yields_bind_iff (settles_hearAll heard packets)]
  simp only [yields_returns_iff, yields_hearAll_iff]
  constructor
  · rintro ⟨_, ⟨news, all, rfl⟩, same⟩
    exact ⟨news, all, same⟩
  · rintro ⟨news, all, same⟩
    exact ⟨_, ⟨news, all, rfl⟩, same⟩

/-- The hubs that are found do not depend on how the packets are read. -/
theorem hubsAfter_unique {packets : List (List UInt8)} {hubs others : List Hub}
    (yields : Yields (fun fuel => hubsAfter fuel heard packets) hubs)
    (yields' : Yields (fun fuel => hubsAfter fuel heard packets) others) : hubs = others := by
  cases Settles.unique yields yields'
  rfl

/-- The packet stops nothing in a search that goes on with other packets: it still comes to its end,
and the hubs that are found without the packet are found with it, with the same device id, host and
port. -/
def Tolerated (heard : Heard) (packet : List UInt8) (packets : List (List UInt8))
    (hubs : List Hub) : Prop :=
  ∃ hubs', Yields (fun fuel => hubsAfter fuel heard (packet :: packets)) hubs' ∧
    ∀ hub ∈ hubs, hub ∈ hubs'

/-- A packet in which no name leads round in a circle, whose services have room for their port, and
which keeps the hubs that the other packets lead to. -/
structure Harmless (heard : Heard) (packet : List UInt8) (packets : List (List UInt8))
    (hubs : List Hub) : Prop where
  /-- No name that is read leads round in a circle. -/
  straight : Straight packet
  /-- The data of a service is long enough, and its target does not lead round in a circle. -/
  audible : ∀ records, Carries packet records → ∀ record ∈ records, Audible record
  /-- What it says of a hub is what the hub is reported with. -/
  keeps : ∀ news later, Brings packet news → BringsAll packets later →
    ∀ hub ∈ hubs, Keeps heard news later hub

theorem exists_brings (straight : Straight packet)
    (audible : ∀ records, Carries packet records → ∀ record ∈ records, Audible record) :
    ∃ news, Brings packet news := by
  obtain ⟨records, carries⟩ := exists_carries_iff.mpr straight
  obtain ⟨news, rfl, fine⟩ := exists_news (audible records carries)
  exact ⟨news, carries, fine⟩

/-- A search that has heard something finds its hubs in spite of a packet exactly when the packet is
harmless for it. -/
theorem tolerated_iff_harmless (heard : Heard) (packet : List UInt8) (packets : List (List UInt8))
    {hubs : List Hub} (found : Yields (fun fuel => hubsAfter fuel heard packets) hubs) :
    Tolerated heard packet packets hubs ↔ Harmless heard packet packets hubs := by
  constructor
  · rintro ⟨hubs', yields, kept⟩
    obtain ⟨_, ⟨⟩, same⟩ := yields_hubsAfter_iff.mp yields
    rename_i news later brings all
    refine ⟨exists_carries_iff.mp ⟨_, brings.1⟩, ?_, ?_⟩
    · intro records carries record member
      obtain rfl := carries.unique brings.1
      obtain ⟨item, there, rfl⟩ := List.mem_map.mp member
      exact (brings.2 item there).1
    · intro news' later' brings' all' hub member
      have without := hubsAfter_unique found (yields_hubsAfter_iff.mpr ⟨later', all', rfl⟩)
      have within := hubsAfter_unique yields
        (yields_hubsAfter_iff.mpr ⟨news' ++ later', .more brings' all', rfl⟩)
      refine (mem_finish_iff_keeps (without ▸ member)).mp ?_
      exact within ▸ kept hub member
  · intro harmless
    obtain ⟨news, brings⟩ := exists_brings harmless.straight harmless.audible
    obtain ⟨later, all, rfl⟩ := yields_hubsAfter_iff.mp found
    refine ⟨_, yields_hubsAfter_iff.mpr ⟨news ++ later, .more brings all, rfl⟩, ?_⟩
    intro hub member
    exact (mem_finish_iff_keeps member).mpr (harmless.keeps news later brings all hub member)

/-- A search that has found one hub. -/
def oneHub : Heard :=
  ⟨Dictionary.empty.set service ⟨some (4443, "hub.local"), some "lumi1"⟩, .empty⟩

/-- A packet with the address of a host without a name. -/
def strayAddress : List UInt8 :=
  [0, 0, 0x84, 0, 0, 0, 0, 1, 0, 0, 0, 0, 0, 0, 1, 0, 1, 0, 0, 0, 120, 0, 4, 10, 0, 0, 9]

theorem carries_strayAddress : Carries strayAddress [recordAt strayAddress "" 13] := by
  have names : Names strayAddress 12 "" 13 := ⟨[], 13, none, .root rfl, rfl, rfl⟩
  rw [Carries, if_neg (by decide)]
  exact ⟨12, .done, .record (by decide) names (by decide) .done⟩

/-- It says nothing of the hub. -/
theorem keeps_strayAddress {news later : List (Record × String)} (brings : Brings strayAddress news)
    (all : BringsAll [] later) {hub : Hub} (member : hub ∈ finish oneHub) :
    Keeps oneHub news later hub := by
  cases all
  obtain ⟨item, rest, rfl, only, others⟩ :=
    List.map_eq_cons_iff.mp (brings.1.unique carries_strayAddress)
  obtain rfl := List.map_eq_nil_iff.mp others
  have hubs : finish oneHub = [⟨"lumi1", "hub.local", 4443, service⟩] := by decide
  rw [hubs, List.mem_singleton] at member
  subst member
  have kind : item.1.type ≠ typeTxt ∧ item.1.type ≠ typeSrv ∧ item.1.name ≠ "hub.local" := by
    rw [only]
    decide
  refine ⟨fun _ other found => ?_, fun _ other found => ?_, fun _ target same _ other found => ?_⟩
  · have silent : latest deviceIdTold [item] service = none := by
      simp [latest, deviceIdTold, kind.1]
    exact absurd (silent.symm.trans found) (Option.some_ne_none other).symm
  · have silent : latest endpointTold [item] service = none := by
      simp [latest, endpointTold, kind.2.1]
    exact absurd (silent.symm.trans found) (Option.some_ne_none other).symm
  · have known : (notedAll oneHub []).endpoint service = some (4443, "hub.local") := by decide
    have own : target = "hub.local" := by simpa [known] using same.symm
    have silent : latest addressTold [item] target = none := by
      simp [latest, addressTold, own, kind.2.2]
    exact absurd (silent.symm.trans found) (Option.some_ne_none other).symm

/-- The hub is found in spite of the packet. -/
theorem tolerated_strayAddress :
    ⟨"lumi1", "hub.local", 4443, service⟩ ∈ finish oneHub ∧
      Tolerated oneHub strayAddress [] (finish oneHub) := by
  have found : Yields (fun fuel => hubsAfter fuel oneHub []) (finish oneHub) :=
    yields_hubsAfter_iff.mpr ⟨[], .none, rfl⟩
  refine ⟨by decide, (tolerated_iff_harmless oneHub strayAddress [] found).mpr ⟨?_, ?_, ?_⟩⟩
  · exact exists_carries_iff.mp ⟨_, carries_strayAddress⟩
  · intro records carries record member
    rw [carries.unique carries_strayAddress, List.mem_singleton] at member
    rw [member]
    exact fun srv => absurd srv (by decide)
  · exact fun news later brings all hub member => keeps_strayAddress brings all member

/-- A packet with one question, whose name is a pointer to itself. -/
def selfPointer : List UInt8 := [0, 0, 0, 0, 0, 1, 0, 0, 0, 0, 0, 0, 0xC0, 0x0C, 0, 12, 0, 1]

/-- The search never comes to its end. -/
theorem self_pointer_stops_search : ¬ Tolerated .nothing selfPointer [] [] := by
  rintro ⟨hubs, yields, -⟩
  obtain ⟨_, ⟨⟩, -⟩ := yields_hubsAfter_iff.mp yields
  rename_i brings _
  have straight := exists_carries_iff.mp ⟨_, brings.1⟩
  refine straight 1 0 12 (.start (by decide)) (Or.inl Nat.one_ne_zero) ?_
  exact ⟨0, 1, 12, Nat.one_pos, rfl, rfl⟩

end Discovery
end Port
end AqaraLanLink
