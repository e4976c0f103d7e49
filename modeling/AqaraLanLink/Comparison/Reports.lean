import AqaraLanLink.Port.Resilience
import AqaraLanLink.Reference.Device

/-!
# What the port and the reference hear

A report frame given to `AqaraPlatform.onMessage`, and the same frame given to
`HubCoordinator._dispatch_report` with an entity for every trait the port has.
-/

namespace AqaraLanLink
namespace Comparison

open Port Reference Library

/-- The reference's descriptor for a trait of the port. -/
def descriptorOf (code : String) (trait : Trait) : Descriptor :=
  .sensor code none (some trait.path)

/-- The reference's device with an entity for every trait of the port's device; each has been given
what the port's device holds. -/
def mirror (device : AqaraDevice) : Device where
  descriptors := device.capabilities.entries.map fun entry => descriptorOf entry.1 entry.2
  entities := device.capabilities.entries.map fun entry => descriptorOf entry.1 entry.2
  entities_subset := List.Subset.refl _
  pendingInitialValues := fun _ => []
  deliveredInitialValues := []
  given := fun descriptor _ =>
    match descriptor with
    | .sensor code _ _ => device.state code
    | _ => none

/-- What becomes of a message in the reference when the handler of every published device is
registered: `_dispatch_report` gives a report to the device it is for. -/
def dispatch (message : Json) (did : String) (device : Device) : Device :=
  match LANReport.fromEntity message with
  | some report => if report.isFor did then device.handleReport report.values else device
  | none => device

/-- The port hears a message as the reference does: `onMessage` returns, and every trait of every
published device then holds what the reference's entity has been given. -/
def HearsAlike (platform : Platform) (message : Json) : Prop :=
  ∃ result, platform.onMessage message = .ok result ∧
    ∀ did device, platform.devices.lookup did = some device →
      ∃ device', result.devices.lookup did = some device' ∧
        ∀ code trait, (code, trait) ∈ device.capabilities.entries →
          device'.state code =
            (dispatch message did (mirror device)).given (descriptorOf code trait) trait.path

/-- The values that a message reports for the device with this id, by wire key. -/
def reportedEntries (message : Json) (did : String) : List (String × Json) :=
  match LANReport.fromEntity message with
  | some report => if report.isFor did then report.values else []
  | none => []

/-- The wire paths of the catalogue have three parts. -/
def ThreePart (platform : Platform) : Prop :=
  ∀ did device, platform.devices.lookup did = some device →
    ∀ code trait, (code, trait) ∈ device.capabilities.entries →
      (splitDots trait.path).length = 3

/-- What the port takes from a message for a trait is what the reference takes from it: the last
value under the path itself in `attrs` or `values`, and the last one under the path with or without
an instance index in `value`. -/
def SaysAlike (device : AqaraDevice) (heard reported : List (String × Json)) : Prop :=
  ∀ code trait, (code, trait) ∈ device.capabilities.entries →
    Json.lastValue (fun path => path = trait.path) heard (device.state code) =
      Json.lastValue (fun key => canonicalizeReportKey key = trait.path) reported
        (device.state code)

theorem given_dispatch {device : AqaraDevice} {code : String} {trait : Trait}
    (member : (code, trait) ∈ device.capabilities.entries)
    (parts : (splitDots trait.path).length = 3) (message : Json) (did : String) :
    (dispatch message did (mirror device)).given (descriptorOf code trait) trait.path =
      Json.lastValue (fun key => canonicalizeReportKey key = trait.path)
        (reportedEntries message did) (device.state code) := by
  have bound : descriptorOf code trait ∈ (mirror device).entities :=
    List.mem_map.mpr ⟨(code, trait), member, rfl⟩
  have named : trait.path ∈ (descriptorOf code trait).traitIds := by
    have nonempty : trait.path ≠ "" := by
      intro empty
      rw [empty, splitDots_empty] at parts
      exact absurd parts (by decide)
    simp [descriptorOf, Descriptor.traitIds, Descriptor.named, nonempty]
  have handled : ∀ values, ((mirror device).handleReport values).given (descriptorOf code trait)
      trait.path = Json.lastValue (fun key => canonicalizeReportKey key = trait.path) values
        (device.state code) := by
    intro values
    rw [Device.handleReport_eq_withGiven, Device.withGiven]
    exact if_pos ⟨Or.inl named, bound⟩
  rw [dispatch, reportedEntries]
  cases LANReport.fromEntity message with
  | none => rfl
  | some report =>
      simp only
      cases report.isFor did with
      | false => rfl
      | true => exact handled report.values

/-- The path index of the port finds a trait under its own path only. -/
theorem lastValue_codeFor {device : AqaraDevice} {code : String} {trait : Trait}
    (member : (code, trait) ∈ device.capabilities.entries) (entries : List (String × Json))
    (held : Option Json) :
    Json.lastValue (fun path => device.codeFor path = some code) entries held =
      Json.lastValue (fun path => path = trait.path) entries held := by
  have same : ∀ path, device.codeFor path = some code ↔ path = trait.path := by
    intro path
    rw [AqaraDevice.codeFor_eq_some_iff]
    constructor
    · rintro ⟨spec, other⟩
      have unique := List.inj_on_of_nodup_map device.capabilities.codes_nodup other member rfl
      rw [Prod.mk.injEq] at unique
      rw [← unique.2]
    · rintro rfl
      exact ⟨trait.spec, member⟩
  simp only [same]

theorem hearsAlike_iff {platform : Platform} (catalogue : ThreePart platform) (message : Json) :
    HearsAlike platform message ↔
      platform.Quiet message ∧ ∀ did device, platform.devices.lookup did = some device →
        SaysAlike device (Platform.heardEntries message did) (reportedEntries message did) := by
  rw [← Platform.onMessage_returns_iff]
  constructor
  · rintro ⟨result, returned, alike⟩
    refine ⟨⟨result, returned⟩, fun did device published code trait member => ?_⟩
    obtain ⟨device', found, states⟩ := Platform.state_of_onMessage returned published
    obtain ⟨device'', found', given⟩ := alike did device published
    cases Option.some.inj (found.symm.trans found')
    rw [← given_dispatch member (catalogue did device published code trait member),
      ← given code trait member, states code, lastValue_codeFor member]
  · rintro ⟨⟨result, returned⟩, alike⟩
    refine ⟨result, returned, fun did device published => ?_⟩
    obtain ⟨device', found, states⟩ := Platform.state_of_onMessage returned published
    refine ⟨device', found, fun code trait member => ?_⟩
    rw [states code, lastValue_codeFor member, alike did device published code trait member,
      given_dispatch member (catalogue did device published code trait member)]

/-- A frame with the reference's field only: the port finds no entries in it. -/
theorem heardEntries_eq_nil {message data : Json} (payload : message.get? "data" = some data)
    (attrs : data.get? "attrs" = none) (values : data.get? "values" = none) (did : String) :
    Platform.heardEntries message did = [] := by
  have empty : ∀ payload : Json, payload.get? "attrs" = none → payload.get? "values" = none →
      (Platform.attrsOf payload).entries = [] := by
    intro payload attrs values
    rw [Platform.attrsOf, attrs, values]
    rfl
  simp only [Platform.heardEntries, payload]
  split
  · cases data with
    | null => exact empty _ rfl rfl
    | _ => exact empty _ attrs values
  · rfl

/-- The port hears a message as the reference does exactly when it is quiet for its device and says
the same to both.  One without `attrs` and `values` is heard exactly when every trait already holds
the last value reported for it. -/
theorem reports_heard_iff (platform : Platform) (catalogue : ThreePart platform) (message : Json) :
    (HearsAlike platform message ↔
      platform.Quiet message ∧ ∀ did device, platform.devices.lookup did = some device →
        SaysAlike device (Platform.heardEntries message did) (reportedEntries message did)) ∧
      ∀ data, message.get? "data" = some data → data.get? "attrs" = none →
        data.get? "values" = none →
        (HearsAlike platform message ↔
          ∀ did device, platform.devices.lookup did = some device →
            ∀ code trait, (code, trait) ∈ device.capabilities.entries →
              device.state code =
                Json.lastValue (fun key => canonicalizeReportKey key = trait.path)
                  (reportedEntries message did) (device.state code)) := by
  refine ⟨hearsAlike_iff catalogue message, fun data payload attrs values => ?_⟩
  rw [hearsAlike_iff catalogue message]
  have silent := heardEntries_eq_nil payload attrs values
  have quiet : platform.Quiet message := by
    intro did device _
    rw [silent did]
    exact AqaraDevice.quiet_nil device
  simp only [silent, quiet, true_and, SaysAlike, Json.lastValue_nil]

/-- The lamp, switched off. -/
def lampOff : AqaraDevice :=
  { lamp with state := fun code => if code = "OnOff" then some (.string "0") else none }

/-- A platform that has published it. -/
def lampPlatform : Platform := ⟨[("lumi.lamp", lampOff)]⟩

theorem threePart_lampPlatform : ThreePart lampPlatform := by
  intro did device published code trait member
  have only : device = lampOff := by
    simp only [lampPlatform, List.lookup_cons] at published
    split at published
    · exact (Option.some.inj published).symm
    · exact nomatch published
  have all : ∀ entry ∈ lampOff.capabilities.entries, (splitDots entry.2.path).length = 3 := by
    decide
  exact all (code, trait) (only ▸ member)

/-- The hub says that the lamp is on. -/
def lampReport : Json :=
  .object [("seq", .number 7), ("type", .string "device"), ("cmd", .string "report"),
    ("data", .object [("did", .string "lumi.hub"), ("sdid", .string "lumi.lamp"),
      ("value", .object [("2.132.32920.1", .string "1")])])]

theorem reports_heard_iff_lampPlatform :
    (HearsAlike lampPlatform lampReport ↔
      lampPlatform.Quiet lampReport ∧ ∀ did device, lampPlatform.devices.lookup did = some device →
        SaysAlike device (Platform.heardEntries lampReport did)
          (reportedEntries lampReport did)) ∧
      ∀ data, lampReport.get? "data" = some data → data.get? "attrs" = none →
        data.get? "values" = none →
        (HearsAlike lampPlatform lampReport ↔
          ∀ did device, lampPlatform.devices.lookup did = some device →
            ∀ code trait, (code, trait) ∈ device.capabilities.entries →
              device.state code =
                Json.lastValue (fun key => canonicalizeReportKey key = trait.path)
                  (reportedEntries lampReport did) (device.state code)) :=
  reports_heard_iff lampPlatform threePart_lampPlatform lampReport

/-- The reference gives its lamp the value, and the port's lamp stays off. -/
theorem lamp_report_unheard : ¬ HearsAlike lampPlatform lampReport := by
  rw [hearsAlike_iff threePart_lampPlatform]
  rintro ⟨-, alike⟩
  have heard : Platform.heardEntries lampReport "lumi.lamp" = [] := rfl
  have reported : reportedEntries lampReport "lumi.lamp" =
      [("2.132.32920.1", .string "1")] := rfl
  have canonical : canonicalizeReportKey "2.132.32920.1" = "2.132.32920" := by decide
  have said := alike "lumi.lamp" lampOff rfl "OnOff"
    ⟨"2.132.32920", ⟨some "OnOff", true, none, none, some "bool"⟩⟩ (by decide)
  rw [heard, reported] at said
  simp [lampOff, Json.lastValue_cons, canonical] at said

end Comparison
end AqaraLanLink
