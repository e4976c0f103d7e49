import AqaraLanLink.Port.MatterTwin

/-!
# Echoes

A controller that sends back what it has been shown.  An echo is ignored when the value that it
arrives at is the very value that the device holds.
-/

namespace AqaraLanLink
namespace Port

open Library

/-! ## The two scales -/

theorem mathRound_eq_iff {value : ℚ} {whole : ℤ} :
    mathRound value = whole ↔ whole - 1 / 2 ≤ value ∧ value < whole + 1 / 2 := by
  rw [mathRound, Int.floor_eq_iff]
  constructor
  · rintro ⟨low, high⟩
    exact ⟨by linarith, by linarith⟩
  · rintro ⟨low, high⟩
    exact ⟨by linarith, by linarith⟩

namespace MatterTwin

theorem cast_matterLevelMax : (matterLevelMax : ℚ) = 254 := by norm_num [matterLevelMax]

theorem fromMatterLevel_within (level : Option ℚ) :
    0 ≤ fromMatterLevel level ∧ fromMatterLevel level ≤ 100 :=
  ⟨le_max_left _ _, max_le (by norm_num) (min_le_left _ _)⟩

/-- A level within Matter's scale is the one that lies within half a step of the exact value. -/
theorem toMatterLevel_eq {value : ℚ} {level : ℤ} (within : 1 ≤ level ∧ level ≤ 254)
    (near : level - 1 / 2 ≤ value * (254 / 100) ∧ value * (254 / 100) < level + 1 / 2) :
    toMatterLevel (some value) = level := by
  rw [toMatterLevel, Option.getD_some, cast_matterLevelMax, matterLevelMax,
    mathRound_eq_iff.mpr near, min_eq_right within.2, max_eq_right within.1]

/-- A percentage within range is the one that lies within half a step of the exact value. -/
theorem fromMatterLevel_eq {level : ℚ} {percent : ℤ} (within : 0 ≤ percent ∧ percent ≤ 100)
    (near : percent - 1 / 2 ≤ level / (254 / 100) ∧ level / (254 / 100) < percent + 1 / 2) :
    fromMatterLevel (some level) = percent := by
  rw [fromMatterLevel, Option.getD_some, cast_matterLevelMax, mathRound_eq_iff.mpr near,
    min_eq_right within.2, max_eq_right within.1]

/-- A whole percentage but nothing has a level within half a step of its exact value. -/
theorem toMatterLevel_near {percent : ℤ} (low : 1 ≤ percent) (high : percent ≤ 100) :
    (toMatterLevel (some percent) - 1 / 2 : ℚ) ≤ percent * (254 / 100) ∧
      percent * (254 / 100) < (toMatterLevel (some percent) + 1 / 2 : ℚ) := by
  have low' : (1 : ℚ) ≤ percent := by exact_mod_cast low
  have high' : (percent : ℚ) ≤ 100 := by exact_mod_cast high
  obtain ⟨below, above⟩ := mathRound_eq_iff.mp
    (rfl : mathRound (percent * (254 / 100)) = mathRound (percent * (254 / 100)))
  have least : 0 < mathRound (percent * (254 / 100)) := by
    have least' : (0 : ℚ) < mathRound (percent * (254 / 100)) := by linarith
    exact_mod_cast least'
  have most : mathRound (percent * (254 / 100)) < 255 := by
    have most' : (mathRound (percent * (254 / 100)) : ℚ) < 255 := by linarith
    exact_mod_cast most'
  rw [toMatterLevel_eq ⟨by omega, by omega⟩ ⟨below, above⟩]
  exact ⟨below, above⟩

/-- A whole percentage comes back from Matter's scale. -/
theorem fromMatterLevel_toMatterLevel {percent : ℤ} (low : 0 ≤ percent) (high : percent ≤ 100) :
    fromMatterLevel (some (toMatterLevel (some percent))) = percent := by
  refine fromMatterLevel_eq ⟨low, high⟩ ?_
  rcases eq_or_lt_of_le low with rfl | lit
  · have dimmest : toMatterLevel (some (0 : ℤ)) = 1 := by
      have off : mathRound ((0 : ℤ) * (254 / 100)) = 0 := mathRound_eq_iff.mpr (by norm_num)
      rw [toMatterLevel, Option.getD_some, cast_matterLevelMax, off]
      rfl
    rw [dimmest]
    norm_num
  · obtain ⟨below, above⟩ := toMatterLevel_near lit high
    rw [le_div_iff₀ (by norm_num), div_lt_iff₀ (by norm_num)]
    exact ⟨by linarith, by linarith⟩

/-! ## What is shown -/

variable (textual : Json → Option ℚ) (device : AqaraDevice)

theorem shown_onOff : (clusters textual device).shown ("onOff", "onOff") =
    if device.can "OnOff" then some (.bool (device.has "OnOff" (.bool true))) else none := by
  cases can : device.can "OnOff" <;>
    simp [clusters, Clusters.shown, List.lookup_append, Clusters.lookup_given, can]

theorem shown_level : (clusters textual device).shown ("levelControl", "currentLevel") =
    if device.can "CurrentLevel" then
      some (.number (some (toMatterLevel (device.numberOf textual "CurrentLevel"))))
    else none := by
  cases can : device.can "CurrentLevel" <;>
    simp [clusters, Clusters.shown, List.lookup_append, Clusters.lookup_given, can]

theorem shown_mireds :
    (clusters textual device).shown ("colorControl", "colorTemperatureMireds") =
      if device.can "ColorTemperature" then
        some (.number ((orElse (device.numberOf textual "ColorTemperature")
          (device.minValue "ColorTemperature")).map fun mireds => mathRound mireds))
      else none := by
  cases can : device.can "ColorTemperature" <;>
    simp [clusters, Clusters.shown, List.lookup_append, Clusters.lookup_given, can]

end MatterTwin

/-! ## Echoes -/

/-- A command that sends back what a cluster shows. -/
def Clusters.Echoes (clusters : Clusters) : MatterCommand → Prop
  | .on => clusters.shown ("onOff", "onOff") = some (.bool true)
  | .off => clusters.shown ("onOff", "onOff") = some (.bool false)
  | .moveToLevel level | .moveToLevelWithOnOff level =>
      clusters.shown ("levelControl", "currentLevel") = some (.number level)
  | .moveToColorTemperatureLogic mireds =>
      clusters.shown ("colorControl", "colorTemperatureMireds") = some (.number mireds)

namespace AqaraDevice

/-- A write of the trait reaches the hub. -/
def Writes (device : AqaraDevice) (code : String) : Prop :=
  ∃ trait, device.capabilities.entries.lookup code = some trait ∧ trait.spec.writable = true ∧
    device.hasHub = true

/-- What the device holds for the traits that controllers write is what their echoes arrive at. -/
structure EchoSafe (textual : Json → Option ℚ) (device : AqaraDevice) : Prop where
  /-- Whether it is on is known, as a truth value. -/
  onOff : device.Writes "OnOff" → ∃ value, device.state "OnOff" = some (.bool value)
  /-- The level is known, as a whole number of percent. -/
  level : device.Writes "CurrentLevel" →
    ∃ percent : ℕ, percent ≤ 100 ∧ device.state "CurrentLevel" = some (.number percent)
  /-- The colour temperature is known, as a whole number that is not taken for nothing known; or
  nothing is known of it and the catalogue has no `min_value` to show in its place. -/
  mireds : device.Writes "ColorTemperature" →
    (∃ mireds : ℤ, device.state "ColorTemperature" = some (.number mireds) ∧
      (mireds = 0 → (device.minValue "ColorTemperature").map mathRound = some 0)) ∨
    device.minValue "ColorTemperature" = none ∧
      (device.numberOf textual "ColorTemperature").getD 0 = 0

theorem setRequest_eq_none_iff {device : AqaraDevice} {code : String} {value : Json} :
    device.setRequest code value = none ↔ ¬ device.Writes code := by
  rw [setRequest, Writes]
  cases device.capabilities.entries.lookup code with
  | none => simp
  | some trait => simp

theorem can_of_writes {device : AqaraDevice} {code : String} (writes : device.Writes code) :
    device.can code = true := by
  obtain ⟨trait, found, -⟩ := writes
  rw [can, found]
  rfl

/-- The device holds exactly what is asked for, unless that is `NaN`. -/
def Holds (device : AqaraDevice) (code : String) (value : Attribute) : Prop :=
  ∀ json, value.json = some json → device.state code = some json

theorem strictEq_json {value : Attribute} {json : Json} (said : value.json = some json) :
    json.strictEq json = true := by
  cases value with
  | bool value =>
      cases said
      exact beq_self_eq_true value
  | number value =>
      obtain ⟨number, -, rfl⟩ := Option.map_eq_some_iff.mp said
      exact beq_self_eq_true number

theorem has_json_iff {device : AqaraDevice} {code : String} {value : Attribute} {json : Json}
    (said : value.json = some json) :
    device.has code json = true ↔ device.state code = some json := by
  rw [has_eq_true_iff]
  constructor
  · rintro ⟨known, held, equal⟩
    rw [held, Json.eq_of_strictEq equal]
  · exact fun held => ⟨json, held, strictEq_json said⟩

end AqaraDevice

namespace MatterTwin

variable {twin : MatterTwin} {device : AqaraDevice} {now : ℤ}

/-- Outside the settle window a command asks for a write unless the device holds what it says. -/
theorem hubWrite_eq_none_iff {command : MatterCommand}
    (settled : twin.justReported now command.cluster = false) :
    twin.hubWrite device now command = none ↔
      (device.Writes command.code → device.Holds command.code command.value) := by
  cases can : device.can command.code with
  | false =>
      have silent : ¬ device.Writes command.code := fun writes => by
        rw [AqaraDevice.can_of_writes writes] at can
        cases can
      simp [hubWrite, handle, can, silent]
  | true =>
      rw [hubWrite, handle, if_pos can, MatterTwin.command, settled]
      simp only [Bool.false_or]
      cases asked : command.value.json with
      | none => simp [AqaraDevice.Holds, asked]
      | some json =>
          have holds : device.Holds command.code command.value ↔
              device.has command.code json = true := by
            rw [AqaraDevice.has_json_iff asked, AqaraDevice.Holds, asked]
            exact ⟨fun holds => holds json rfl, fun held _ same => same ▸ held⟩
          rw [holds]
          cases held : device.has command.code json with
          | true => simp [held]
          | false => simp [held, AqaraDevice.setRequest_eq_none_iff]

variable {textual : Json → Option ℚ}

theorem orElse_zero (otherwise : Option ℚ) : orElse (some 0) otherwise = otherwise := by
  simp [orElse]

theorem orElse_eq_none_iff {number otherwise : Option ℚ} :
    orElse number otherwise = none ↔ otherwise = none ∧ number.getD 0 = 0 := by
  cases number with
  | none => simp [orElse]
  | some value =>
      rcases eq_or_ne value 0 with zero | known
      · simp [orElse, zero]
      · simp [orElse, known]

theorem numberOf_of_number {code : String} {value : ℚ}
    (held : device.state code = some (.number value)) :
    device.numberOf textual code = some value := by
  rw [AqaraDevice.numberOf, held]
  rfl

/-- The echo of the power switch says what is held when that is a truth value. -/
theorem onOff_holds_iff (can : device.can "OnOff" = true) :
    (∀ value, (clusters textual device).shown ("onOff", "onOff") = some (.bool value) →
      device.Holds "OnOff" (.bool value)) ↔
    ∃ value, device.state "OnOff" = some (.bool value) := by
  rw [shown_onOff, if_pos can]
  constructor
  · exact fun held => ⟨_, held _ rfl _ rfl⟩
  · rintro ⟨value, held⟩ echoed shown json said
    have known : device.has "OnOff" (.bool true) = value := by
      rw [AqaraDevice.has, held]
      cases value <;> rfl
    rw [known] at shown
    cases shown
    cases said
    exact held

/-- The echo of the level says what is held when that is a whole percentage. -/
theorem level_holds_iff (can : device.can "CurrentLevel" = true) :
    (∀ level, (clusters textual device).shown ("levelControl", "currentLevel") =
        some (.number level) →
      device.Holds "CurrentLevel" (.number (some (fromMatterLevel level)))) ↔
    ∃ percent : ℕ, percent ≤ 100 ∧ device.state "CurrentLevel" = some (.number percent) := by
  rw [shown_level, if_pos can]
  constructor
  · intro held
    obtain ⟨low, high⟩ := fromMatterLevel_within
      (some (toMatterLevel (device.numberOf textual "CurrentLevel")))
    obtain ⟨percent, exact⟩ := Int.eq_ofNat_of_zero_le low
    have echoed := held _ rfl _ rfl
    rw [exact] at echoed
    exact ⟨percent, by omega, echoed⟩
  · rintro ⟨percent, within, held⟩ level shown json said
    rw [numberOf_of_number held] at shown
    have kept : fromMatterLevel (some (toMatterLevel (some (percent : ℤ)))) = percent :=
      fromMatterLevel_toMatterLevel (by omega) (by omega)
    cases shown
    rw [← Int.cast_natCast, kept] at said
    cases said
    exact held

/-- The echo of the colour temperature says what is held when that is a whole number and was not
replaced by the default, or there is nothing to show. -/
theorem mireds_holds_iff (can : device.can "ColorTemperature" = true) :
    (∀ mireds, (clusters textual device).shown ("colorControl", "colorTemperatureMireds") =
        some (.number mireds) →
      device.Holds "ColorTemperature" (.number (mireds.map fun mireds => mathRound mireds))) ↔
    (∃ mireds : ℤ, device.state "ColorTemperature" = some (.number mireds) ∧
      (mireds = 0 → (device.minValue "ColorTemperature").map mathRound = some 0)) ∨
    device.minValue "ColorTemperature" = none ∧
      (device.numberOf textual "ColorTemperature").getD 0 = 0 := by
  rw [shown_mireds, if_pos can]
  constructor
  · intro held
    cases shown : orElse (device.numberOf textual "ColorTemperature")
        (device.minValue "ColorTemperature") with
    | none => exact Or.inr (orElse_eq_none_iff.mp shown)
    | some value =>
        have echoed := held (some (mathRound value)) (by rw [shown, Option.map_some]) _ rfl
        simp only [mathRound_intCast] at echoed
        refine Or.inl ⟨mathRound value, echoed, fun zero => ?_⟩
        rw [numberOf_of_number echoed, zero, Int.cast_zero, orElse_zero] at shown
        rw [shown, Option.map_some, zero]
  · rintro (⟨whole, held, default⟩ | missing) mireds shown json said
    · have echoed : mireds = some (whole : ℚ) := by
        rw [numberOf_of_number held] at shown
        rcases eq_or_ne whole 0 with zero | known
        · obtain ⟨low, least, rounded⟩ := Option.map_eq_some_iff.mp (default zero)
          rw [zero, Int.cast_zero, orElse_zero, least, Option.map_some, rounded] at shown
          cases shown
          rw [zero]
        · rw [orElse, if_neg (Int.cast_ne_zero.mpr known), Option.map_some,
            mathRound_intCast] at shown
          cases shown
          rfl
      rw [echoed, Option.map_some, mathRound_intCast] at said
      cases said
      exact held
    · rw [orElse_eq_none_iff.mpr missing] at shown
      cases shown
      cases said

/-- The echoes are those of the power switch, of the level and of the colour temperature. -/
theorem forall_echoes_iff (clusters : Clusters) (holds : String → Attribute → Prop) :
    (∀ command, clusters.Echoes command → holds command.code command.value) ↔
      (∀ value, clusters.shown ("onOff", "onOff") = some (.bool value) →
        holds "OnOff" (.bool value)) ∧
      (∀ level, clusters.shown ("levelControl", "currentLevel") = some (.number level) →
        holds "CurrentLevel" (.number (some (fromMatterLevel level)))) ∧
      ∀ mireds, clusters.shown ("colorControl", "colorTemperatureMireds") = some (.number mireds) →
        holds "ColorTemperature" (.number (mireds.map fun mireds => mathRound mireds)) := by
  constructor
  · intro held
    refine ⟨fun value shown => ?_, fun level => held (.moveToLevel level),
      fun mireds => held (.moveToColorTemperatureLogic mireds)⟩
    cases value with
    | true => exact held .on shown
    | false => exact held .off shown
  · rintro ⟨power, level, colour⟩ command echoes
    cases command with
    | on => exact power true echoes
    | off => exact power false echoes
    | moveToLevel asked => exact level asked echoes
    | moveToLevelWithOnOff asked => exact level asked echoes
    | moveToColorTemperatureLogic asked => exact colour asked echoes

/-- Outside the settle window no echo causes a write exactly when the device holds what the echoes
of the traits that can be written arrive at. -/
theorem echoes_ignored_iff (textual : Json → Option ℚ) (device : AqaraDevice) {clusters : Clusters}
    (shown : state textual device = .ok clusters) (twin : MatterTwin) (now : ℤ)
    (settled : ∀ cluster, twin.justReported now cluster = false) :
    (∀ command, clusters.Echoes command → twin.hubWrite device now command = none) ↔
      device.EchoSafe textual := by
  obtain ⟨-, shows⟩ := state_eq_ok_iff.mp shown
  simp only [hubWrite_eq_none_iff (settled _)]
  rw [forall_echoes_iff clusters fun code value => device.Writes code → device.Holds code value,
    shows]
  constructor
  · rintro ⟨power, level, colour⟩
    refine ⟨fun writes => ?_, fun writes => ?_, fun writes => ?_⟩
    · exact (onOff_holds_iff (AqaraDevice.can_of_writes writes)).mp fun value shown =>
        power value shown writes
    · exact (level_holds_iff (AqaraDevice.can_of_writes writes)).mp fun value shown =>
        level value shown writes
    · exact (mireds_holds_iff (AqaraDevice.can_of_writes writes)).mp fun value shown =>
        colour value shown writes
  · intro safe
    refine ⟨fun value shown writes => ?_, fun level shown writes => ?_,
      fun mireds shown writes => ?_⟩
    · exact (onOff_holds_iff (AqaraDevice.can_of_writes writes)).mpr (safe.onOff writes) value shown
    · exact (level_holds_iff (AqaraDevice.can_of_writes writes)).mpr (safe.level writes) level shown
    · exact (mireds_holds_iff (AqaraDevice.can_of_writes writes)).mpr (safe.mireds writes) mireds
        shown

end MatterTwin

/-! ## A lamp -/

/-- `lamp` as a report of its level leaves it. -/
def lampAt (level : ℚ) : AqaraDevice := lamp.setState "CurrentLevel" (.number level)

/-- `lampAt 50`, switched on. -/
def litLamp : AqaraDevice := (lampAt 50).setState "OnOff" (.bool true)

theorem litLamp_echoes : (MatterTwin.clusters (fun _ => none) litLamp).Echoes .on ∧
    (MatterTwin.clusters (fun _ => none) litLamp).Echoes (.moveToLevel (some 127)) := by
  constructor
  · rw [Clusters.Echoes, MatterTwin.shown_onOff]
    rfl
  · have level : MatterTwin.toMatterLevel (litLamp.numberOf (fun _ => none) "CurrentLevel") = 127 :=
      @MatterTwin.toMatterLevel_eq 50 127 (by norm_num) (by norm_num)
    rw [Clusters.Echoes, MatterTwin.shown_level, level]
    rfl

/-- A lamp that is on at half its level ignores the echoes of both. -/
theorem lit_lamp_ignores_echoes :
    MatterTwin.create.hubWrite litLamp 4000 .on = none ∧
      MatterTwin.create.hubWrite litLamp 4000 (.moveToLevel (some 127)) = none := by
  have shown : MatterTwin.state (fun _ => none) litLamp =
      .ok (MatterTwin.clusters (fun _ => none) litLamp) := rfl
  have safe : litLamp.EchoSafe fun _ => none := by
    refine ⟨fun _ => ⟨true, rfl⟩, fun _ => ⟨50, by omega, rfl⟩, fun writes => ?_⟩
    have absent := AqaraDevice.can_of_writes writes
    cases absent
  have ignored := (MatterTwin.echoes_ignored_iff (fun _ => none) litLamp shown .create 4000
    fun _ => rfl).mpr safe
  exact ⟨ignored _ litLamp_echoes.1, ignored _ litLamp_echoes.2⟩

/-- The echo of a lamp of which nothing is known switches it off, and that of a level of 42.5 sets
the level. -/
theorem unknown_lamp_writes :
    ((MatterTwin.clusters (fun _ => none) lamp).Echoes .off ∧
      MatterTwin.create.hubWrite lamp 4000 .off =
        some ("lumi.lamp", [("2.132.32920", .bool false)])) ∧
      (MatterTwin.clusters (fun _ => none) (lampAt (85 / 2))).Echoes (.moveToLevel (some 108)) ∧
        MatterTwin.create.hubWrite (lampAt (85 / 2)) 4000 (.moveToLevel (some 108)) =
          some ("lumi.lamp", [("2.133.32923", .number 43)]) := by
  have level : MatterTwin.toMatterLevel
      ((lampAt (85 / 2)).numberOf (fun _ => none) "CurrentLevel") = 108 :=
    @MatterTwin.toMatterLevel_eq (85 / 2) 108 (by norm_num) (by norm_num)
  have percent : (MatterCommand.moveToLevel (some 108)).value = .number (some 43) := by
    rw [MatterCommand.value,
      @MatterTwin.fromMatterLevel_eq 108 43 (by norm_num) (by norm_num)]
    rfl
  have other : (lampAt (85 / 2)).has "CurrentLevel" (.number 43) = false := by
    norm_num [AqaraDevice.has, lampAt, AqaraDevice.setState, Json.strictEq]
  refine ⟨⟨?_, rfl⟩, ?_, ?_⟩
  · rw [Clusters.Echoes, MatterTwin.shown_onOff]
    rfl
  · rw [Clusters.Echoes, MatterTwin.shown_level, level]
    rfl
  · have sets : MatterTwin.create.handle (lampAt (85 / 2)) 4000 (.moveToLevel (some 108)) =
        some (.sets (.number 43)) := by
      change some (MatterTwin.create.command (lampAt (85 / 2)) 4000 "levelControl" "CurrentLevel"
        (MatterCommand.moveToLevel (some 108)).value) = _
      rw [percent, MatterTwin.command, Attribute.json, Option.map_some]
      simp only [other]
      rfl
    rw [MatterTwin.hubWrite, sets]
    rfl

end Port
end AqaraLanLink
