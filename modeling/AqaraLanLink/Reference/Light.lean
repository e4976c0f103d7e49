import AqaraLanLink.Library.Rounding
import AqaraLanLink.Reference.Codecs
import AqaraLanLink.Reference.Device
import AqaraLanLink.Reference.DeviceTypes

/-!
# Lights

`AqaraLight` of `light.py`: what it makes of the reports of a light, and what it writes when it is
turned on.  A light that is turned on with what it shows, as a scene does that has kept it, is told
what it has last told itself.
-/

namespace AqaraLanLink
namespace Reference
namespace Light

open Library Rounding DeviceTypes JsonText

/-! ## The entity -/

/-- `ColorMode`. -/
inductive ColorMode where
  | onOff
  | brightness
  | colorTemp
  | xy
  deriving DecidableEq, Repr

/-- `_resolve_color_modes`: the supported modes, and the mode of a new light. -/
def resolveColorModes (part : LightPart) : List ColorMode × ColorMode :=
  let colors := (if part.colorXyTrait.isSome then [ColorMode.xy] else []) ++
    if part.colorTempTrait.isSome then [ColorMode.colorTemp] else []
  let modes :=
    if colors ≠ [] then colors
    else if part.brightnessTrait.isSome then [.brightness]
    else [.onOff]
  (modes,
    if .colorTemp ∈ modes then .colorTemp
    else if .xy ∈ modes then .xy
    else if .brightness ∈ modes then .brightness
    else .onOff)

/-- What a light shows. -/
structure Shown where
  isOn : Option Bool
  brightness : Option ℤ
  colorTempKelvin : Option ℤ
  xyColor : Option (ℚ × ℚ)
  colorMode : ColorMode
  deriving DecidableEq

/-- `__init__`. -/
def Shown.new (part : LightPart) : Shown where
  isOn := none
  brightness := none
  colorTempKelvin := none
  xyColor := none
  colorMode := (resolveColorModes part).2

/-- What is raised. -/
inductive LightException where
  | valueError
  | zeroDivisionError
  | overflowError
  deriving DecidableEq, Repr

/-- What `float` makes of a text. -/
inductive Reading where
  | finite (value : ℚ)
  | infinite
  | notANumber
  /-- `ValueError`. -/
  | raises
  deriving DecidableEq

/-- `round` of a quotient of floats; on whole numbers as a light reports them it comes out as on
their exact quotient. -/
def Reading.round (scale : ℚ → Except LightException ℚ) (infinite : Except LightException ℤ) :
    Reading → Except LightException ℤ
  | .finite value => (scale value).map roundHalfEven
  | .infinite => infinite
  | .notANumber => .error .valueError
  | .raises => .error .valueError

/-- A quotient, which raises when it divides by zero. -/
def divided (numerator denominator : ℚ) : Except LightException ℚ :=
  if denominator = 0 then .error .zeroDivisionError else .ok (numerator / denominator)

section

variable (float : String → Reading)

/-- `apply_value`. -/
def applyValue (part : LightPart) (shown : Shown) (component : Option Component) (raw : String) :
    Except LightException Shown :=
  if raw = "" then .ok shown
  else
    match component with
    | some .power => .ok { shown with isOn := some (raw = "1") }
    | some .brightness => do
        let brightness ← (float raw).round (fun value => .ok (value * 255 / 100))
          (.error .overflowError)
        .ok { shown with brightness := some brightness }
    | some .colorTemp => do
        let kelvin ←
          match part.colorTempWireUnit with
          | .mired => (float raw).round (divided 1000000) (.ok 0)
          | .kelvin => (float raw).round .ok (.error .overflowError)
        .ok { shown with colorTempKelvin := some kelvin, colorMode := .colorTemp }
    | some .colorXy =>
        match Python.int raw.toList with
        | none => .error .valueError
        | some packed =>
            let x := ((packed / 65536 % 65536 : ℤ) : ℚ) / 65535
            let y := ((packed % 65536 : ℤ) : ℚ) / 65535
            .ok { shown with xyColor := some (x, y), colorMode := .xy }
    | none => .ok shown

/-- A report reaches the light; what is raised at it is logged. -/
def receive (part : LightPart) (shown : Shown) (report : Component × String) : Shown :=
  match applyValue float part shown (some report.1) report.2 with
  | .ok after => after
  | .error _ => shown

end

/-- What a light is turned on with. -/
structure TurnOn where
  brightness : Option ℤ
  colorTempKelvin : Option ℤ
  xyColor : Option (ℚ × ℚ)

/-- `_color_temp_to_wire`. -/
def colorTempToWire (part : LightPart) (kelvin : ℤ) : Except LightException String :=
  match part.colorTempWireUnit with
  | .mired => (divided 1000000 kelvin).map fun mired => toString (roundHalfEven mired)
  | .kelvin => .ok (toString kelvin)

/-- The two coordinates in one number. -/
def packXy (xy : ℚ × ℚ) : ℕ :=
  let xInt := (roundHalfEven (xy.1 * 65535) % 65536).toNat
  let yInt := (roundHalfEven (xy.2 * 65535) % 65536).toNat
  xInt <<< 16 ||| yInt

/-- `_build_turn_on_writes`. -/
def buildTurnOnWrites (part : LightPart) (kwargs : TurnOn) :
    Except LightException (List (AttrSpec × String)) := do
  let power := [(part.powerAttr, "1")]
  let dimmed :=
    match kwargs.brightness, part.brightnessAttr with
    | some brightness, some attr =>
        Dictionary.setEntries power attr
          (toString (roundHalfEven ((brightness : ℚ) * 100 / 255)))
    | _, _ => power
  let tempered ←
    match kwargs.colorTempKelvin, part.colorTempAttr with
    | some kelvin, some attr =>
        (colorTempToWire part kelvin).map (Dictionary.setEntries dimmed attr)
    | _, _ => .ok dimmed
  .ok (match kwargs.xyColor, part.colorXyAttr with
    | some xy, some attr => Dictionary.setEntries tempered attr (toString (packXy xy))
    | _, _ => tempered)

/-- The brightness that a percentage is shown as. -/
def brightnessOf (percent : ℕ) : ℤ := roundHalfEven ((percent : ℚ) * 255 / 100)

/-- The kelvin that a number is shown as. -/
def kelvinOf (part : LightPart) (wire : ℕ) : ℤ :=
  match part.colorTempWireUnit with
  | .mired => roundHalfEven (1000000 / (wire : ℚ))
  | .kelvin => wire

/-- The coordinates that a packed number is shown as. -/
def coordinates (packed : ℕ) : ℚ × ℚ :=
  (((packed / 65536 % 65536 : ℤ) : ℚ) / 65535, ((packed % 65536 : ℤ) : ℚ) / 65535)

/-! ## Whole numbers there and back -/

theorem roundHalfEven_eq (value : ℚ) : roundHalfEven value = halfEven value := rfl

theorem roundHalfEven_mono {first second : ℚ} (le : first ≤ second) :
    roundHalfEven first ≤ roundHalfEven second := halfEven_mono le

theorem roundHalfEven_natCast (value : ℕ) : roundHalfEven (value : ℚ) = value := by
  exact_mod_cast halfEven_intCast (K := ℚ) value

/-- A percentage comes back from the brightness that it is shown as. -/
theorem percent_of_brightness (percent : ℕ) :
    roundHalfEven ((brightnessOf percent : ℚ) * 100 / 255) = percent := by
  have scales := halfEven_mul_div (show (1 : ℚ) < 255 / 100 by norm_num) percent
  have there : (percent : ℚ) * 255 / 100 = ((percent : ℤ) : ℚ) * (255 / 100) := by
    rw [Int.cast_natCast]
    ring
  have back (brightness : ℚ) : brightness * 100 / 255 = brightness / (255 / 100) := by ring
  rw [brightnessOf, roundHalfEven_eq, roundHalfEven_eq, there, back, scales]

/-- Mired come back from the kelvin that they are shown as. -/
theorem mired_of_kelvin {mired : ℤ} (positive : 1 ≤ mired) (within : mired ≤ 1000) :
    divided 1000000 (roundHalfEven (1000000 / (mired : ℚ))) = .ok
        (1000000 / (roundHalfEven (1000000 / (mired : ℚ)) : ℚ)) ∧
      roundHalfEven (1000000 / (roundHalfEven (1000000 / (mired : ℚ)) : ℚ)) = mired := by
  have total : ((1000000 : ℤ) : ℚ) = 1000000 := by norm_num
  have back := halfEven_div_halfEven_div (K := ℚ) (show 0 < mired by omega)
    (show mired * mired ≤ 1000000 by nlinarith)
  rw [total] at back
  refine ⟨if_neg fun zero => ?_, back⟩
  rw [roundHalfEven_eq] at zero
  rw [zero, div_zero] at back
  have none : roundHalfEven (0 : ℚ) = 0 := roundHalfEven_natCast 0
  rw [← roundHalfEven_eq] at back
  omega

/-- A packed number comes back from its coordinates. -/
theorem packXy_coordinates {packed : ℕ} (fits : packed < 2 ^ 32) :
    packXy (coordinates packed) = packed := by
  have scaled (coordinate : ℤ) : roundHalfEven ((coordinate : ℚ) / 65535 * 65535) = coordinate := by
    rw [div_mul_cancel₀ _ (by norm_num), roundHalfEven_eq, halfEven_intCast]
  rw [packXy]
  simp only [coordinates, scaled]
  have high : ((packed : ℤ) / 65536 % 65536 % 65536).toNat = packed / 65536 := by omega
  have low : ((packed : ℤ) % 65536 % 65536).toNat = packed % 65536 := by omega
  have small : packed % 65536 < 2 ^ 16 := Nat.mod_lt packed (by decide)
  rw [high, low, Codecs.packed_eq small]
  omega

/-! ## What a light has told -/

/-- What the hub hands a light: the components that it has, in the texts that its firmware writes,
and empty texts.  Mired go up to 1000. -/
inductive Told (part : LightPart) : Component → String → Prop
  | silent (component : Component) : Told part component ""
  | power (on : Bool) : Told part .power (if on then "1" else "0")
  | brightness {percent : ℕ} (within : percent ≤ 100) : Told part .brightness (toString percent)
  | colorTemp {wire : ℕ} (has : part.colorTempTrait.isSome) (positive : 1 ≤ wire)
      (within : wire < 2 ^ 53) (mired : part.colorTempWireUnit = .mired → wire ≤ 1000) :
      Told part .colorTemp (toString wire)
  | colorXy {packed : ℕ} (has : part.colorXyTrait.isSome) (fits : packed < 2 ^ 32) :
      Told part .colorXy (toString packed)

/-- The last text of a component that is not empty. -/
def lastTold (reports : List (Component × String)) (component : Component) : Option String :=
  ((reports.filter fun report => report.1 = component ∧ report.2 ≠ "").getLast?).map Prod.snd

theorem lastTold_concat (reports : List (Component × String)) (report : Component × String)
    (component : Component) :
    lastTold (reports ++ [report]) component =
      if report.1 = component ∧ report.2 ≠ "" then some report.2 else lastTold reports component := by
  rw [lastTold, List.filter_append]
  by_cases tells : report.1 = component ∧ report.2 ≠ ""
  · rw [if_pos tells, List.filter_cons_of_pos (by simpa using tells), List.filter_nil,
      List.getLast?_concat, Option.map_some]
  · rw [if_neg tells, List.filter_cons_of_neg (by simpa using tells), List.filter_nil,
      List.append_nil, lastTold]

/-- `float` reads whole numbers. -/
def ReadsWhole (float : String → Reading) : Prop :=
  ∀ value : ℕ, value < 2 ^ 53 → float (toString value) = .finite value

/-- What is shown of a number that has been told, if one has. -/
inductive Mirrored {α : Type} (reads : ℕ → α → Prop) : Option String → Option α → Prop
  | untold : Mirrored reads none none
  | told {wire : ℕ} {value : α} (read : reads wire value) :
      Mirrored reads (some (toString wire)) (some value)

/-- A number of a component and what is shown of it, which is written as this number again. -/
structure Colored (part : LightPart) (wire : ℕ) (kelvin : ℤ) : Prop where
  shows : kelvin = kelvinOf part wire
  back : colorTempToWire part kelvin = .ok (toString wire)

/-- What a light shows is what it has told. -/
structure Mirrors (part : LightPart) (shown : Shown) (told : Component → Option String) : Prop where
  isOn : shown.isOn = (told .power).map fun raw => decide (raw = "1")
  brightness : Mirrored (fun percent value => value = brightnessOf percent) (told .brightness)
    shown.brightness
  colorTemp : Mirrored (Colored part) (told .colorTemp) shown.colorTempKelvin
  colorXy : Mirrored (fun packed xy => xy = coordinates packed ∧ packXy xy = packed) (told .colorXy)
    shown.xyColor
  colorMode : shown.colorMode ∈ (resolveColorModes part).1

theorem ne_empty_toString (value : ℕ) : toString value ≠ "" := by
  intro empty
  have chars := congrArg String.toList empty
  simp at chars

theorem int_toString {value : ℕ} (fits : value < 2 ^ 53) :
    Python.int (toString value).toList = some (value : ℤ) := by
  have short : (Nat.toDigits 10 value).length ≤ maxDigits :=
    (Nat.length_toDigits_le_iff (by omega) (by decide)).mpr (Nat.lt_of_lt_of_le
      (show value < 10 ^ 16 by omega) (Nat.pow_le_pow_right (by omega) (by decide)))
  rw [Nat.toString_eq_repr, Nat.toList_repr, Codecs.python_int_digits (isDigit_toDigits value)
    Nat.toDigits_ne_nil short, Nat.ofDigitChars_ten_toDigits]

theorem colorMode_new (part : LightPart) : (Shown.new part).colorMode ∈ (resolveColorModes part).1 := by
  simp only [Shown.new, resolveColorModes]
  generalize part.colorXyTrait.isSome = xy
  generalize part.colorTempTrait.isSome = temp
  generalize part.brightnessTrait.isSome = level
  revert xy temp level
  decide

/-- A colour that a light has is a mode that it supports. -/
theorem colorMode_supported (part : LightPart) :
    (part.colorTempTrait.isSome → .colorTemp ∈ (resolveColorModes part).1) ∧
      (part.colorXyTrait.isSome → .xy ∈ (resolveColorModes part).1) := by
  constructor
  · intro has
    simp [resolveColorModes, has]
  · intro has
    simp [resolveColorModes, has]

variable {float : String → Reading} {part : LightPart} {shown : Shown}

theorem colored {wire : ℕ} (positive : 1 ≤ wire)
    (mired : part.colorTempWireUnit = .mired → wire ≤ 1000) :
    Colored part wire (kelvinOf part wire) where
  shows := rfl
  back := by
    cases unit : part.colorTempWireUnit with
    | mired =>
        obtain ⟨quotient, back⟩ := mired_of_kelvin (show 1 ≤ (wire : ℤ) by omega)
          (show (wire : ℤ) ≤ 1000 by exact_mod_cast mired unit)
        rw [Int.cast_natCast] at quotient back
        simp only [colorTempToWire, kelvinOf, unit, quotient, Except.map, back]
        rfl
    | kelvin =>
        simp only [colorTempToWire, kelvinOf, unit]
        rfl

/-- What a light shows of a text that it tells. -/
inductive Receives (part : LightPart) (shown : Shown) : Component → String → Shown → Prop
  | silent (component : Component) : Receives part shown component "" shown
  | power (on : Bool) :
      Receives part shown .power (if on then "1" else "0") { shown with isOn := some on }
  | brightness (percent : ℕ) : Receives part shown .brightness (toString percent)
      { shown with brightness := some (brightnessOf percent) }
  | colorTemp {wire : ℕ} (has : part.colorTempTrait.isSome)
      (colored : Colored part wire (kelvinOf part wire)) :
      Receives part shown .colorTemp (toString wire)
        { shown with colorTempKelvin := some (kelvinOf part wire), colorMode := .colorTemp }
  | colorXy {packed : ℕ} (has : part.colorXyTrait.isSome) (fits : packed < 2 ^ 32) :
      Receives part shown .colorXy (toString packed)
        { shown with xyColor := some (coordinates packed), colorMode := .xy }

theorem receives_of_told (reads : ReadsWhole float) {report : Component × String}
    (told : Told part report.1 report.2) :
    Receives part shown report.1 report.2 (receive float part shown report) := by
  obtain ⟨component, raw⟩ := report
  dsimp only at told ⊢
  cases told with
  | silent => exact .silent component
  | power on =>
      cases on with
      | true => exact .power true
      | false => exact .power false
  | @brightness percent within =>
      have applied : receive float part shown (.brightness, toString percent) =
          { shown with brightness := some (brightnessOf percent) } := by
        rw [receive, applyValue, if_neg (ne_empty_toString percent),
          reads percent (by omega), Reading.round]
        rfl
      rw [applied]
      exact .brightness percent
  | @colorTemp wire has positive within mired =>
      have applied : receive float part shown (.colorTemp, toString wire) = { shown with
          colorTempKelvin := some (kelvinOf part wire)
          colorMode := .colorTemp } := by
        cases unit : part.colorTempWireUnit with
        | mired =>
            have different : (wire : ℚ) ≠ 0 := by exact_mod_cast (show wire ≠ 0 by omega)
            simp only [receive, applyValue, if_neg (ne_empty_toString wire), reads wire within,
              Reading.round, unit, divided, if_neg different, kelvinOf]
            rfl
        | kelvin =>
            simp only [receive, applyValue, if_neg (ne_empty_toString wire), reads wire within,
              Reading.round, unit, Except.map, roundHalfEven_natCast, kelvinOf]
            rfl
      rw [applied]
      exact .colorTemp has (colored positive mired)
  | @colorXy packed has fits =>
      have applied : receive float part shown (.colorXy, toString packed) =
          { shown with xyColor := some (coordinates packed), colorMode := .xy } := by
        rw [receive, applyValue, if_neg (ne_empty_toString packed)]
        simp only [int_toString (show packed < 2 ^ 53 by omega)]
        rfl
      rw [applied]
      exact .colorXy has fits

theorem Mirrors.receives {told : Component → Option String} (mirrors : Mirrors part shown told)
    {component : Component} {raw : String} {after : Shown}
    (receives : Receives part shown component raw after) :
    Mirrors part after fun other =>
      if component = other ∧ raw ≠ "" then some raw else told other := by
  have still (other : Component) (different : component ≠ other) :
      (if component = other ∧ raw ≠ "" then some raw else told other) = told other :=
    if_neg fun same => different same.1
  have tells (wire : ℕ) (same : raw = toString wire) :
      (if component = component ∧ raw ≠ "" then some raw else told component) =
        some (toString wire) := by
    rw [if_pos ⟨rfl, same ▸ ne_empty_toString wire⟩, same]
  cases receives with
  | silent =>
      have unchanged : (fun other => if component = other ∧ ("" : String) ≠ "" then some "" else
          told other) = told := funext fun other => if_neg fun same => same.2 rfl
      rwa [unchanged]
  | power on =>
      constructor
      · cases on with
        | true => rfl
        | false => rfl
      · rw [still .brightness (by decide)]
        exact mirrors.brightness
      · rw [still .colorTemp (by decide)]
        exact mirrors.colorTemp
      · rw [still .colorXy (by decide)]
        exact mirrors.colorXy
      · exact mirrors.colorMode
  | brightness percent =>
      constructor
      · rw [still .power (by decide)]
        exact mirrors.isOn
      · rw [tells percent rfl]
        exact .told rfl
      · rw [still .colorTemp (by decide)]
        exact mirrors.colorTemp
      · rw [still .colorXy (by decide)]
        exact mirrors.colorXy
      · exact mirrors.colorMode
  | @colorTemp wire has colored =>
      constructor
      · rw [still .power (by decide)]
        exact mirrors.isOn
      · rw [still .brightness (by decide)]
        exact mirrors.brightness
      · rw [tells wire rfl]
        exact .told colored
      · rw [still .colorXy (by decide)]
        exact mirrors.colorXy
      · exact (colorMode_supported part).1 has
  | @colorXy packed has fits =>
      constructor
      · rw [still .power (by decide)]
        exact mirrors.isOn
      · rw [still .brightness (by decide)]
        exact mirrors.brightness
      · rw [still .colorTemp (by decide)]
        exact mirrors.colorTemp
      · rw [tells packed rfl]
        exact .told ⟨rfl, packXy_coordinates fits⟩
      · exact (colorMode_supported part).2 has

/-- However often a light tells, it shows what it has last told. -/
theorem mirrors_reports (reads : ReadsWhole float) {reports : List (Component × String)}
    (told : ∀ report ∈ reports, Told part report.1 report.2) :
    Mirrors part (reports.foldl (receive float part) (.new part)) (lastTold reports) := by
  induction reports using List.reverseRecOn with
  | nil => exact ⟨rfl, .untold, .untold, .untold, colorMode_new part⟩
  | append_singleton reports report induction =>
      have before := induction fun other member => told other (List.mem_append_left _ member)
      have now := told report (List.mem_append_right _ (List.mem_singleton_self report))
      rw [List.foldl_append, List.foldl_cons, List.foldl_nil, funext (lastTold_concat reports report)]
      exact before.receives (receives_of_told reads now)

/-! ## Turned on with what it shows -/

/-- A light is turned on with some of what it shows. -/
structure Keeps (kwargs : TurnOn) (shown : Shown) : Prop where
  brightness : ∀ value, kwargs.brightness = some value → shown.brightness = some value
  colorTemp : ∀ kelvin, kwargs.colorTempKelvin = some kelvin → shown.colorTempKelvin = some kelvin
  colorXy : ∀ xy, kwargs.xyColor = some xy → shown.xyColor = some xy

/-- What a light is turned on with. -/
def TurnOn.commands (kwargs : TurnOn) : Component → Bool
  | .power => false
  | .brightness => kwargs.brightness.isSome
  | .colorTemp => kwargs.colorTempKelvin.isSome
  | .colorXy => kwargs.xyColor.isSome

/-- The codes of the trait that becomes a component. -/
def traitCodes : Component → List String
  | .power => ["OnOff"]
  | .brightness => ["CurrentLevel"]
  | .colorTemp => ["ColorTemperature"]
  | .colorXy => ["ColorXY", "CurrentX"]

theorem traitCodes_disjoint (first second : Component) :
    ∀ code ∈ traitCodes first, code ∈ traitCodes second → first = second := by
  cases first <;> cases second <;> decide

/-- A text is written to an attribute, if there are both. -/
def put (writes : List (AttrSpec × String)) : Option AttrSpec → Option String → List (AttrSpec × String)
  | some attr, some text => Dictionary.setEntries writes attr text
  | _, _ => writes

theorem lookup_put_self (writes : List (AttrSpec × String)) (attr : AttrSpec) (text : String) :
    (put writes (some attr) (some text)).lookup attr = some text := by
  rw [put, Dictionary.lookup_setEntries, if_pos rfl]

theorem lookup_put_other (writes : List (AttrSpec × String)) {attr : Option AttrSpec}
    (text : Option String) {other : AttrSpec} (different : attr ≠ some other) :
    (put writes attr text).lookup other = writes.lookup other := by
  cases attr with
  | none => rfl
  | some attr =>
      cases text with
      | none => rfl
      | some text =>
          rw [put, Dictionary.lookup_setEntries, if_neg fun same => different (congrArg some same.symm)]

/-- The texts of the components are written to their attributes. -/
def putAll (part : LightPart) (texts : Component → Option String) : List (AttrSpec × String) :=
  lightComponents.foldl (fun writes component => put writes (part.attr? component) (texts component)) []

theorem putAll_congr {first second : Component → Option String}
    (same : ∀ component, (part.attr? component).isSome → first component = second component) :
    putAll part first = putAll part second := by
  refine List.foldl_ext _ _ _ fun writes component _ => ?_
  cases here : part.attr? component with
  | none => rfl
  | some attr => rw [same component (by rw [here, Option.isSome_some])]

theorem mem_put {writes : List (AttrSpec × String)} {attr : Option AttrSpec} {text : Option String}
    {entry : AttrSpec × String} (member : entry ∈ put writes attr text) :
    entry ∈ writes ∨ attr = some entry.1 ∧ text = some entry.2 := by
  cases attr with
  | none => exact .inl member
  | some attr =>
      cases text with
      | none => exact .inl member
      | some text =>
          rcases Dictionary.mem_setEntries member with rfl | before
          · exact .inr ⟨rfl, rfl⟩
          · exact .inl before

theorem mem_putAll {texts : Component → Option String} {entry : AttrSpec × String}
    (member : entry ∈ putAll part texts) :
    ∃ component, part.attr? component = some entry.1 ∧ texts component = some entry.2 := by
  have folded (components : List Component) : ∀ writes : List (AttrSpec × String),
      entry ∈ components.foldl (fun writes component =>
        put writes (part.attr? component) (texts component)) writes →
      entry ∈ writes ∨
        ∃ component, part.attr? component = some entry.1 ∧ texts component = some entry.2 := by
    induction components with
    | nil => exact fun _ member => .inl member
    | cons component components induction =>
        intro writes member
        rcases induction _ member with before | later
        · exact (mem_put before).imp_right fun put => ⟨component, put⟩
        · exact .inr later
  exact (folded lightComponents [] member).resolve_left List.not_mem_nil

/-- What a light is turned on with, in the texts of the wire. -/
def TurnOn.texts (kwargs : TurnOn) (wire : Option String) : Component → Option String
  | .power => some "1"
  | .brightness => kwargs.brightness.map fun brightness : ℤ =>
      toString (roundHalfEven ((brightness : ℚ) * 100 / 255))
  | .colorTemp => wire
  | .colorXy => kwargs.xyColor.map fun xy => toString (packXy xy)

/-- The writes of a turn-on, component after component. -/
theorem buildTurnOnWrites_of_wire {kwargs : TurnOn} {wire : Option String}
    (converts : kwargs.colorTempKelvin.map (colorTempToWire part) = wire.map .ok) :
    buildTurnOnWrites part kwargs = .ok (putAll part (kwargs.texts wire)) := by
  obtain ⟨brightness, colorTemp, xy⟩ := kwargs
  rw [buildTurnOnWrites]
  simp only [putAll, lightComponents, List.foldl_cons, List.foldl_nil, LightPart.attr?, TurnOn.texts]
  cases colorTemp with
  | none =>
      obtain rfl := Option.map_eq_none_iff.mp converts.symm
      cases brightness <;> cases xy <;> cases part.brightnessAttr <;> cases part.colorTempAttr <;>
        cases part.colorXyAttr <;> rfl
  | some kelvin =>
      obtain ⟨text, rfl, wired⟩ := Option.map_eq_some_iff.mp converts.symm
      cases part.colorTempAttr with
      | none =>
          cases brightness <;> cases xy <;> cases part.brightnessAttr <;> cases part.colorXyAttr <;> rfl
      | some attr =>
          dsimp only
          rw [← wired]
          cases brightness <;> cases xy <;> cases part.brightnessAttr <;> cases part.colorXyAttr <;> rfl

/-- What a light that is turned on is told of a component, where that is what it has last told. -/
def asked (kwargs : TurnOn) (told : Component → Option String) (component : Component) :
    Option String :=
  if component = .power then some "1"
  else if kwargs.commands component then told component
  else none

/-- A light that is turned on with what it shows is told what it has last told. -/
theorem buildTurnOnWrites_eq {told : Component → Option String} (mirrors : Mirrors part shown told)
    {kwargs : TurnOn} (keeps : Keeps kwargs shown) :
    buildTurnOnWrites part kwargs = .ok (putAll part (asked kwargs told)) := by
  have tempers : kwargs.colorTempKelvin.map (colorTempToWire part) =
      (asked kwargs told .colorTemp).map .ok := by
    cases commands : kwargs.colorTempKelvin with
    | none => simp [asked, TurnOn.commands, commands]
    | some kelvin =>
        have mirrored := mirrors.colorTemp
        rw [keeps.colorTemp kelvin commands] at mirrored
        rw [asked, if_neg (by decide), if_pos (by rw [TurnOn.commands, commands, Option.isSome_some])]
        generalize told .colorTemp = text at mirrored
        cases mirrored with
        | told read => rw [Option.map_some, Option.map_some, read.back]
  rw [buildTurnOnWrites_of_wire tempers]
  congr 1
  refine putAll_congr fun component _ => ?_
  cases component with
  | power => rfl
  | brightness =>
      cases commands : kwargs.brightness with
      | none => simp [TurnOn.texts, asked, TurnOn.commands, commands]
      | some value =>
          have mirrored := mirrors.brightness
          rw [keeps.brightness value commands] at mirrored
          rw [TurnOn.texts, asked, if_neg (by decide),
            if_pos (by rw [TurnOn.commands, commands, Option.isSome_some]), commands]
          generalize told .brightness = text at mirrored
          cases mirrored with
          | told read =>
              rw [Option.map_some, read, percent_of_brightness]
              rfl
  | colorTemp => rfl
  | colorXy =>
      cases commands : kwargs.xyColor with
      | none => simp [TurnOn.texts, asked, TurnOn.commands, commands]
      | some xy =>
          have mirrored := mirrors.colorXy
          rw [keeps.colorXy xy commands] at mirrored
          rw [TurnOn.texts, asked, if_neg (by decide),
            if_pos (by rw [TurnOn.commands, commands, Option.isSome_some]), commands]
          generalize told .colorXy = text at mirrored
          cases mirrored with
          | told read => rw [Option.map_some, read.2]

section

variable {specs : List TraitSpec} {onOff : TraitSpec}
  (power : findTrait specs "Output" "OnOff" = some onOff)
  (fused : (fusedLight specs onOff).binding = .light part)
include power fused

/-- A component is written to the trait that it has been composed of. -/
theorem exists_trait_of_attr? {component : Component} {attr : AttrSpec}
    (here : part.attr? component = some attr) : ∃ spec ∈ specs, attr = { name := spec.id } ∧
      ∃ code ∈ traitCodes component, spec.traitCode = some code := by
  have found {functionCode traitCode : String} {spec : TraitSpec}
      (finds : findTrait specs functionCode traitCode = some spec) (codes : traitCode ∈ traitCodes component) :
      ∃ other ∈ specs, ({ name := spec.id } : AttrSpec) = { name := other.id } ∧
        ∃ code ∈ traitCodes component, other.traitCode = some code :=
    ⟨spec, (findTrait_spec finds).1, rfl, traitCode, codes, (findTrait_spec finds).2.2⟩
  cases fused
  cases component with
  | power =>
      cases here
      exact found power (by decide)
  | brightness =>
      obtain ⟨spec, finds, rfl⟩ := Option.map_eq_some_iff.mp here
      exact found finds (by decide)
  | colorTemp =>
      obtain ⟨spec, finds, rfl⟩ := Option.map_eq_some_iff.mp here
      exact found finds (by decide)
  | colorXy =>
      obtain ⟨spec, finds, rfl⟩ := Option.map_eq_some_iff.mp here
      rcases Option.or_eq_some_iff.mp finds with combined | ⟨-, pair⟩
      · exact found combined (by decide)
      · split at pair
        · exact found pair (by decide)
        · cases pair

/-- The attributes of a light that is composed of the traits of an endpoint are all different. -/
theorem attr?_injective (kept : Kept specs) {first second : Component} {attr : AttrSpec}
    (here : part.attr? first = some attr) (there : part.attr? second = some attr) :
    first = second := by
  obtain ⟨spec, member, rfl, code, codes, has⟩ := exists_trait_of_attr? power fused here
  obtain ⟨other, member', same, code', codes', has'⟩ := exists_trait_of_attr? power fused there
  have one : spec = other :=
    List.inj_on_of_nodup_map kept.nodup member member' (congrArg AttrSpec.name same)
  rw [one] at has
  obtain rfl := Option.some.inj (has.symm.trans has')
  exact traitCodes_disjoint first second code codes codes'

/-- An attribute is written the text of its component. -/
theorem lookup_putAll (kept : Kept specs) {component : Component} {attr : AttrSpec}
    (here : part.attr? component = some attr) (texts : Component → Option String) :
    (putAll part texts).lookup attr = texts component := by
  have different (other : Component) (another : component ≠ other) : part.attr? other ≠ some attr :=
    fun there => another (attr?_injective power fused kept here there)
  have one (writes : List (AttrSpec × String)) (absent : writes.lookup attr = none) :
      (put writes (part.attr? component) (texts component)).lookup attr = texts component := by
    rw [here]
    cases texts component with
    | none => exact absent
    | some text => exact lookup_put_self writes attr text
  simp only [putAll, lightComponents, List.foldl_cons, List.foldl_nil]
  cases component with
  | power =>
      rw [lookup_put_other _ _ (different .colorXy (by decide)),
        lookup_put_other _ _ (different .colorTemp (by decide)),
        lookup_put_other _ _ (different .brightness (by decide)), one [] rfl]
  | brightness =>
      rw [lookup_put_other _ _ (different .colorXy (by decide)),
        lookup_put_other _ _ (different .colorTemp (by decide))]
      exact one _ (lookup_put_other [] _ (different .power (by decide)))
  | colorTemp =>
      rw [lookup_put_other _ _ (different .colorXy (by decide))]
      refine one _ ?_
      rw [lookup_put_other _ _ (different .brightness (by decide)),
        lookup_put_other _ _ (different .power (by decide)), List.lookup_nil]
  | colorXy =>
      refine one _ ?_
      rw [lookup_put_other _ _ (different .colorTemp (by decide)),
        lookup_put_other _ _ (different .brightness (by decide)),
        lookup_put_other _ _ (different .power (by decide)), List.lookup_nil]

end

/-- After any reports a light is in a colour mode that it supports; and turned on with what it shows,
as a scene does that has kept it, it is told to be on, and of all that it is turned on with what it
has last told itself. -/
theorem scene_restores {specs : List TraitSpec} (kept : Kept specs) {onOff : TraitSpec}
    (power : findTrait specs "Output" "OnOff" = some onOff) {part : LightPart}
    (fused : (fusedLight specs onOff).binding = .light part) {float : String → Reading}
    (reads : ReadsWhole float) {reports : List (Component × String)}
    (told : ∀ report ∈ reports, Told part report.1 report.2) {kwargs : TurnOn}
    (keeps : Keeps kwargs (reports.foldl (receive float part) (.new part))) :
    (reports.foldl (receive float part) (.new part)).colorMode ∈ (resolveColorModes part).1 ∧
      ∃ writes, buildTurnOnWrites part kwargs = .ok writes ∧
        ∀ component attr, part.attr? component = some attr →
          writes.lookup attr =
            if component = .power then some "1"
            else if kwargs.commands component then lastTold reports component
            else none := by
  have mirrors := mirrors_reports reads told
  exact ⟨mirrors.colorMode, _, buildTurnOnWrites_eq mirrors keeps, fun component attr here =>
    lookup_putAll power fused kept here (asked kwargs (lastTold reports))⟩

/-- The traits of a bulb, as the catalogue has them. -/
def bulbTraits : List TraitSpec :=
  [{ id := "2.132.32920", name := "On off", dataType := "bool", writable := true
     functionCode := some "Output", traitCode := some "OnOff", endpointId := some 2 },
   { id := "2.133.32923", name := "Current level", dataType := "float", unit := some "%"
     minValue := some 1, maxValue := some 100, step := some 1, writable := true
     functionCode := some "LevelControl", traitCode := some "CurrentLevel", endpointId := some 2 },
   { id := "2.134.32927", name := "Color temperature", dataType := "int"
     minValue := some 166, maxValue := some 370, step := some 1, writable := true
     functionCode := some "ColorControl", traitCode := some "ColorTemperature"
     endpointId := some 2 }]

theorem kept_bulbTraits : Kept bulbTraits where
  nodup := by decide
  dotted := by simp [bulbTraits, Dotted]
  path_eq := by decide

/-- The light of the bulb. -/
def bulb : LightPart :=
  { powerTrait := bulbTraits.get ⟨0, by decide⟩
    powerAttr := { name := "2.132.32920" }
    brightnessTrait := some (bulbTraits.get ⟨1, by decide⟩)
    brightnessAttr := some { name := "2.133.32923" }
    colorTempTrait := some (bulbTraits.get ⟨2, by decide⟩)
    colorTempAttr := some { name := "2.134.32927" }
    colorTempMinKelvin := some 2703
    colorTempMaxKelvin := some 6024
    colorTempWireUnit := .mired }

theorem fused_bulb : findTrait bulbTraits "Output" "OnOff" = some bulb.powerTrait ∧
    (fusedLight bulbTraits bulb.powerTrait).binding = .light bulb := by
  decide +kernel

/-- `float` on the texts of whole numbers. -/
def readWhole (text : String) : Reading :=
  match Python.int text.toList with
  | some value => .finite value
  | none => .raises

theorem readsWhole_readWhole : ReadsWhole readWhole := fun value fits => by
  rw [readWhole, int_toString fits]
  rfl

/-- The bulb, turned on as it was when it had told 57 percent and 250 mired. -/
theorem bulb_scene_restores :
    ∃ writes, buildTurnOnWrites bulb ⟨some 145, some 4000, none⟩ = .ok writes ∧
      ∀ component attr, bulb.attr? component = some attr →
        writes.lookup attr =
          if component = .power then some "1"
          else if TurnOn.commands ⟨some 145, some 4000, none⟩ component then
            lastTold [(.power, "1"), (.brightness, "57"), (.colorTemp, "250"), (.power, "0")] component
          else none := by
  have told : ∀ report ∈ [(Component.power, "1"), (.brightness, "57"), (.colorTemp, "250"),
      (.power, "0")], Told bulb report.1 report.2 := by
    simp only [List.forall_mem_cons]
    exact ⟨.power true, .brightness (show 57 ≤ 100 by decide),
      .colorTemp rfl (show 1 ≤ 250 by decide) (by decide) (by decide), .power false, nofun⟩
  have keeps : Keeps ⟨some 145, some 4000, none⟩ ([(Component.power, "1"), (.brightness, "57"),
      (.colorTemp, "250"), (.power, "0")].foldl (receive readWhole bulb) (.new bulb)) :=
    ⟨by decide +kernel, by decide +kernel, nofun⟩
  exact (scene_restores kept_bulbTraits fused_bulb.1 fused_bulb.2 readsWhole_readWhole told keeps).2

/-! ## Turned on with what it offers -/

/-- The bounds of a colour temperature are whole numbers, of mired up to 1000. -/
structure Bounded (spec : TraitSpec) (least most : ℕ) : Prop where
  minValue : spec.minValue = some (least : ℚ)
  maxValue : spec.maxValue = some (most : ℚ)
  positive : 1 ≤ least
  ordered : least ≤ most
  fits : most < 2 ^ 53
  mired : (colorTempBounds (some spec)).2.2 = .mired → most ≤ 1000

/-- What a light that is turned on is asked for is what it offers. -/
structure Offered (part : LightPart) (kwargs : TurnOn) : Prop where
  brightness : ∀ value, kwargs.brightness = some value → 0 ≤ value ∧ value ≤ 255
  colorTemp : ∀ kelvin, kwargs.colorTempKelvin = some kelvin → ∃ least most,
    part.colorTempMinKelvin = some least ∧ part.colorTempMaxKelvin = some most ∧
      least ≤ kelvin ∧ kelvin ≤ most
  colorXy : ∀ xy, kwargs.xyColor = some xy → (0 ≤ xy.1 ∧ xy.1 ≤ 1) ∧ 0 ≤ xy.2 ∧ xy.2 ≤ 1

/-- A brightness is written as a percentage, which is shown as the brightness or one beside it. -/
theorem exists_percent {brightness : ℤ} (least : 0 ≤ brightness) (most : brightness ≤ 255) :
    ∃ percent : ℕ, percent ≤ 100 ∧ roundHalfEven ((brightness : ℚ) * 100 / 255) = percent ∧
      |brightnessOf percent - brightness| ≤ 1 := by
  have low := roundHalfEven_mono (show ((0 : ℕ) : ℚ) ≤ (brightness : ℚ) * 100 / 255 by
    have positive : (0 : ℚ) ≤ brightness := Int.cast_nonneg least
    rw [Nat.cast_zero]
    positivity)
  have high := roundHalfEven_mono (show (brightness : ℚ) * 100 / 255 ≤ (100 : ℕ) by
    have bound : (brightness : ℚ) ≤ 255 := by exact_mod_cast most
    rw [div_le_iff₀ (by norm_num)]
    push_cast
    linarith)
  rw [roundHalfEven_natCast] at low high
  obtain ⟨percent, rounds⟩ := Int.eq_ofNat_of_zero_le low
  refine ⟨percent, by omega, rounds, ?_⟩
  have there : (brightness : ℚ) * 100 / 255 = brightness / (255 / 100) := by ring
  have back : (percent : ℚ) * 255 / 100 = ((percent : ℤ) : ℚ) * (255 / 100) := by
    rw [Int.cast_natCast]
    ring
  have near := abs_halfEven_div_mul_sub_le (show (0 : ℚ) < 255 / 100 by norm_num) brightness
  rw [← roundHalfEven_eq, ← roundHalfEven_eq, ← there, rounds, ← back] at near
  have whole : |((brightnessOf percent - brightness : ℤ) : ℚ)| < 2 := by
    rw [Int.cast_sub, brightnessOf]
    exact lt_of_le_of_lt near (by norm_num)
  have less : |brightnessOf percent - brightness| < 2 := by exact_mod_cast whole
  omega

/-- Coordinates are packed into 32 bits, and come back up to half a step. -/
theorem exists_packed {xy : ℚ × ℚ} (first : 0 ≤ xy.1 ∧ xy.1 ≤ 1) (second : 0 ≤ xy.2 ∧ xy.2 ≤ 1) :
    packXy xy < 2 ^ 32 ∧ |(coordinates (packXy xy)).1 - xy.1| ≤ 1 / 131070 ∧
      |(coordinates (packXy xy)).2 - xy.2| ≤ 1 / 131070 := by
  have fits {coordinate : ℚ} (within : 0 ≤ coordinate ∧ coordinate ≤ 1) :
      ∃ step : ℕ, step < 65536 ∧ (roundHalfEven (coordinate * 65535) % 65536).toNat = step ∧
        |(step : ℚ) / 65535 - coordinate| ≤ 1 / 131070 := by
    have low := roundHalfEven_mono (show ((0 : ℕ) : ℚ) ≤ coordinate * 65535 by
      have positive := within.1
      rw [Nat.cast_zero]
      positivity)
    have high := roundHalfEven_mono (show coordinate * 65535 ≤ (65535 : ℕ) by
      push_cast
      linarith [within.2])
    rw [roundHalfEven_natCast] at low high
    obtain ⟨step, rounds⟩ := Int.eq_ofNat_of_zero_le low
    refine ⟨step, by omega, by omega, ?_⟩
    have near := abs_sub_halfEven_le (coordinate * 65535)
    rw [← roundHalfEven_eq, rounds, Int.cast_natCast] at near
    rw [abs_le] at near ⊢
    constructor
    · rw [le_sub_iff_add_le, le_div_iff₀ (by norm_num)]
      linarith
    · rw [sub_le_iff_le_add, div_le_iff₀ (by norm_num)]
      linarith
  obtain ⟨x, xFits, xRounds, xNear⟩ := fits first
  obtain ⟨y, yFits, yRounds, yNear⟩ := fits second
  have packs : packXy xy = x * 65536 + y := by
    simp only [packXy, xRounds, yRounds]
    exact Codecs.packed_eq (show y < 2 ^ 16 from yFits) x
  have high : ((packXy xy : ℤ) / 65536 % 65536) = x := by omega
  have low : ((packXy xy : ℤ) % 65536) = y := by omega
  refine ⟨by omega, ?_, ?_⟩
  · rwa [coordinates, high, Int.cast_natCast]
  · rwa [coordinates, low, Int.cast_natCast]

/-- A whole number of mired between whole bounds is between their kelvin, the other way round. -/
theorem kelvin_of_mired_antitone {first second : ℕ} (one : 1 ≤ first) (le : first ≤ second) :
    roundHalfEven (1000000 / (second : ℚ)) ≤ roundHalfEven (1000000 / (first : ℚ)) := by
  have positive : (0 : ℚ) < first := by exact_mod_cast one
  have ordered : (first : ℚ) ≤ second := by exact_mod_cast le
  exact roundHalfEven_mono (div_le_div_of_nonneg_left (by norm_num) positive ordered)

theorem truncate_natCast (value : ℕ) : truncate (value : ℚ) = value := by
  rw [truncate, Rat.num_natCast, Rat.den_natCast, Nat.cast_one, Int.tdiv_one]

/-- Kelvin between those of whole mired are between these mired. -/
theorem exists_mired {least most : ℕ} (one : 1 ≤ least) (ordered : least ≤ most)
    (bound : most ≤ 1000) {kelvin : ℤ} (above : roundHalfEven (1000000 / (most : ℚ)) ≤ kelvin)
    (below : kelvin ≤ roundHalfEven (1000000 / (least : ℚ))) :
    ∃ mired : ℕ, divided 1000000 kelvin = .ok (1000000 / kelvin) ∧
      roundHalfEven (1000000 / (kelvin : ℚ)) = mired ∧ least ≤ mired ∧ mired ≤ most := by
  have warmest : roundHalfEven (1000 : ℚ) ≤ roundHalfEven (1000000 / (most : ℚ)) := by
    refine roundHalfEven_mono ?_
    have positive : (0 : ℚ) < most := by exact_mod_cast (show 0 < most by omega)
    have small : (most : ℚ) ≤ 1000 := by exact_mod_cast bound
    rw [le_div_iff₀ positive]
    linarith
  have thousand : roundHalfEven (1000 : ℚ) = 1000 := roundHalfEven_natCast 1000
  have kelvins : (0 : ℚ) < kelvin := by exact_mod_cast (show 0 < kelvin by omega)
  have first := (mired_of_kelvin (show 1 ≤ (least : ℤ) by omega) (by omega)).2
  have last := (mired_of_kelvin (show 1 ≤ (most : ℤ) by omega) (by omega)).2
  rw [Int.cast_natCast] at first last
  have low := roundHalfEven_mono (div_le_div_of_nonneg_left (show (0 : ℚ) ≤ 1000000 by norm_num)
    kelvins (Int.cast_le.mpr below))
  have high := roundHalfEven_mono (div_le_div_of_nonneg_left (show (0 : ℚ) ≤ 1000000 by norm_num)
    (Int.cast_pos.mpr (show 0 < roundHalfEven (1000000 / (most : ℚ)) by omega))
    (Int.cast_le.mpr above))
  rw [first] at low
  rw [last] at high
  obtain ⟨mired, rounds⟩ := Int.eq_ofNat_of_zero_le (show 0 ≤ roundHalfEven (1000000 / (kelvin : ℚ)) by
    omega)
  exact ⟨mired, if_neg kelvins.ne', rounds, by omega, by omega⟩

/-- A temperature between the bounds is written as a number between those of the trait, which is
shown between the bounds. -/
theorem exists_wire {spec : TraitSpec} {least most : ℕ} (bounded : Bounded spec least most)
    {low high kelvin : ℤ} (minKelvin : (colorTempBounds (some spec)).1 = some low)
    (maxKelvin : (colorTempBounds (some spec)).2.1 = some high)
    (unit : part.colorTempWireUnit = (colorTempBounds (some spec)).2.2) (above : low ≤ kelvin)
    (below : kelvin ≤ high) :
    ∃ wire : ℕ, colorTempToWire part kelvin = .ok (toString wire) ∧ (least ≤ wire ∧ wire ≤ most) ∧
      low ≤ kelvinOf part wire ∧ kelvinOf part wire ≤ high := by
  have few := bounded.mired
  have one := bounded.positive
  have ordered := bounded.ordered
  simp only [colorTempBounds] at minKelvin maxKelvin unit few
  split at minKelvin
  · next kelvins =>
    rw [if_pos kelvins] at maxKelvin unit
    simp only [bounded.minValue, bounded.maxValue, Option.map_some, truncate_natCast,
      Option.some.injEq] at minKelvin maxKelvin
    refine ⟨kelvin.toNat, ?_, ⟨by omega, by omega⟩, ?_⟩
    · have whole : (kelvin.toNat : ℤ) = kelvin := by omega
      rw [colorTempToWire, unit]
      dsimp only
      rw [← whole]
      rfl
    · rw [kelvinOf, unit]
      dsimp only
      omega
  · next other =>
    rw [if_neg other] at maxKelvin unit few
    split at minKelvin
    · next mireds =>
      rw [if_pos mireds] at maxKelvin unit few
      have nonzeros {value : ℕ} (positive : 1 ≤ value) :
          nonzero (some (value : ℚ)) = some (value : ℚ) := by
        have different : (value : ℚ) ≠ 0 := by exact_mod_cast (show value ≠ 0 by omega)
        rw [nonzero, Option.filter_some, if_pos (by simpa using different)]
      rw [bounded.maxValue, nonzeros (by omega), Option.map_some, Option.some.injEq] at minKelvin
      rw [bounded.minValue, nonzeros one, Option.map_some, Option.some.injEq] at maxKelvin
      obtain ⟨mired, quotient, rounds, more, less⟩ := exists_mired one ordered (few rfl)
        (minKelvin ▸ above) (maxKelvin ▸ below)
      refine ⟨mired, ?_, ⟨more, less⟩, ?_⟩
      · simp only [colorTempToWire, unit, quotient, Except.map, rounds]
        rfl
      · simp only [kelvinOf, unit]
        rw [← minKelvin, ← maxKelvin]
        exact ⟨kelvin_of_mired_antitone (by omega) less, kelvin_of_mired_antitone one more⟩
    · cases minKelvin

/-- The kelvin that are asked for are written as a number that the light could tell. -/
theorem Offered.exists_wire {kwargs : TurnOn} (offered : Offered part kwargs) {least most : ℕ}
    {spec : TraitSpec} (trait : part.colorTempTrait = some spec) (bounded : Bounded spec least most)
    (bounds : (part.colorTempMinKelvin, part.colorTempMaxKelvin, part.colorTempWireUnit) =
      colorTempBounds (some spec)) {kelvin : ℤ} (asks : kwargs.colorTempKelvin = some kelvin) :
    ∃ wire : ℕ, colorTempToWire part kelvin = .ok (toString wire) ∧
      Told part .colorTemp (toString wire) ∧ Offered part { kwargs with
        colorTempKelvin := some (kelvinOf part wire) } := by
  obtain ⟨low, high, minKelvin, maxKelvin, above, below⟩ := offered.colorTemp kelvin asks
  have unit : part.colorTempWireUnit = (colorTempBounds (some spec)).2.2 := by rw [← bounds]
  obtain ⟨wire, writes, ⟨more, less⟩, shows⟩ := Light.exists_wire bounded
    (show (colorTempBounds (some spec)).1 = some low by rw [← bounds, ← minKelvin])
    (show (colorTempBounds (some spec)).2.1 = some high by rw [← bounds, ← maxKelvin])
    unit above below
  have positive := bounded.positive
  have fits := bounded.fits
  refine ⟨wire, writes, .colorTemp ?_ (by omega) (by omega) fun mired => ?_, ?_⟩
  · rw [trait, Option.isSome_some]
  · exact less.trans (bounded.mired (unit ▸ mired))
  · refine ⟨offered.brightness, fun other asks => ?_, offered.colorXy⟩
    obtain rfl := Option.some.inj asks
    exact ⟨low, high, minKelvin, maxKelvin, shows⟩

theorem toString_injective {first second : ℕ} (same : toString first = toString second) :
    first = second := by
  have digits := congrArg String.toList same
  rw [Nat.toString_eq_repr, Nat.toString_eq_repr, Nat.toList_repr, Nat.toList_repr] at digits
  rw [← Nat.ofDigitChars_ten_toDigits (n := first), digits, Nat.ofDigitChars_ten_toDigits]

theorem Mirrored.shows {α : Type} {reads : ℕ → α → Prop} {text : Option String} {value : Option α}
    (mirrored : Mirrored reads text value) {wire : ℕ} (told : text = some (toString wire)) :
    ∃ shown, value = some shown ∧ reads wire shown := by
  cases mirrored with
  | untold => cases told
  | @told other shown read =>
      rw [toString_injective (Option.some.inj told)] at read
      exact ⟨shown, rfl, read⟩

/-- What a light shows is, up to a step, what it has been asked for. -/
structure Follows (part : LightPart) (kwargs : TurnOn) (shown : Shown) : Prop where
  isOn : shown.isOn = some true
  brightness : ∀ value, kwargs.brightness = some value → (part.attr? .brightness).isSome →
    ∃ other, shown.brightness = some other ∧ |other - value| ≤ 1
  colorTemp : ∀ kelvin, kwargs.colorTempKelvin = some kelvin →
    ∃ other, shown.colorTempKelvin = some other ∧
      Offered part { kwargs with colorTempKelvin := some other } ∧
      colorTempToWire part other = colorTempToWire part kelvin
  colorXy : ∀ xy, kwargs.xyColor = some xy → (part.attr? .colorXy).isSome →
    ∃ other, shown.xyColor = some other ∧ |other.1 - xy.1| ≤ 1 / 131070 ∧
      |other.2 - xy.2| ≤ 1 / 131070

/-- What is written to a light when it is turned on, component after component. -/
structure Written (part : LightPart) (kwargs : TurnOn) (wire : Option ℕ) : Prop where
  converts : kwargs.colorTempKelvin.map (colorTempToWire part) = (wire.map toString).map .ok
  told : ∀ number, wire = some number → Told part .colorTemp (toString number)
  offered : ∀ number, wire = some number →
    Offered part { kwargs with colorTempKelvin := some (kelvinOf part number) }

/-- What a light is turned on with is written. -/
theorem Written.commands_eq {kwargs : TurnOn} {wire : Option ℕ} (written : Written part kwargs wire)
    {component : Component} (other : component ≠ .power) :
    kwargs.commands component = (kwargs.texts (wire.map toString) component).isSome := by
  cases component with
  | power => exact absurd rfl other
  | brightness => exact Option.isSome_map.symm
  | colorTemp =>
      have converts := congrArg Option.isSome written.converts
      rwa [Option.isSome_map, Option.isSome_map] at converts
  | colorXy => exact Option.isSome_map.symm

section

variable {kwargs : TurnOn} {wire : Option ℕ} (offered : Offered part kwargs)
  (written : Written part kwargs wire)
include offered written

/-- A text that is written is one that the light could tell. -/
theorem Written.told_texts (xyTrait : (part.attr? .colorXy).isSome → part.colorXyTrait.isSome)
    {component : Component} (has : (part.attr? component).isSome) {text : String}
    (writes : kwargs.texts (wire.map toString) component = some text) : Told part component text := by
  cases component with
  | power =>
      obtain rfl := Option.some.inj writes
      exact .power true
  | brightness =>
      obtain ⟨value, asks, rfl⟩ := Option.map_eq_some_iff.mp writes
      obtain ⟨least, most⟩ := offered.brightness value asks
      obtain ⟨percent, within, rounds, -⟩ := exists_percent least most
      rw [rounds]
      exact .brightness within
  | colorTemp =>
      obtain ⟨number, rfl, rfl⟩ := Option.map_eq_some_iff.mp writes
      exact written.told number rfl
  | colorXy =>
      obtain ⟨xy, asks, rfl⟩ := Option.map_eq_some_iff.mp writes
      obtain ⟨first, second⟩ := offered.colorXy xy asks
      exact .colorXy (xyTrait has) (exists_packed first second).1

/-- A light that has last told what has been written shows, up to a step, what it has been asked
for. -/
theorem Written.follows {told : Component → Option String} (mirrors : Mirrors part shown told)
    (echoes : ∀ component text, (part.attr? component).isSome →
      kwargs.texts (wire.map toString) component = some text → told component = some text)
    (tempAttr : part.colorTempMinKelvin.isSome → (part.attr? .colorTemp).isSome) :
    Follows part kwargs shown where
  isOn := by
    rw [mirrors.isOn, echoes .power "1" rfl rfl]
    rfl
  brightness value asks has := by
    obtain ⟨least, most⟩ := offered.brightness value asks
    obtain ⟨percent, -, rounds, near⟩ := exists_percent least most
    have tells := echoes .brightness (toString percent) has (by
      rw [TurnOn.texts, asks, Option.map_some, rounds]
      rfl)
    obtain ⟨other, shows, read⟩ := mirrors.brightness.shows tells
    exact ⟨other, shows, read ▸ near⟩
  colorTemp kelvin asks := by
    have converts := written.converts
    rw [asks, Option.map_some] at converts
    cases wire with
    | none => cases converts
    | some number =>
        obtain ⟨low, high, minKelvin, -⟩ := offered.colorTemp kelvin asks
        have tells := echoes .colorTemp (toString number)
          (tempAttr (by rw [minKelvin, Option.isSome_some])) rfl
        obtain ⟨other, shows, colored⟩ := mirrors.colorTemp.shows tells
        refine ⟨other, shows, ?_, ?_⟩
        · rw [colored.shows]
          exact written.offered number rfl
        · rw [colored.back]
          exact (Option.some.inj converts).symm
  colorXy xy asks has := by
    obtain ⟨first, second⟩ := offered.colorXy xy asks
    obtain ⟨-, near⟩ := exists_packed first second
    have tells := echoes .colorXy (toString (packXy xy)) has (by rw [TurnOn.texts, asks, Option.map_some])
    obtain ⟨other, shows, read, -⟩ := mirrors.colorXy.shows tells
    exact ⟨other, shows, read ▸ near⟩

end

/-- A light is turned on with what it offers, and tells what it has been told, in whatever order:
then it shows, up to a step, what it was asked for, and with what it shows the same is written again.
All that is written is what it could tell. -/
theorem echo_settles {specs : List TraitSpec} (kept : Kept specs) {onOff : TraitSpec}
    (power : findTrait specs "Output" "OnOff" = some onOff) {part : LightPart}
    (fused : (fusedLight specs onOff).binding = .light part)
    (bounded : ∀ spec, findTrait specs "ColorControl" "ColorTemperature" = some spec →
      ∃ least most, Bounded spec least most)
    {float : String → Reading} (reads : ReadsWhole float) {kwargs : TurnOn}
    (offered : Offered part kwargs) :
    ∃ writes, buildTurnOnWrites part kwargs = .ok writes ∧
      (∀ entry ∈ writes, ∃ component, part.attr? component = some entry.1 ∧
        Told part component entry.2) ∧
      ∀ reports : List (Component × String),
        (∀ report ∈ reports, Told part report.1 report.2) →
        (∀ component attr text, part.attr? component = some attr →
          writes.lookup attr = some text → lastTold reports component = some text) →
        Follows part kwargs (reports.foldl (receive float part) (.new part)) ∧
          ∀ again, Keeps again (reports.foldl (receive float part) (.new part)) →
            (∀ component, again.commands component = kwargs.commands component) →
            buildTurnOnWrites part again = .ok writes := by
  have traits : part.colorTempTrait = findTrait specs "ColorControl" "ColorTemperature" ∧
      (part.colorTempMinKelvin, part.colorTempMaxKelvin, part.colorTempWireUnit) =
        colorTempBounds part.colorTempTrait ∧
      (part.attr? .colorTemp).isSome = part.colorTempTrait.isSome ∧
      (part.attr? .colorXy).isSome = part.colorXyTrait.isSome := by
    cases fused
    exact ⟨rfl, rfl, Option.isSome_map, Option.isSome_map⟩
  obtain ⟨trait, bounds, tempAttr, xyAttr⟩ := traits
  obtain ⟨wire, written⟩ : ∃ wire, Written part kwargs wire := by
    cases asks : kwargs.colorTempKelvin with
    | none => exact ⟨none, by rw [asks]; rfl, nofun, nofun⟩
    | some kelvin =>
        obtain ⟨low, -, minKelvin, -⟩ := offered.colorTemp kelvin asks
        cases found : part.colorTempTrait with
        | none =>
            rw [found, colorTempBounds, Prod.mk.injEq] at bounds
            rw [minKelvin] at bounds
            cases bounds.1
        | some spec =>
            obtain ⟨least, most, whole⟩ := bounded spec (trait.symm.trans found)
            rw [found] at bounds
            obtain ⟨number, writes, told, offers⟩ := offered.exists_wire found whole bounds asks
            refine ⟨some number, ?_, ?_, ?_⟩
            · rw [asks, Option.map_some, writes]
              rfl
            · rintro other ⟨⟩
              exact told
            · rintro other ⟨⟩
              exact offers
  refine ⟨_, buildTurnOnWrites_of_wire written.converts, fun entry member => ?_, fun reports told
    echoes => ?_⟩
  · obtain ⟨component, here, text⟩ := mem_putAll member
    exact ⟨component, here, written.told_texts offered (by rw [xyAttr]; exact id)
      (by rw [here, Option.isSome_some]) text⟩
  · have tells (component : Component) (text : String) (has : (part.attr? component).isSome)
        (writes : kwargs.texts (wire.map toString) component = some text) :
        lastTold reports component = some text := by
      obtain ⟨attr, here⟩ := Option.isSome_iff_exists.mp has
      exact echoes component attr text here
        ((lookup_putAll power fused kept here _).trans writes)
    have mirrors := mirrors_reports reads told
    refine ⟨written.follows offered mirrors tells fun has => ?_, fun again keeps same => ?_⟩
    · rw [tempAttr]
      cases found : part.colorTempTrait with
      | none =>
          rw [found, colorTempBounds, Prod.mk.injEq] at bounds
          rw [bounds.1] at has
          cases has
      | some spec => rfl
    · rw [buildTurnOnWrites_eq mirrors keeps]
      congr 1
      refine putAll_congr fun component has => ?_
      rw [asked]
      split
      · next powers => rw [powers]; rfl
      · next other =>
        rw [same, written.commands_eq other]
        cases writes : kwargs.texts (wire.map toString) component with
        | none => rfl
        | some text => rw [Option.isSome_some, if_pos rfl, tells component text has writes]

theorem bounded_bulb (spec : TraitSpec)
    (found : findTrait bulbTraits "ColorControl" "ColorTemperature" = some spec) :
    ∃ least most, Bounded spec least most := by
  obtain rfl := Option.some.inj (found.symm.trans
    (show _ = some (bulbTraits.get ⟨2, by decide⟩) by decide))
  exact ⟨166, 370, rfl, rfl, by decide, by decide, by decide, fun _ => by decide⟩

/-- The bulb, turned on at half its brightness and 3000 kelvin, tells one component after another. -/
theorem bulb_echo_settles : ∃ writes,
    buildTurnOnWrites bulb ⟨some 128, some 3000, none⟩ = .ok writes ∧
      Follows bulb ⟨some 128, some 3000, none⟩ ([(.colorTemp, "333"), (.brightness, ""), (.power, "1"),
        (.brightness, "50")].foldl (receive readWhole bulb) (.new bulb)) := by
  have offered : Offered bulb ⟨some 128, some 3000, none⟩ := by
    refine ⟨?_, ?_, nofun⟩
    · rintro value ⟨⟩
      decide
    · rintro kelvin ⟨⟩
      exact ⟨2703, 6024, rfl, rfl, by decide, by decide⟩
  obtain ⟨writes, builds, -, settles⟩ := echo_settles kept_bulbTraits fused_bulb.1 fused_bulb.2
    bounded_bulb readsWhole_readWhole offered
  have written : writes = [({ name := "2.132.32920" }, "1"), ({ name := "2.133.32923" }, "50"),
      ({ name := "2.134.32927" }, "333")] :=
    Except.ok.inj (builds.symm.trans (by decide +kernel))
  refine ⟨writes, builds, (settles _ ?_ ?_).1⟩
  · simp only [List.forall_mem_cons]
    exact ⟨.colorTemp rfl (show 1 ≤ 333 by decide) (by decide) (by decide), .silent .brightness,
      .power true, .brightness (show 50 ≤ 100 by decide), nofun⟩
  · rw [written]
    intro component attr text here looks
    cases component with
    | power =>
        cases here
        exact looks
    | brightness =>
        cases here
        exact looks
    | colorTemp =>
        cases here
        exact looks
    | colorXy => cases here

end Light
end Reference
end AqaraLanLink
