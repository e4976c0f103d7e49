import AqaraLanLink.Library.JsonDepth
import AqaraLanLink.Library.Runs
import AqaraLanLink.Reference.Clock
import AqaraLanLink.Reference.GapReport

/-!
# The codecs of composite settings

`device/composites/codecs.py`, and a controller that seeds and sets the fields of one of them.  Which
fields come back from the device as they have been committed depends on what the wire value has room
for.
-/

namespace AqaraLanLink
namespace Reference
namespace Codecs

open Library JsonText Clock

/-! ## The interpreter -/

/-- What is raised. -/
inductive Exception where
  | valueError
  | typeError
  | keyError
  | overflowError
  /-- By `json`. -/
  | json (failure : Failure)
  deriving DecidableEq, Repr

/-- An integer that `str` writes. -/
def Short (value : ℤ) : Prop := (Nat.toDigits 10 value.natAbs).length ≤ maxDigits

/-- What the codecs leave to the interpreter. -/
structure Interpreter (F : Type) where
  floats : Floats F
  /-- `int` of a floating-point number. -/
  truncate : F → Except Exception ℤ
  short : ∀ value whole, truncate value = .ok whole → Short whole
  /-- How deep `json` may nest its calls. -/
  levels : ℕ
  deep : 2 ≤ levels

/-- The characters of a text without halves of surrogate pairs. -/
def chars? (text : Text) : Option (List Char) :=
  text.mapM fun point =>
    match point with
    | .char letter => some letter
    | .surrogate _ => none

/-- `int` of a text. -/
def intOfText (text : Text) : Except Exception ℤ :=
  match (chars? text).bind Python.int with
  | some value => .ok value
  | none => .error .valueError

/-- `isspace` of a code point. -/
def isSpacePoint : CodePoint → Bool
  | .char letter => Python.isSpace letter
  | .surrogate _ => false

/-- `strip`. -/
def strip (text : Text) : Text :=
  ((text.dropWhile isSpacePoint).reverse.dropWhile isSpacePoint).reverse

section
variable {F : Type} (python : Interpreter F)

def dumps (value : Value F) : Except Exception Text :=
  ((JsonText.dumps standard python.floats python.levels value).map ofChars).mapError .json

def loads (text : Text) : Except Exception (Value F) :=
  (JsonText.loads python.floats python.levels text).mapError .json

/-- `int` of a JSON value. -/
def toInt : Value F → Except Exception ℤ
  | .bool value => .ok (if value then 1 else 0)
  | .int value => .ok value
  | .float value => python.truncate value
  | .string text => intOfText text
  | .null | .array _ | .object _ => .error .typeError

/-- `value[key]`. -/
def item (value : Value F) (key : Text) : Except Exception (Value F) :=
  match value with
  | .object members =>
      match members.lookup key with
      | some value => .ok value
      | none => .error .keyError
  | _ => .error .typeError

/-- What a loop over a value goes through. -/
def iterate : Value F → Except Exception (List (Value F))
  | .array items => .ok items
  | .string text => .ok (text.map fun point => .string [point])
  | .object members => .ok (members.map fun member => .string member.1)
  | _ => .error .typeError

/-- `str` of an integer. -/
def strOfInt (value : ℤ) : Except Exception Text :=
  if maxDigits < (Nat.toDigits 10 value.natAbs).length then .error .valueError
  else .ok (ofChars (writeInt value))

/-- `time.fromisoformat`. -/
def timeFromIsoformat : Value F → Except Exception Time
  | .string text =>
      match (chars? text).bind fromisoformat with
      | some time => .ok time
      | none => .error .valueError
  | _ => .error .typeError

end

/-! ## Fields -/

/-- The platform of an entity. -/
inductive Platform where
  | time
  | number
  | switch
  | text
  deriving DecidableEq, Repr

/-- What an entity of a platform holds. -/
abbrev Platform.Value : Platform → Type
  | time => Time
  | number => ℤ
  | switch => Bool
  | text => Text

structure CompositeField where
  name : String
  platform : Platform
  label : String
  /-- `params["min"]` and `params["max"]`. -/
  range : Option (ℤ × ℤ) := none
  /-- `params["unit"]`. -/
  unit : Option String := none

/-- A value for each field. -/
abbrev Fields {Name : Type} (field : Name → CompositeField) : Type :=
  (name : Name) → (field name).platform.Value

/-- `Codec`. -/
structure Codec where
  Name : Type
  decidable : DecidableEq Name
  field : Name → CompositeField
  defaults : Fields field
  encode : Fields field → Except Exception Text
  decode : Text → Except Exception (Fields field)

instance (codec : Codec) : DecidableEq codec.Name := codec.decidable

/-! ## The codecs -/

section
variable {F : Type} (python : Interpreter F)

/-! ### `PackedPeriodCodec` -/

inductive PeriodName where
  | start
  | stop
  | enabled
  deriving DecidableEq, Repr

def PeriodName.field : PeriodName → CompositeField
  | start => { name := "start", platform := .time, label := "Start" }
  | stop => { name := "end", platform := .time, label := "End" }
  | enabled => { name := "enabled", platform := .switch, label := "Enabled" }

def periodFields (start stop : Time) (enabled : Bool) : Fields PeriodName.field
  | .start => start
  | .stop => stop
  | .enabled => enabled

def packedPeriod : Codec where
  Name := PeriodName
  decidable := inferInstance
  field := PeriodName.field
  defaults := periodFields .midnight .lastMinute true
  encode f :=
    let start : Time := f .start
    let stop : Time := f .stop
    let enabled : Bool := f .enabled
    strOfInt ((timeToMins start <<< 12) ||| (timeToMins stop <<< 1) |||
      (if enabled then 0 else 1) : ℕ)
  decode wire := do
    let w ← intOfText wire
    -- `& 0x7FF` and `& 1` of an integer of either sign
    .ok (periodFields (minsToTime (w >>> (12 : ℕ)))
      (minsToTime ((w >>> (1 : ℕ)) % 0x800)) (w % 2 = 0))

/-! ### `BrightnessCodec` -/

inductive BrightnessName where
  | auto
  | colour
  | bw
  deriving DecidableEq, Repr

def BrightnessName.field : BrightnessName → CompositeField
  | auto => { name := "auto", platform := .switch, label := "Auto" }
  | colour =>
      { name := "colour", platform := .number, label := "Colour brightness", range := some (0, 100),
        unit := some "%" }
  | bw =>
      { name := "bw", platform := .number, label := "B&W brightness", range := some (0, 100),
        unit := some "%" }

def brightnessFields (auto : Bool) (colour bw : ℤ) : Fields BrightnessName.field
  | .auto => auto
  | .colour => colour
  | .bw => bw

def brightness : Codec where
  Name := BrightnessName
  decidable := inferInstance
  field := BrightnessName.field
  defaults := brightnessFields true 100 100
  encode f :=
    let auto : Bool := f .auto
    let colour : ℤ := f .colour
    let bw : ℤ := f .bw
    if auto then .ok (ofChars ['0'])
    -- `& 0xFFFF` of an integer of either sign
    else strOfInt (((bw % 0x10000).toNat <<< 16) ||| (colour % 0x10000).toNat : ℕ)
  decode wire := do
    let w ← intOfText wire
    if w = 0 then .ok (brightnessFields true 100 100)
    else .ok (brightnessFields false (w % 0x10000) ((w >>> (16 : ℕ)) % 0x10000))

/-! ### `ScheduleJsonCodec` -/

inductive ScheduleName where
  | start
  | stop
  | days
  deriving DecidableEq, Repr

def ScheduleName.field : ScheduleName → CompositeField
  | start => { name := "start", platform := .time, label := "Start" }
  | stop => { name := "end", platform := .time, label := "End" }
  | days => { name := "repeat", platform := .text, label := "Repeat days" }

def scheduleFields (start stop : Time) (days : Text) : Fields ScheduleName.field
  | .start => start
  | .stop => stop
  | .days => days

/-- `_REPEAT_RE.match`; the end of the pattern lets a line break pass. -/
def matchesRepeat (text : Text) : Bool :=
  (text.take 7).length = 7 &&
    (text.take 7).all (fun point => point = .char '0' || point = .char '1') &&
      (text.drop 7 = [] || text.drop 7 = [.char '\n'])

def starttimeKey : Text := ofChars ['s', 't', 'a', 'r', 't', 't', 'i', 'm', 'e']
def endtimeKey : Text := ofChars ['e', 'n', 'd', 't', 'i', 'm', 'e']
def repeatKey : Text := ofChars ['r', 'e', 'p', 'e', 'a', 't']

def scheduleJson : Codec where
  Name := ScheduleName
  decidable := inferInstance
  field := ScheduleName.field
  defaults := scheduleFields .midnight .lastMinute (ofChars (List.replicate 7 '1'))
  encode f :=
    let start : Time := f .start
    let stop : Time := f .stop
    let days : Text := f .days
    if !matchesRepeat days then .error .valueError
    else do
      let bits ← days.mapM fun point => intOfText [point]
      dumps python (.object
        [(starttimeKey, .string (ofChars (strftimeMinute start))),
          (endtimeKey, .string (ofChars (strftimeMinute stop))),
          (repeatKey, .array (bits.map .int))])
  decode wire := do
    let d ← loads python wire
    let bits ← item d repeatKey >>= iterate
    let parts ← bits.mapM fun bit => toInt python bit >>= strOfInt
    if !matchesRepeat parts.flatten then .error .valueError
    else do
      let start ← item d starttimeKey >>= timeFromIsoformat
      let stop ← item d endtimeKey >>= timeFromIsoformat
      .ok (scheduleFields start stop parts.flatten)

/-! ### `RegionJsonCodec` -/

inductive RegionName where
  | region
  deriving DecidableEq, Repr

def RegionName.field : RegionName → CompositeField
  | region => { name := "region", platform := .text, label := "Region" }

def regionFields (region : Text) : Fields RegionName.field
  | .region => region

def detectRegionKey : Text :=
  ofChars ['d', 'e', 't', 'e', 'c', 't', '_', 'r', 'e', 'g', 'i', 'o', 'n']

/-- `text[:1] in "[{"`, which the empty text is, too. -/
def beginsJson (text : Text) : Bool :=
  text.take 1 = [] || text.take 1 = [.char '['] || text.take 1 = [.char '{']

def regionJson : Codec where
  Name := RegionName
  decidable := inferInstance
  field := RegionName.field
  defaults := regionFields []
  encode f := do
    let v := strip (f .region)
    let inner ← if beginsJson v then loads python v else .ok (.string v)
    dumps python (.object [(detectRegionKey, inner)])
  decode wire := do
    let d ← loads python wire
    let inner ← item d detectRegionKey
    match inner with
    | .string region => .ok (regionFields region)
    | inner => (dumps python inner).map regionFields

/-! ### `BboxRegionJsonCodec` -/

inductive BboxName where
  | xBegin
  | xEnd
  | yBegin
  | yEnd
  deriving DecidableEq, Repr

def BboxName.field : BboxName → CompositeField
  | xBegin => { name := "x_begin", platform := .number, label := "X Begin", range := some (0, 15) }
  | xEnd => { name := "x_end", platform := .number, label := "X End", range := some (0, 15) }
  | yBegin => { name := "y_begin", platform := .number, label := "Y Begin", range := some (0, 15) }
  | yEnd => { name := "y_end", platform := .number, label := "Y End", range := some (0, 15) }

def bboxFields (xBegin xEnd yBegin yEnd : ℤ) : Fields BboxName.field
  | .xBegin => xBegin
  | .xEnd => xEnd
  | .yBegin => yBegin
  | .yEnd => yEnd

def xBeginKey : Text := ofChars ['x', '_', 'b', 'e', 'g', 'i', 'n']
def xEndKey : Text := ofChars ['x', '_', 'e', 'n', 'd']
def yBeginKey : Text := ofChars ['y', '_', 'b', 'e', 'g', 'i', 'n']
def yEndKey : Text := ofChars ['y', '_', 'e', 'n', 'd']

/-- `int(d[key])`. -/
def intItem (d : Value F) (key : Text) : Except Exception ℤ := item d key >>= toInt python

def bboxRegionJson : Codec where
  Name := BboxName
  decidable := inferInstance
  field := BboxName.field
  defaults := bboxFields 0 8 0 8
  encode f := dumps python (.object
    [(xBeginKey, .int (f .xBegin)), (xEndKey, .int (f .xEnd)), (yBeginKey, .int (f .yBegin)),
      (yEndKey, .int (f .yEnd))])
  decode wire := do
    let d ← loads python wire
    let xBegin ← intItem python d xBeginKey
    let xEnd ← intItem python d xEndKey
    let yBegin ← intItem python d yBeginKey
    let yEnd ← intItem python d yEndKey
    .ok (bboxFields xBegin xEnd yBegin yEnd)

/-! ### `PtzPresetJsonCodec` -/

inductive PtzName where
  | mode
  | x
  | y
  deriving DecidableEq, Repr

def PtzName.field : PtzName → CompositeField
  | mode => { name := "mode", platform := .number, label := "Mode", range := some (0, 10) }
  | x => { name := "x", platform := .number, label := "X", range := some (0, 999) }
  | y => { name := "y", platform := .number, label := "Y", range := some (0, 999) }

def ptzFields (mode x y : ℤ) : Fields PtzName.field
  | .mode => mode
  | .x => x
  | .y => y

def modeKey : Text := ofChars ['m', 'o', 'd', 'e']
def xKey : Text := ofChars ['x']
def yKey : Text := ofChars ['y']

def ptzPresetJson : Codec where
  Name := PtzName
  decidable := inferInstance
  field := PtzName.field
  defaults := ptzFields 0 999 999
  encode f := dumps python (.object
    [(modeKey, .int (f .mode)), (xKey, .int (f .x)), (yKey, .int (f .y))])
  decode wire := do
    let d ← loads python wire
    let mode ← intItem python d modeKey
    let x ← intItem python d xKey
    let y ← intItem python d yKey
    .ok (ptzFields mode x y)

/-! ### `CODECS` -/

inductive Kind where
  | packedPeriod
  | brightness
  | scheduleJson
  | regionJson
  | bboxRegionJson
  | ptzPresetJson
  deriving DecidableEq, Repr

def Kind.codec : Kind → Codec
  | packedPeriod => Codecs.packedPeriod
  | brightness => Codecs.brightness
  | scheduleJson => Codecs.scheduleJson python
  | regionJson => Codecs.regionJson python
  | bboxRegionJson => Codecs.bboxRegionJson python
  | ptzPresetJson => Codecs.ptzPresetJson python

end

/-! ## The controller -/

section
variable (codec : Codec)

structure State where
  /-- `_fields`. -/
  fields : Fields codec.field
  /-- `_seeded`. -/
  seeded : Bool
  /-- The wire value of the device, as far as it has been seeded or written. -/
  device : Option Text

inductive Label where
  | seed (wire : Text)
  /-- An entity's call of `async_set`, whose write succeeds. -/
  | asyncSet (name : codec.Name) (value : (codec.field name).platform.Value)

variable {codec}

/-- An entity can pass the value: a number lies in its range. -/
def Within (field : CompositeField) : field.platform.Value → Prop :=
  match field with
  | ⟨_, .number, _, some (least, greatest), _⟩ => fun value => least ≤ value ∧ value ≤ greatest
  | _ => fun _ => True

/-- A seed can be decoded, and an entity can pass a value. -/
def Possible (_state : State codec) : Label codec → Prop
  | .seed wire => Returns (codec.decode wire)
  | .asyncSet name value => Within (codec.field name) value

def perform (state : State codec) : Label codec → Except Exception (State codec)
  | .seed wire =>
      match codec.decode wire with
      | .error _ => .ok state
      | .ok fields => .ok ⟨fields, true, some wire⟩
  | .asyncSet name value => do
      let newFields := Function.update state.fields name value
      let wire ← codec.encode newFields
      .ok { state with fields := newFields, device := some wire }

variable (codec)

/-- A controller from its defaults on. -/
def machine : Machine (State codec) (Label codec) where
  initial state := state = ⟨codec.defaults, false, none⟩
  step state label next := Possible state label ∧ perform state label = .ok next

end

/-! ## What a wire value has room for -/

section
variable {F : Type} (python : Interpreter F)

/-- No seconds, and no time zone. -/
def WholeMinute (time : Time) : Prop := time.toMinute = time

/-- The text is what `dumps` writes for an array or an object. -/
def IsJsonOf (text : Text) (inner : Value F) : Prop :=
  Sound inner ∧ dumps python inner = .ok text ∧
    ((∃ items, inner = .array items) ∨ ∃ members, inner = .object members)

/-- The wire value has room for all of the fields. -/
def Carried : (kind : Kind) → Fields (kind.codec python).field → Prop
  | .packedPeriod => fun f => WholeMinute (f PeriodName.start) ∧ WholeMinute (f PeriodName.stop)
  | .brightness => fun f =>
      let auto : Bool := f BrightnessName.auto
      let colour : ℤ := f BrightnessName.colour
      let bw : ℤ := f BrightnessName.bw
      if auto then colour = 100 ∧ bw = 100 else colour ≠ 0 ∨ bw ≠ 0
  | .scheduleJson => fun f => WholeMinute (f ScheduleName.start) ∧ WholeMinute (f ScheduleName.stop)
  | .regionJson => fun f =>
      let region : Text := f RegionName.region
      strip region = region ∧ beginsJson region = false ∧ Unsplit region ∨
        ∃ inner, IsJsonOf python region inner
  | .bboxRegionJson => fun _ => True
  | .ptzPresetJson => fun _ => True

/-- When one field is set, the wire value has room for the others. -/
def Spares : (kind : Kind) → Fields (kind.codec python).field → (kind.codec python).Name → Prop
  | .brightness => fun f name =>
      let auto : Bool := f BrightnessName.auto
      let colour : ℤ := f BrightnessName.colour
      let bw : ℤ := f BrightnessName.bw
      if auto then
        (name ≠ BrightnessName.colour → colour = 100) ∧ (name ≠ BrightnessName.bw → bw = 100)
      else colour ≠ 0 ∨ bw ≠ 0
  | .scheduleJson => fun f name =>
      (name ≠ ScheduleName.start → WholeMinute (f ScheduleName.start)) ∧
        (name ≠ ScheduleName.stop → WholeMinute (f ScheduleName.stop))
  | .regionJson => fun f _ => Carried python .regionJson f
  | _ => fun _ _ => True

/-- Numbers are what the wire value has bits for. -/
def Kept : (kind : Kind) → Fields (kind.codec python).field → Prop
  | .brightness => fun f =>
      let colour : ℤ := f BrightnessName.colour
      let bw : ℤ := f BrightnessName.bw
      (0 ≤ colour ∧ colour < 0x10000) ∧ 0 ≤ bw ∧ bw < 0x10000
  | _ => fun _ => True

/-- A region that is a bare text and not blank, or that comes from an array or an object. -/
def Encodable : (kind : Kind) → Fields (kind.codec python).field → Prop
  | .regionJson => fun f =>
      let region : Text := f RegionName.region
      beginsJson (strip region) = false ∨ ∃ wire inner,
        (loads python wire >>= fun d => item d detectRegionKey) = .ok inner ∧
          ((∃ items, inner = .array items) ∨ ∃ members, inner = .object members) ∧
            dumps python inner = .ok region
  | _ => fun _ => True

end

/-- The codec has made the fields itself. -/
def Produced (codec : Codec) (fields : Fields codec.field) : Prop :=
  fields = codec.defaults ∨ ∃ wire, codec.decode wire = .ok fields

/-- The controller and the device agree. -/
structure Agrees {codec : Codec} (carried : Fields codec.field → Prop)
    (spares : Fields codec.field → codec.Name → Prop) (state : State codec) : Prop where
  /-- The device has the fields that the controller shows, if there has been room for them. -/
  shown : ∀ wire, state.device = some wire →
    codec.decode wire = .ok state.fields ∨ ¬ carried state.fields
  /-- Once it has them, the device keeps its other fields when one is set. -/
  siblings : ∀ name value next, Possible state (.asyncSet name value) →
    perform state (.asyncSet name value) = .ok next → spares next.fields name →
    ∀ wire, state.device = some wire → codec.decode wire = .ok state.fields →
      ∃ wire' after, next.device = some wire' ∧ codec.decode wire' = .ok after ∧
        ∀ other, other ≠ name → after other = state.fields other

/-! ## Integers -/

theorem exists_digitChar {letter : Char} (digit : letter.isDigit = true) :
    ∃ value < 10, letter = Nat.digitChar value := by
  have bounds : 48 ≤ letter.toNat ∧ letter.toNat ≤ 57 := Char.isDigit_iff_toNat.mp digit
  refine ⟨letter.toNat - 48, by omega, ?_⟩
  apply Char.toNat_inj.mp
  rw [Nat.toNat_digitChar_of_lt_ten (by omega)]
  omega

theorem decimalValue_of_isDigit {letter : Char} (digit : letter.isDigit = true) :
    decimalValue letter = some (letter.toNat - '0'.toNat) ∧ Python.isSpace letter = false ∧
      letter ≠ '-' ∧ letter ≠ '+' := by
  obtain ⟨value, small, rfl⟩ := exists_digitChar digit
  have all : ∀ value < 10, decimalValue (Nat.digitChar value) =
      some ((Nat.digitChar value).toNat - '0'.toNat) ∧
        Python.isSpace (Nat.digitChar value) = false ∧ Nat.digitChar value ≠ '-' ∧
          Nat.digitChar value ≠ '+' := by decide
  exact all value small

/-- Nothing is stripped that begins and ends with something else than whitespace. -/
theorem strip_eq_self {text : Text} {first last : CodePoint} (begins : text.head? = some first)
    (ends : text.getLast? = some last) (front : isSpacePoint first = false)
    (back : isSpacePoint last = false) : strip text = text := by
  have still : text.dropWhile isSpacePoint = text := by
    obtain ⟨behind, rfl⟩ := List.head?_eq_some_iff.mp begins
    rw [List.dropWhile_cons_of_neg (by simp [front])]
  have still' : text.reverse.dropWhile isSpacePoint = text.reverse := by
    have begins' : text.reverse.head? = some last := by rw [List.head?_reverse, ends]
    obtain ⟨behind, same⟩ := List.head?_eq_some_iff.mp begins'
    rw [same, List.dropWhile_cons_of_neg (by simp [back])]
  rw [strip, still, still', List.reverse_reverse]

section
variable {text : List Char} (digits : ∀ letter ∈ text, letter.isDigit = true)
include digits

theorem python_strip_digits : Python.strip text = text := by
  have still : ∀ text : List Char, (∀ letter ∈ text, letter.isDigit = true) →
      text.dropWhile Python.isSpace = text := by
    intro text digits
    cases text with
    | nil => rfl
    | cons letter text =>
        have plain := (decimalValue_of_isDigit (digits letter List.mem_cons_self)).2.1
        rw [List.dropWhile_cons_of_neg (by simp [plain])]
  rw [Python.strip, still text digits, still text.reverse, List.reverse_reverse]
  intro letter member
  exact digits letter (List.mem_reverse.mp member)

theorem python_digits (after : Bool) (nonempty : text ≠ [] ∨ after = true) :
    Python.digits after text = some (text.map fun letter => letter.toNat - '0'.toNat) := by
  induction text generalizing after with
  | nil =>
      rw [Python.digits, if_pos (nonempty.resolve_left (absurd rfl))]
      rfl
  | cons letter text induction =>
      have value := (decimalValue_of_isDigit (digits letter List.mem_cons_self)).1
      have rest := induction (fun other member => digits other (List.mem_cons_of_mem _ member)) true
        (Or.inr rfl)
      rw [Python.digits, value]
      simp only [rest]
      rfl

theorem python_int_digits (nonempty : text ≠ []) (short : text.length ≤ maxDigits) :
    Python.int text = some (Nat.ofDigitChars 10 text 0 : ℤ) := by
  have unsigned : Python.sign text = (false, text) := by
    cases text with
    | nil => exact absurd rfl nonempty
    | cons letter text =>
        have plain := (decimalValue_of_isDigit (digits letter List.mem_cons_self)).2.2
        rw [Python.sign]
        · exact fun _ same => plain.1 (List.cons.inj same).1
        · exact fun _ same => plain.2 (List.cons.inj same).1
  have fold : ∀ (text : List Char) (init : ℕ), text.foldl
      (fun (value : ℤ) letter => 10 * value + (letter.toNat - '0'.toNat : ℕ)) (init : ℤ) =
        (Nat.ofDigitChars 10 text init : ℕ) := by
    intro text
    induction text with
    | nil => exact fun _ => rfl
    | cons letter text induction =>
        intro init
        rw [Nat.ofDigitChars_cons, ← induction]
        rfl
  have count : (text.map fun letter => letter.toNat - '0'.toNat).length ≤ Python.maxStrDigits := by
    rw [List.length_map]
    exact short
  rw [Python.int, python_strip_digits digits]
  simp only [unsigned, python_digits digits false (Or.inl nonempty), Option.filter,
    decide_eq_true count, if_true, Option.map_some, bind_pure_comp, List.map_eq_map, List.foldl_map]
  exact congrArg some (fold text 0)

end

theorem chars?_ofChars (chars : List Char) : chars? (ofChars chars) = some chars := by
  induction chars with
  | nil => rfl
  | cons letter chars induction =>
      rw [chars?, ofChars] at induction
      rw [chars?, ofChars, List.map_cons, List.mapM_cons, induction]
      rfl

/-- What `str` writes for a natural number, `int` reads. -/
theorem intOfText_strOfInt {value : ℕ} {wire : Text} (written : strOfInt value = .ok wire) :
    intOfText wire = .ok (value : ℤ) := by
  rw [strOfInt] at written
  split at written
  · cases written
  · rename_i short
    rw [Int.natAbs_natCast, Nat.not_lt] at short
    cases written
    have plain : writeInt (value : ℤ) = Nat.toDigits 10 value := by
      rw [writeInt, if_neg (by omega), List.nil_append, Int.natAbs_natCast]
    have read : Python.int (Nat.toDigits 10 value) = some (value : ℤ) := by
      rw [python_int_digits (isDigit_toDigits value) Nat.toDigits_ne_nil short,
        Nat.ofDigitChars_ten_toDigits]
    rw [plain, intOfText, chars?_ofChars, Option.bind_some, read]

/-! ## There and back -/

/-- Numbers side by side in one. -/
theorem packed_eq {low width : ℕ} (fits : low < 2 ^ width) (high : ℕ) :
    high <<< width ||| low = high * 2 ^ width + low := by
  rw [← Nat.shiftLeft_add_eq_or_of_lt fits, Nat.shiftLeft_eq]

theorem period_packed (start stop : Time) (enabled : Bool) :
    timeToMins start <<< 12 ||| timeToMins stop <<< 1 ||| (if enabled then 0 else 1) =
      timeToMins start * 4096 + (timeToMins stop * 2 + (if enabled then 0 else 1)) := by
  have after := timeToMins_lt stop
  have flag : (if enabled then 0 else 1) < 2 := by
    split
    all_goals omega
  have low : timeToMins stop <<< 1 ||| (if enabled then 0 else 1) =
      timeToMins stop * 2 + (if enabled then 0 else 1) := packed_eq flag _
  rw [Nat.or_assoc, low]
  exact packed_eq (by omega) _

theorem period_back {start stop : Time} {enabled : Bool} {wire : Text}
    (written : packedPeriod.encode (periodFields start stop enabled) = .ok wire) :
    packedPeriod.decode wire = .ok (periodFields start.toMinute stop.toMinute enabled) := by
  have after := timeToMins_lt stop
  have flag : (if enabled then 0 else 1) < 2 := by
    split
    all_goals omega
  have packed := intOfText_strOfInt written
  change intOfText wire = .ok ((timeToMins start <<< 12 ||| timeToMins stop <<< 1 |||
    (if enabled then 0 else 1) : ℕ) : ℤ) at packed
  rw [period_packed] at packed
  have first : (↑(timeToMins start * 4096 + (timeToMins stop * 2 + if enabled then 0 else 1)) : ℤ)
      >>> (12 : ℕ) = timeToMins start := by
    rw [Int.shiftRight_eq_div_pow]
    omega
  have second : (↑(timeToMins start * 4096 + (timeToMins stop * 2 + if enabled then 0 else 1)) : ℤ)
      >>> (1 : ℕ) % 0x800 = timeToMins stop := by
    rw [Int.shiftRight_eq_div_pow]
    omega
  have third : decide ((↑(timeToMins start * 4096 + (timeToMins stop * 2 +
      if enabled then 0 else 1)) : ℤ) % 2 = 0) = enabled := by
    cases enabled with
    | true => simp; omega
    | false => simp; omega
  change (intOfText wire >>= _) = _
  rw [packed, ok_bind, first, second, third, minsToTime_timeToMins, minsToTime_timeToMins]
  rfl

theorem brightness_back {auto : Bool} {colour bw : ℤ} (fits : 0 ≤ colour ∧ colour < 0x10000)
    (fits' : 0 ≤ bw ∧ bw < 0x10000)
    (carried : if auto then colour = 100 ∧ bw = 100 else colour ≠ 0 ∨ bw ≠ 0) {wire : Text}
    (written : brightness.encode (brightnessFields auto colour bw) = .ok wire) :
    brightness.decode wire = .ok (brightnessFields auto colour bw) := by
  cases auto with
  | true =>
      obtain ⟨rfl, rfl⟩ := carried
      cases written
      have zero : intOfText (ofChars ['0']) = .ok 0 := rfl
      change (intOfText (ofChars ['0']) >>= _) = _
      rw [zero, ok_bind]
      rfl
  | false =>
      have packed := intOfText_strOfInt written
      change intOfText wire = .ok (((bw % 0x10000).toNat <<< 16 |||
        (colour % 0x10000).toNat : ℕ) : ℤ) at packed
      have fits'' : (colour % 0x10000).toNat < 2 ^ 16 := by omega
      have whole := packed_eq fits'' (bw % 0x10000).toNat
      have value : (((bw % 0x10000).toNat <<< 16 ||| (colour % 0x10000).toNat : ℕ) : ℤ) =
          bw * 0x10000 + colour := by
        rw [whole]
        omega
      rw [value] at packed
      have nonzero : bw * 0x10000 + colour ≠ 0 := by
        have some : colour ≠ 0 ∨ bw ≠ 0 := carried
        omega
      have low : (bw * 0x10000 + colour) % 0x10000 = colour := by omega
      have high : (bw * 0x10000 + colour) >>> (16 : ℕ) % 0x10000 = bw := by
        rw [Int.shiftRight_eq_div_pow]
        omega
      change (intOfText wire >>= _) = _
      rw [packed, ok_bind, if_neg nonzero, low, high]
      rfl

section
variable {F : Type} {python : Interpreter F}

theorem dumps_eq_ok_iff {value : Value F} {text : Text} : dumps python value = .ok text ↔
    ∃ chars, JsonText.dumps standard python.floats python.levels value = .ok chars ∧
      text = ofChars chars := by
  rw [dumps]
  cases JsonText.dumps standard python.floats python.levels value with
  | error failure => exact ⟨nofun, nofun⟩
  | ok chars =>
      constructor
      · rintro ⟨⟩
        exact ⟨chars, rfl, rfl⟩
      · rintro ⟨_, ⟨⟩, rfl⟩
        rfl

theorem loads_of_dumps {value : Value F} (sound : Sound value) {text : Text}
    (written : dumps python value = .ok text) : loads python text = .ok value := by
  obtain ⟨chars, direct, rfl⟩ := dumps_eq_ok_iff.mp written
  rw [loads, loads_dumps standard sound direct]
  rfl

theorem unsplit_ofChars (chars : List Char) : Unsplit (ofChars chars) := by
  induction chars with
  | nil => exact List.isChain_nil
  | cons letter chars induction => exact unsplit_char_cons induction

/-- A pattern of days without a line break consists of bits. -/
theorem bits_of_matchesRepeat {days : Text} (good : matchesRepeat days = true)
    (unbroken : CodePoint.char '\n' ∉ days) :
    ∀ point ∈ days, point = .char '0' ∨ point = .char '1' := by
  rw [matchesRepeat, Bool.and_eq_true, Bool.and_eq_true, List.all_eq_true] at good
  obtain ⟨⟨_, all⟩, behind⟩ := good
  have none : days.drop 7 = [] := by
    rcases Bool.or_eq_true _ _ ▸ behind with empty | line
    · exact of_decide_eq_true empty
    · have member : CodePoint.char '\n' ∈ days := by
        apply List.mem_of_mem_drop (i := 7)
        rw [of_decide_eq_true line]
        exact List.mem_singleton_self _
      exact absurd member unbroken
  have whole : days.take 7 = days := by
    have parts := List.take_append_drop 7 days
    rwa [none, List.append_nil] at parts
  rw [whole] at all
  intro point member
  have bit := all point member
  rw [Bool.or_eq_true, decide_eq_true_iff, decide_eq_true_iff] at bit
  exact bit

theorem sound_schedule (start stop : Time) (bits : List ℤ) : Sound (F := F) (.object
    [(starttimeKey, .string (ofChars (strftimeMinute start))),
      (endtimeKey, .string (ofChars (strftimeMinute stop))),
      (repeatKey, .array (bits.map .int))]) := by
  apply Sound.object
  · simp [starttimeKey, endtimeKey, repeatKey, unsplit_ofChars]
  · intro member known
    simp only [List.mem_cons, List.not_mem_nil, or_false] at known
    rcases known with rfl | rfl | rfl
    · exact .string (unsplit_ofChars _)
    · exact .string (unsplit_ofChars _)
    · apply Sound.array
      intro item member
      obtain ⟨bit, _, rfl⟩ := List.mem_map.mp member
      exact .int bit
  · have distinct : [starttimeKey, endtimeKey, repeatKey].Nodup := by decide
    exact distinct

/-- The bits of a pattern are written as they have been read. -/
theorem bits_back {days : Text} {bits : List ℤ}
    (read : List.Forall₂ (fun point bit => intOfText [point] = .ok bit) days bits)
    (plain : ∀ point ∈ days, point = .char '0' ∨ point = .char '1') :
    (bits.map Value.int).mapM (fun bit => toInt python bit >>= strOfInt) =
      .ok (days.map fun point => [point]) := by
  induction read with
  | nil => rfl
  | @cons point bit days bits first _ induction =>
      have step : (toInt python (.int bit) >>= strOfInt) = .ok [point] := by
        rcases plain point List.mem_cons_self with rfl | rfl
        · have zero : intOfText [.char '0'] = .ok 0 := rfl
          rw [zero] at first
          cases first
          rfl
        · have one : intOfText [.char '1'] = .ok 1 := rfl
          rw [one] at first
          cases first
          rfl
      rw [List.map_cons, List.mapM_cons, step, ok_bind,
        induction fun point member => plain point (List.mem_cons_of_mem _ member), ok_bind]
      rfl

theorem schedule_back {start stop : Time} {days : Text} {wire : Text}
    (written : (scheduleJson python).encode (scheduleFields start stop days) = .ok wire) :
    (scheduleJson python).decode wire =
      .ok (scheduleFields start.toMinute stop.toMinute days) := by
  change (if !matchesRepeat days then _ else _) = _ at written
  split at written
  · cases written
  · rename_i good
    rw [Bool.not_eq_true', Bool.not_eq_false] at good
    obtain ⟨bits, read, written⟩ := bind_eq_ok_iff.mp written
    have unbroken : CodePoint.char '\n' ∉ days := by
      intro member
      obtain ⟨_, value⟩ := returns_of_mapM read _ member
      cases value
    have bit := bits_of_matchesRepeat good unbroken
    have loaded := loads_of_dumps (sound_schedule start stop bits) written
    have back : (bits.map Value.int).mapM (fun bit => toInt python bit >>= strOfInt) =
        .ok (days.map fun point => [point]) := bits_back (mapM_eq_ok_iff.mp read) bit
    have flat : (days.map fun point => [point]).flatten = days := by
      rw [← List.flatMap_def, List.flatMap_singleton']
    have time : ∀ time, timeFromIsoformat (F := F) (.string (ofChars (strftimeMinute time))) =
        .ok time.toMinute := by
      intro time
      rw [timeFromIsoformat, chars?_ofChars, Option.bind_some, fromisoformat_strftimeMinute]
    change (loads python wire >>= _) = _
    rw [loaded, ok_bind]
    change ((bits.map Value.int).mapM (fun bit => toInt python bit >>= strOfInt) >>= _) = _
    rw [back, ok_bind, flat, good]
    change (timeFromIsoformat (F := F) (.string (ofChars (strftimeMinute start))) >>= _) = _
    rw [time, ok_bind]
    change (timeFromIsoformat (F := F) (.string (ofChars (strftimeMinute stop))) >>= _) = _
    rw [time, ok_bind]
    rfl

/-- The text of an array or an object stands in its brackets. -/
theorem shape_of_dumps {inner : Value F}
    (nested : (∃ items, inner = .array items) ∨ ∃ members, inner = .object members) {text : Text}
    (written : dumps python inner = .ok text) : ∃ first last,
      text.head? = some (.char first) ∧ text.getLast? = some (.char last) ∧
        (first = '[' ∨ first = '{') ∧ (last = ']' ∨ last = '}') := by
  obtain ⟨chars, direct, rfl⟩ := dumps_eq_ok_iff.mp written
  have ends : ∀ (first last : Char) (middle : List Char),
      (ofChars (first :: (middle ++ [last]))).head? = some (.char first) ∧
        (ofChars (first :: (middle ++ [last]))).getLast? = some (.char last) := by
    intro first last middle
    refine ⟨rfl, ?_⟩
    rw [ofChars, List.getLast?_map, ← List.cons_append, List.getLast?_append]
    rfl
  change write standard python.floats python.levels inner = _ at direct
  generalize python.levels = levels at direct
  cases levels with
  | zero =>
      rcases nested with ⟨items, rfl⟩ | ⟨members, rfl⟩
      · cases direct
      · cases direct
  | succ levels =>
      rcases nested with ⟨items, rfl⟩ | ⟨members, rfl⟩
      · rw [write] at direct
        obtain ⟨texts, _, same⟩ := bind_eq_ok_iff.mp direct
        cases same
        exact ⟨'[', ']', (ends _ _ _).1, (ends _ _ _).2, Or.inl rfl, Or.inl rfl⟩
      · rw [write] at direct
        obtain ⟨texts, _, same⟩ := bind_eq_ok_iff.mp direct
        cases same
        exact ⟨'{', '}', (ends _ _ _).1, (ends _ _ _).2, Or.inr rfl, Or.inr rfl⟩

theorem begins_of_dumps {inner : Value F}
    (nested : (∃ items, inner = .array items) ∨ ∃ members, inner = .object members) {text : Text}
    (written : dumps python inner = .ok text) : strip text = text ∧ beginsJson text = true := by
  obtain ⟨first, last, head, tail, opens, closes⟩ := shape_of_dumps nested written
  refine ⟨strip_eq_self head tail ?_ ?_, ?_⟩
  · rcases opens with rfl | rfl
    all_goals rfl
  · rcases closes with rfl | rfl
    all_goals rfl
  · obtain ⟨behind, rfl⟩ := List.head?_eq_some_iff.mp head
    rcases opens with rfl | rfl
    all_goals rfl

/-- The JSON of an array or an object is read as it is. -/
theorem IsJsonOf.read {region : Text} {inner : Value F} (json : IsJsonOf python region inner) :
    strip region = region ∧ beginsJson region = true ∧ loads python region = .ok inner := by
  obtain ⟨sound, written, nested⟩ := json
  obtain ⟨bare, begins⟩ := begins_of_dumps nested written
  exact ⟨bare, begins, loads_of_dumps sound written⟩

theorem sound_region {inner : Value F} (sound : Sound inner) :
    Sound (.object [(detectRegionKey, inner)]) := by
  apply Sound.object
  · simp [detectRegionKey, unsplit_ofChars]
  · intro member known
    rw [List.mem_singleton.mp known]
    exact sound
  · exact List.nodup_singleton _

theorem region_back {region : Text} (carried : strip region = region ∧ beginsJson region = false ∧
    Unsplit region ∨ ∃ inner, IsJsonOf python region inner) {wire : Text}
    (written : (regionJson python).encode (regionFields region) = .ok wire) :
    (regionJson python).decode wire = .ok (regionFields region) := by
  change (if beginsJson (strip region) then
      loads python (strip region) >>= fun inner =>
        dumps python (.object [(detectRegionKey, inner)])
    else dumps python (.object [(detectRegionKey, .string (strip region))])) = _ at written
  rcases carried with ⟨bare, plain, unsplit⟩ | ⟨inner, json⟩
  · rw [bare, plain, if_neg Bool.false_ne_true] at written
    have loaded := loads_of_dumps (sound_region (.string unsplit)) written
    change (loads python wire >>= _) = _
    rw [loaded]
    rfl
  · obtain ⟨bare, begins, loaded⟩ := json.read
    rw [bare, begins, if_pos rfl, loaded, ok_bind] at written
    have loaded := loads_of_dumps (sound_region json.1) written
    change (loads python wire >>= _) = _
    rw [loaded, ok_bind]
    have found : item (.object [(detectRegionKey, inner)]) detectRegionKey = .ok inner := rfl
    rw [found, ok_bind]
    obtain ⟨_, shown, nested⟩ := json
    rcases nested with ⟨items, rfl⟩ | ⟨members, rfl⟩
    · simp only [shown]
      rfl
    · simp only [shown]
      rfl

theorem sound_numbers {members : List (Text × Value F)}
    (plain : ∀ member ∈ members, ∃ chars value, member = (ofChars chars, .int value))
    (distinct : (members.map Prod.fst).Nodup) : Sound (.object members) := by
  refine .object ?_ ?_ distinct
  · intro member known
    obtain ⟨chars, value, rfl⟩ := plain member known
    exact unsplit_ofChars chars
  · intro member known
    obtain ⟨chars, value, rfl⟩ := plain member known
    exact .int value

theorem bbox_back {xBegin xEnd yBegin yEnd : ℤ} {wire : Text}
    (written : (bboxRegionJson python).encode (bboxFields xBegin xEnd yBegin yEnd) = .ok wire) :
    (bboxRegionJson python).decode wire = .ok (bboxFields xBegin xEnd yBegin yEnd) := by
  have sound : Sound (F := F) (.object [(xBeginKey, .int xBegin), (xEndKey, .int xEnd),
      (yBeginKey, .int yBegin), (yEndKey, .int yEnd)]) := by
    apply sound_numbers
    · simp [xBeginKey, xEndKey, yBeginKey, yEndKey]
    · have distinct : [xBeginKey, xEndKey, yBeginKey, yEndKey].Nodup := by decide
      exact distinct
  have loaded := loads_of_dumps sound written
  change (loads python wire >>= _) = _
  rw [loaded]
  rfl

theorem ptz_back {mode x y : ℤ} {wire : Text}
    (written : (ptzPresetJson python).encode (ptzFields mode x y) = .ok wire) :
    (ptzPresetJson python).decode wire = .ok (ptzFields mode x y) := by
  have sound : Sound (F := F) (.object [(modeKey, .int mode), (xKey, .int x), (yKey, .int y)]) := by
    apply sound_numbers
    · simp [modeKey, xKey, yKey]
    · have distinct : [modeKey, xKey, yKey].Nodup := by decide
      exact distinct
  have loaded := loads_of_dumps sound written
  change (loads python wire >>= _) = _
  rw [loaded]
  rfl

/-! ## What the codecs make of their own fields -/

theorem periodFields_eta (f : Fields PeriodName.field) :
    f = periodFields (f .start) (f .stop) (f .enabled) := by
  funext name
  cases name
  all_goals rfl

theorem brightnessFields_eta (f : Fields BrightnessName.field) :
    f = brightnessFields (f .auto) (f .colour) (f .bw) := by
  funext name
  cases name
  all_goals rfl

theorem scheduleFields_eta (f : Fields ScheduleName.field) :
    f = scheduleFields (f .start) (f .stop) (f .days) := by
  funext name
  cases name
  all_goals rfl

theorem regionFields_eta (f : Fields RegionName.field) : f = regionFields (f .region) := by
  funext name
  cases name
  rfl

theorem bboxFields_eta (f : Fields BboxName.field) :
    f = bboxFields (f .xBegin) (f .xEnd) (f .yBegin) (f .yEnd) := by
  funext name
  cases name
  all_goals rfl

theorem ptzFields_eta (f : Fields PtzName.field) : f = ptzFields (f .mode) (f .x) (f .y) := by
  funext name
  cases name
  all_goals rfl

/-- Fields that there is room for are decoded as they have been encoded. -/
theorem decode_encode {kind : Kind} {f : Fields (kind.codec python).field}
    (kept : Kept python kind f) (carried : Carried python kind f) {wire : Text}
    (written : (kind.codec python).encode f = .ok wire) :
    (kind.codec python).decode wire = .ok f := by
  cases kind with
  | packedPeriod =>
      obtain ⟨start, stop⟩ := carried
      have eta := periodFields_eta f
      change packedPeriod.decode wire = _
      rw [eta] at written ⊢
      rw [period_back written, start, stop]
      rfl
  | brightness =>
      have eta := brightnessFields_eta f
      change Codecs.brightness.decode wire = _
      rw [eta] at written ⊢
      exact brightness_back kept.1 kept.2 carried written
  | scheduleJson =>
      obtain ⟨start, stop⟩ := carried
      have eta := scheduleFields_eta f
      change (Codecs.scheduleJson python).decode wire = _
      rw [eta] at written ⊢
      rw [schedule_back written, start, stop]
      rfl
  | regionJson =>
      have eta := regionFields_eta f
      change (Codecs.regionJson python).decode wire = _
      rw [eta] at written ⊢
      exact region_back carried written
  | bboxRegionJson =>
      have eta := bboxFields_eta f
      change (Codecs.bboxRegionJson python).decode wire = _
      rw [eta] at written ⊢
      exact bbox_back written
  | ptzPresetJson =>
      have eta := ptzFields_eta f
      change (Codecs.ptzPresetJson python).decode wire = _
      rw [eta] at written ⊢
      exact ptz_back written

/-- What the codec has made itself, the wire value has bits for. -/
theorem kept_of_produced {kind : Kind} {f : Fields (kind.codec python).field}
    (produced : Produced (kind.codec python) f) : Kept python kind f := by
  have hundred : (0 ≤ (100 : ℤ) ∧ (100 : ℤ) < 0x10000) ∧ 0 ≤ (100 : ℤ) ∧ (100 : ℤ) < 0x10000 := by
    omega
  cases kind with
  | brightness =>
      rcases produced with rfl | ⟨wire, read⟩
      · exact hundred
      · change (intOfText wire >>= fun w => _) = _ at read
        obtain ⟨w, _, read⟩ := bind_eq_ok_iff.mp read
        split at read
        · cases read
          exact hundred
        · cases read
          change (0 ≤ w % 0x10000 ∧ w % 0x10000 < 0x10000) ∧
            0 ≤ (w >>> (16 : ℕ)) % 0x10000 ∧ (w >>> (16 : ℕ)) % 0x10000 < 0x10000
          omega
  | _ => exact trivial

/-- An entity keeps within these bits. -/
theorem kept_update {kind : Kind} {f : Fields (kind.codec python).field}
    (kept : Kept python kind f) {name : (kind.codec python).Name}
    {value : ((kind.codec python).field name).platform.Value}
    (within : Within ((kind.codec python).field name) value) :
    Kept python kind (Function.update f name value) := by
  have percent : ∀ value : ℤ, 0 ≤ value ∧ value ≤ 100 → 0 ≤ value ∧ value < 0x10000 := by omega
  cases kind with
  | brightness =>
      obtain ⟨colour, bw⟩ := kept
      cases name with
      | auto => exact ⟨colour, bw⟩
      | colour => exact ⟨percent _ within, bw⟩
      | bw => exact ⟨colour, percent _ within⟩
  | _ => exact trivial

theorem perform_asyncSet_eq_ok_iff {codec : Codec} {state next : State codec} {name : codec.Name}
    {value : (codec.field name).platform.Value} :
    perform state (.asyncSet name value) = .ok next ↔ ∃ wire,
      codec.encode (Function.update state.fields name value) = .ok wire ∧
        next = ⟨Function.update state.fields name value, state.seeded, some wire⟩ := by
  rw [perform, bind_eq_ok_iff]
  constructor
  · rintro ⟨wire, written, same⟩
    cases same
    exact ⟨wire, written, rfl⟩
  · rintro ⟨wire, written, rfl⟩
    exact ⟨wire, written, rfl⟩

/-- The device has what the controller shows, and the controller keeps to the bits of the wire. -/
structure Shows (kind : Kind) (state : State (kind.codec python)) : Prop where
  kept : Kept python kind state.fields
  shown : ∀ wire, state.device = some wire →
    (kind.codec python).decode wire = .ok state.fields ∨ ¬ Carried python kind state.fields

theorem step_shows {kind : Kind} {state next : State (kind.codec python)}
    (holds : Shows kind state) {label : Label (kind.codec python)}
    (steps : (machine (kind.codec python)).step state label next) : Shows kind next := by
  obtain ⟨possible, performed⟩ := steps
  cases label with
  | seed wire =>
      obtain ⟨fields, read⟩ := possible
      rw [perform, read] at performed
      cases performed
      refine ⟨kept_of_produced (Or.inr ⟨wire, read⟩), ?_⟩
      rintro _ ⟨⟩
      exact Or.inl read
  | asyncSet name value =>
      obtain ⟨wire, written, rfl⟩ := perform_asyncSet_eq_ok_iff.mp performed
      have kept := kept_update holds.kept possible
      refine ⟨kept, ?_⟩
      rintro _ ⟨⟩
      by_cases carried : Carried python kind (Function.update state.fields name value)
      · exact Or.inl (decode_encode kept carried written)
      · exact Or.inr carried

/-- The times that a period is decoded into are whole minutes, which it has room for. -/
theorem period_siblings {f after : Fields PeriodName.field} {name : PeriodName} {before wire : Text}
    (read : packedPeriod.decode before = .ok f)
    (same : ∀ other, other ≠ name → after other = f other)
    (written : packedPeriod.encode after = .ok wire) :
    ∃ back, packedPeriod.decode wire = .ok back ∧ ∀ other, other ≠ name → back other = f other := by
  have eta := periodFields_eta after
  rw [eta] at written
  refine ⟨_, period_back written, fun other different => ?_⟩
  obtain ⟨w, -, made⟩ := bind_eq_ok_iff.mp read
  cases made
  cases other with
  | start => exact congrArg Time.toMinute (same _ different)
  | stop => exact congrArg Time.toMinute (same _ different)
  | enabled => exact same _ different

theorem schedule_siblings {f after : Fields ScheduleName.field} {name : ScheduleName} {wire : Text}
    (same : ∀ other, other ≠ name → after other = f other)
    (spares : Spares python .scheduleJson after name)
    (written : (scheduleJson python).encode after = .ok wire) :
    ∃ back, (scheduleJson python).decode wire = .ok back ∧
      ∀ other, other ≠ name → back other = f other := by
  have eta := scheduleFields_eta after
  rw [eta] at written
  refine ⟨_, schedule_back written, fun other different => ?_⟩
  cases other with
  | start => exact (spares.1 different.symm).trans (same _ different)
  | stop => exact (spares.2 different.symm).trans (same _ different)
  | days => exact same _ different

/-- `Auto` is written as a zero, which is read with two full brightnesses. -/
theorem brightness_siblings {f after : Fields BrightnessName.field} {name : BrightnessName}
    {wire : Text} (same : ∀ other, other ≠ name → after other = f other)
    (auto : after BrightnessName.auto = true) (spares : Spares python .brightness after name)
    (written : brightness.encode after = .ok wire) :
    ∃ back, brightness.decode wire = .ok back ∧ ∀ other, other ≠ name → back other = f other := by
  have eta := brightnessFields_eta after
  rw [eta, auto] at written
  cases written
  refine ⟨brightnessFields true 100 100, rfl, fun other different => ?_⟩
  obtain ⟨colour, bw⟩ := (if_pos auto).mp spares
  cases other with
  | auto => exact auto.symm.trans (same _ different)
  | colour => exact (colour different.symm).symm.trans (same _ different)
  | bw => exact (bw different.symm).symm.trans (same _ different)

/-- Beside a field that is set, the others come back as the codec has made them. -/
theorem siblings_back {kind : Kind} {f after : Fields (kind.codec python).field}
    {name : (kind.codec python).Name} {before wire : Text}
    (read : (kind.codec python).decode before = .ok f)
    (same : ∀ other, other ≠ name → after other = f other) (kept : Kept python kind after)
    (spares : Spares python kind after name) (written : (kind.codec python).encode after = .ok wire) :
    ∃ back, (kind.codec python).decode wire = .ok back ∧
      ∀ other, other ≠ name → back other = f other := by
  have whole (carried : Carried python kind after) : ∃ back,
      (kind.codec python).decode wire = .ok back ∧ ∀ other, other ≠ name → back other = f other :=
    ⟨after, decode_encode kept carried written, same⟩
  cases kind with
  | packedPeriod => exact period_siblings read same written
  | scheduleJson => exact schedule_siblings same spares written
  | brightness =>
      by_cases auto : after BrightnessName.auto = true
      · exact brightness_siblings same auto spares written
      · have carried : Carried python .brightness after :=
          (if_neg auto).mpr ((if_neg auto).mp spares)
        exact whole carried
  | regionJson => exact whole spares
  | bboxRegionJson => exact whole trivial
  | ptzPresetJson => exact whole trivial

theorem Shows.agrees {kind : Kind} {state : State (kind.codec python)} (holds : Shows kind state) :
    Agrees (Carried python kind) (Spares python kind) state where
  shown := holds.shown
  siblings name value next possible performed spares before _ read := by
    obtain ⟨wire, written, rfl⟩ := perform_asyncSet_eq_ok_iff.mp performed
    obtain ⟨after, back, same⟩ := siblings_back read
      (fun _ different => Function.update_of_ne different _ _) (kept_update holds.kept possible) spares
      written
    exact ⟨wire, after, rfl, back, same⟩

theorem agrees_of_run {kind : Kind} {labels : List (Label (kind.codec python))}
    {state : State (kind.codec python)}
    (run : (machine (kind.codec python)).Run (fun _ _ => True) labels state) :
    Agrees (Carried python kind) (Spares python kind) state := by
  have holds : Shows kind state := by
    refine run.invariant ?_ fun _ _ _ holds _ steps => step_shows holds steps
    rintro _ rfl
    exact ⟨kept_of_produced (Or.inl rfl), nofun⟩
  exact holds.agrees

/-! ## What is encoded -/

theorem short_of_lt {value : ℤ} (small : value.natAbs < 10 ^ maxDigits) : Short value := by
  have nonzero : 0 < maxDigits := Nat.succ_pos _
  exact (Nat.length_toDigits_le_iff (by omega) nonzero).mpr small

theorem returns_strOfInt {value : ℤ} (short : Short value) : Returns (strOfInt value) := by
  rw [strOfInt, if_neg (Nat.not_lt.mpr short)]
  exact returns_ok _

/-- Numbers of up to ten digits are written. -/
theorem returns_strOfInt_of_lt {value : ℕ} (small : value < 10 ^ 10) :
    Returns (strOfInt value) := by
  apply returns_strOfInt
  apply short_of_lt
  rw [Int.natAbs_natCast]
  exact Nat.lt_of_lt_of_le small (Nat.pow_le_pow_right (by omega) (by rw [maxDigits]; omega))

theorem returns_dumps_iff {value : Value F} : Returns (dumps python value) ↔
    Returns (write standard python.floats python.levels value) := by
  constructor
  · rintro ⟨text, written⟩
    obtain ⟨chars, direct, _⟩ := dumps_eq_ok_iff.mp written
    exact ⟨chars, direct⟩
  · rintro ⟨chars, direct⟩
    exact ⟨_, dumps_eq_ok_iff.mpr ⟨chars, direct, rfl⟩⟩

theorem returns_period (start stop : Time) (enabled : Bool) :
    Returns (packedPeriod.encode (periodFields start stop enabled)) := by
  have before := timeToMins_lt start
  have after := timeToMins_lt stop
  have small : timeToMins start <<< 12 ||| timeToMins stop <<< 1 |||
      (if enabled then 0 else 1) < 10 ^ 10 := by
    rw [period_packed]
    split
    all_goals omega
  exact returns_strOfInt_of_lt small

theorem returns_brightness (auto : Bool) (colour bw : ℤ) :
    Returns (brightness.encode (brightnessFields auto colour bw)) := by
  cases auto with
  | true => exact returns_ok _
  | false =>
      have fits : (colour % 0x10000).toNat < 2 ^ 16 := by omega
      have small : (bw % 0x10000).toNat <<< 16 ||| (colour % 0x10000).toNat < 10 ^ 10 := by
        rw [packed_eq fits]
        omega
      exact returns_strOfInt_of_lt small

/-- An object is written whose values need one more call at most. -/
theorem returns_dumps_object {members : List (Text × Value F)}
    (each : ∀ member ∈ members, ∀ levels,
      Returns (write standard python.floats (levels + 1) member.2)) :
    Returns (dumps python (.object members)) := by
  obtain ⟨levels, same⟩ := Nat.exists_eq_add_of_le python.deep
  have enough : python.levels = levels + 1 + 1 := by omega
  rw [returns_dumps_iff, enough, returns_write_object_iff]
  exact fun member known => each member known levels

theorem returns_write_int {value : ℤ} (short : Short value) (levels : ℕ) :
    Returns (write standard python.floats levels (.int value)) := by
  rw [write, if_neg (Nat.not_lt.mpr short)]
  exact returns_ok _

theorem intOfText_bit {point : CodePoint} (bit : point = .char '0' ∨ point = .char '1') :
    ∃ value, intOfText [point] = .ok value ∧ Short value := by
  have small : ∀ value : ℤ, value.natAbs < 10 ^ 1 → Short value := fun value small =>
    short_of_lt (Nat.lt_of_lt_of_le small (Nat.pow_le_pow_right (by omega) (Nat.le_add_left 1 4299)))
  rcases bit with rfl | rfl
  · exact ⟨0, rfl, small 0 (by omega)⟩
  · exact ⟨1, rfl, small 1 (by omega)⟩

theorem returns_schedule {start stop : Time} {days : Text} (good : matchesRepeat days = true)
    (plain : ∀ point ∈ days, point = .char '0' ∨ point = .char '1') :
    Returns ((scheduleJson python).encode (scheduleFields start stop days)) := by
  obtain ⟨bits, read⟩ : Returns (days.mapM fun point => intOfText [point]) := by
    apply returns_mapM
    intro point member
    obtain ⟨value, same, _⟩ := intOfText_bit (plain point member)
    exact ⟨value, same⟩
  change Returns (if !matchesRepeat days then _ else (days.mapM fun point => intOfText [point]) >>= _)
  rw [good, read, if_neg (by simp), ok_bind]
  apply returns_dumps_object
  intro member known levels
  simp only [List.mem_cons, List.not_mem_nil, or_false] at known
  rcases known with rfl | rfl | rfl
  · exact returns_ok _
  · exact returns_ok _
  · rw [write, returns_bind_of_forall fun _ => returns_ok _]
    apply returns_writeItems
    intro item member
    obtain ⟨bit, known, rfl⟩ := List.mem_map.mp member
    obtain ⟨point, member, same⟩ := exists_of_mapM read bit known
    obtain ⟨value, same', short⟩ := intOfText_bit (plain point member)
    rw [same] at same'
    cases same'
    exact returns_write_int short levels

/-- What `str` writes has no line break. -/
theorem unbroken_strOfInt {value : ℤ} {text : Text} (written : strOfInt value = .ok text) :
    CodePoint.char '\n' ∉ text := by
  rw [strOfInt] at written
  split at written
  · cases written
  · cases written
    intro member
    obtain ⟨letter, known, same⟩ := List.mem_map.mp member
    cases same
    rw [writeInt] at known
    rcases List.mem_append.mp known with sign | digits
    · split at sign
      · exact absurd (List.mem_singleton.mp sign) (by decide)
      · exact absurd sign List.not_mem_nil
    · exact absurd (isDigit_toDigits _ _ digits) (by decide)

theorem returns_schedule_of_decode {wire : Text} {f : Fields ScheduleName.field}
    (read : (scheduleJson python).decode wire = .ok f) :
    Returns ((scheduleJson python).encode f) := by
  obtain ⟨d, _, read⟩ := bind_eq_ok_iff.mp read
  obtain ⟨bits, _, read⟩ := bind_eq_ok_iff.mp read
  obtain ⟨parts, each, read⟩ := bind_eq_ok_iff.mp read
  split at read
  · cases read
  · rename_i good
    rw [Bool.not_eq_true', Bool.not_eq_false] at good
    obtain ⟨start, _, read⟩ := bind_eq_ok_iff.mp read
    obtain ⟨stop, _, read⟩ := bind_eq_ok_iff.mp read
    cases read
    apply returns_schedule good
    apply bits_of_matchesRepeat good
    intro member
    obtain ⟨part, known, inside⟩ := List.mem_flatten.mp member
    obtain ⟨bit, _, written⟩ := exists_of_mapM each part known
    obtain ⟨value, _, written⟩ := bind_eq_ok_iff.mp written
    exact unbroken_strOfInt written inside

theorem loads_eq_ok_iff {text : Text} {value : Value F} : loads python text = .ok value ↔
    JsonText.loads python.floats python.levels text = .ok value := by
  rw [loads]
  cases JsonText.loads python.floats python.levels text with
  | error failure => exact ⟨nofun, nofun⟩
  | ok value' =>
      constructor
      · rintro ⟨⟩
        rfl
      · rintro ⟨⟩
        rfl

/-- A member of an object that has been read can be written with one call less. -/
theorem exists_returns_of_item {wire : Text} {d value : Value F} {key : Text}
    (loaded : loads python wire = .ok d) (found : item d key = .ok value) :
    ∃ levels, python.levels = levels + 1 ∧
      Returns (write standard python.floats levels value) := by
  obtain ⟨levels, same⟩ := Nat.exists_eq_add_of_le python.deep
  have enough : python.levels = levels + 1 + 1 := by omega
  refine ⟨levels + 1, enough, ?_⟩
  have whole := returns_write_of_loads standard (loads_eq_ok_iff.mp loaded)
  cases d with
  | object members =>
      rw [enough, returns_write_object_iff] at whole
      rw [item] at found
      split at found
      · rename_i known
        cases found
        obtain ⟨before, after, rfl, -⟩ := List.lookup_eq_some_iff.mp known
        exact whole _ (List.mem_append_right _ List.mem_cons_self)
      · cases found
  | _ => cases found

theorem returns_region {region : Text} (encodable : Encodable python .regionJson (regionFields region)) :
    Returns ((regionJson python).encode (regionFields region)) := by
  change Returns (if beginsJson (strip region) then
      loads python (strip region) >>= fun inner =>
        dumps python (.object [(detectRegionKey, inner)])
    else dumps python (.object [(detectRegionKey, .string (strip region))]))
  rcases encodable with bare | ⟨wire, inner, from_wire, nested, shown⟩
  · have plain : beginsJson (strip region) = false := bare
    rw [plain, if_neg Bool.false_ne_true]
    apply returns_dumps_object
    intro member known levels
    rw [List.mem_singleton.mp known]
    exact returns_ok _
  · obtain ⟨d, loaded, found⟩ := bind_eq_ok_iff.mp from_wire
    obtain ⟨levels, enough, chars, written⟩ := exists_returns_of_item loaded found
    have same : region = ofChars chars := by
      obtain ⟨chars', direct, same⟩ := dumps_eq_ok_iff.mp shown
      change write standard python.floats python.levels inner = _ at direct
      rw [enough, write_succ written] at direct
      cases direct
      exact same
    change dumps python inner = .ok region at shown
    obtain ⟨bare, begins⟩ := begins_of_dumps nested shown
    obtain ⟨inner', read, _⟩ := exists_readBack_write standard written
    have back : loads python region = .ok inner' := by
      rw [same, loads_eq_ok_iff, enough]
      exact loads_of_readBack read.succ
    have alone := read [] nofun
    have again := returns_write_of_scanOnce standard alone
    rw [bare, begins, if_pos rfl, back, ok_bind, returns_dumps_iff, enough,
      returns_write_object_iff]
    intro member known
    rw [List.mem_singleton.mp known]
    exact again

/-! ### Numbers -/

theorem python_digits_lt {after : Bool} {text : List Char} {digits : List ℕ}
    (read : Python.digits after text = some digits) : ∀ digit ∈ digits, digit < 10 := by
  fun_induction Python.digits after text generalizing digits with
  | case1 =>
      cases read
      exact nofun
  | case2 => cases read
  | case3 after letter text digit value induction =>
      obtain ⟨others, rest, rfl⟩ := Option.map_eq_some_iff.mp read
      refine List.forall_mem_cons.mpr ⟨?_, induction rest⟩
      rw [decimalValue, Option.map_eq_some_iff] at value
      obtain ⟨start, found, rfl⟩ := value
      have range : start ≤ letter.toNat ∧ letter.toNat < start + 10 := by
        simpa using List.find?_some found
      omega
  | case4 after letter text _ _ induction => exact induction read
  | case5 => cases read

theorem foldl_digits_lt {digits : List ℕ} (small : ∀ digit ∈ digits, digit < 10) :
    ∃ value : ℕ, digits.foldl (fun (value : ℤ) (digit : ℕ) => 10 * value + digit) 0 = value ∧
      value < 10 ^ digits.length := by
  have fold : ∀ (digits : List ℕ) (init : ℕ), (∀ digit ∈ digits, digit < 10) →
      ∃ value : ℕ, digits.foldl (fun (value : ℤ) (digit : ℕ) => 10 * value + digit) init = value ∧
        value < 10 ^ digits.length * (init + 1) := by
    intro digits
    induction digits with
    | nil => exact fun init _ => ⟨init, rfl, by simp⟩
    | cons digit digits induction =>
        intro init small
        obtain ⟨first, others⟩ := List.forall_mem_cons.mp small
        obtain ⟨value, same, bound⟩ := induction (10 * init + digit) others
        refine ⟨value, ?_, ?_⟩
        · rw [List.foldl_cons, ← same]
          push_cast
          rfl
        · have most : 10 ^ digits.length * (10 * init + digit + 1) ≤
              10 ^ digits.length * (10 * (init + 1)) := Nat.mul_le_mul_left _ (by omega)
          rw [List.length_cons, Nat.pow_succ, Nat.mul_assoc]
          omega
  obtain ⟨value, same, bound⟩ := fold digits 0 small
  exact ⟨value, same, by omega⟩

theorem short_of_intOfText {text : Text} {value : ℤ} (read : intOfText text = .ok value) :
    Short value := by
  rw [intOfText] at read
  split at read
  · rename_i number
    cases read
    obtain ⟨chars, _, number⟩ := Option.bind_eq_some_iff.mp number
    rw [Python.int] at number
    simp only [Option.map_eq_some_iff, Option.filter_eq_some_iff, decide_eq_true_eq, bind_pure_comp,
      List.map_eq_map, List.foldl_map] at number
    obtain ⟨digits, ⟨known, short⟩, rfl⟩ := number
    obtain ⟨value, same, bound⟩ := foldl_digits_lt (python_digits_lt known)
    have count : digits.length ≤ maxDigits := short
    have bound' := Nat.lt_of_lt_of_le bound (Nat.pow_le_pow_right (by omega) count)
    apply short_of_lt
    rw [same]
    split
    · rw [Int.natAbs_neg, Int.natAbs_natCast]
      exact bound'
    · rw [Int.natAbs_natCast]
      exact bound'
  · cases read

/-- A number that has been read from an object can be written. -/
theorem short_of_intItem {wire : Text} {d : Value F} {key : Text} {value : ℤ}
    (loaded : loads python wire = .ok d) (read : intItem python d key = .ok value) :
    Short value := by
  obtain ⟨inner, found, read⟩ := bind_eq_ok_iff.mp read
  cases inner with
  | bool bit =>
      cases read
      apply short_of_lt
      refine Nat.lt_of_lt_of_le ?_ (Nat.pow_le_pow_right (by omega) (Nat.le_add_left 1 4299))
      cases bit
      all_goals decide
  | int number =>
      cases read
      obtain ⟨levels, _, returns⟩ := exists_returns_of_item loaded found
      rw [write] at returns
      split at returns
      · exact absurd returns (not_returns_error _)
      · rename_i short
        exact Nat.not_lt.mp short
  | float number => exact python.short number value read
  | string text => exact short_of_intOfText read
  | _ => cases read

/-- An object of short integers is written. -/
theorem returns_dumps_numbers {members : List (Text × Value F)}
    (each : ∀ member ∈ members, ∃ value, member.2 = .int value ∧ Short value) :
    Returns (dumps python (.object members)) := by
  apply returns_dumps_object
  intro member known levels
  obtain ⟨value, same, short⟩ := each member known
  rw [same]
  exact returns_write_int short _

theorem short_of_le {value : ℤ} (small : 0 ≤ value ∧ value ≤ 999) : Short value := by
  apply short_of_lt
  have few : value.natAbs < 10 ^ 3 := by omega
  exact Nat.lt_of_lt_of_le few (Nat.pow_le_pow_right (by omega) (Nat.le_add_left 3 4297))

theorem returns_bbox {f : Fields BboxName.field}
    (produced : Produced (bboxRegionJson python) f) :
    Returns ((bboxRegionJson python).encode f) := by
  have short : Short (f .xBegin) ∧ Short (f .xEnd) ∧ Short (f .yBegin) ∧ Short (f .yEnd) := by
    rcases produced with rfl | ⟨wire, read⟩
    · have zero : Short 0 := short_of_le (by omega)
      have eight : Short 8 := short_of_le (by omega)
      exact ⟨zero, eight, zero, eight⟩
    · obtain ⟨d, loaded, read⟩ := bind_eq_ok_iff.mp read
      obtain ⟨xBegin, first, read⟩ := bind_eq_ok_iff.mp read
      obtain ⟨xEnd, second, read⟩ := bind_eq_ok_iff.mp read
      obtain ⟨yBegin, third, read⟩ := bind_eq_ok_iff.mp read
      obtain ⟨yEnd, fourth, read⟩ := bind_eq_ok_iff.mp read
      cases read
      exact ⟨short_of_intItem loaded first, short_of_intItem loaded second,
        short_of_intItem loaded third, short_of_intItem loaded fourth⟩
  apply returns_dumps_numbers
  intro member known
  simp only [List.mem_cons, List.not_mem_nil, or_false] at known
  rcases known with rfl | rfl | rfl | rfl
  · exact ⟨_, rfl, short.1⟩
  · exact ⟨_, rfl, short.2.1⟩
  · exact ⟨_, rfl, short.2.2.1⟩
  · exact ⟨_, rfl, short.2.2.2⟩

theorem returns_ptz {f : Fields PtzName.field} (produced : Produced (ptzPresetJson python) f) :
    Returns ((ptzPresetJson python).encode f) := by
  have short : Short (f .mode) ∧ Short (f .x) ∧ Short (f .y) := by
    rcases produced with rfl | ⟨wire, read⟩
    · have zero : Short 0 := short_of_le (by omega)
      have unset : Short 999 := short_of_le (by omega)
      exact ⟨zero, unset, unset⟩
    · obtain ⟨d, loaded, read⟩ := bind_eq_ok_iff.mp read
      obtain ⟨mode, first, read⟩ := bind_eq_ok_iff.mp read
      obtain ⟨x, second, read⟩ := bind_eq_ok_iff.mp read
      obtain ⟨y, third, read⟩ := bind_eq_ok_iff.mp read
      cases read
      exact ⟨short_of_intItem loaded first, short_of_intItem loaded second,
        short_of_intItem loaded third⟩
  apply returns_dumps_numbers
  intro member known
  simp only [List.mem_cons, List.not_mem_nil, or_false] at known
  rcases known with rfl | rfl | rfl
  · exact ⟨_, rfl, short.1⟩
  · exact ⟨_, rfl, short.2.1⟩
  · exact ⟨_, rfl, short.2.2⟩

/-- Fields that the codec has made itself are encoded. -/
theorem encode_returns {kind : Kind} {f : Fields (kind.codec python).field}
    (produced : Produced (kind.codec python) f) (encodable : Encodable python kind f) :
    Returns ((kind.codec python).encode f) := by
  cases kind with
  | packedPeriod =>
      rw [periodFields_eta f]
      exact returns_period _ _ _
  | brightness =>
      rw [brightnessFields_eta f]
      exact returns_brightness _ _ _
  | scheduleJson =>
      rcases produced with rfl | ⟨wire, read⟩
      · apply returns_schedule rfl
        intro point member
        obtain ⟨letter, known, rfl⟩ := List.mem_map.mp member
        rw [List.eq_of_mem_replicate known]
        exact Or.inr rfl
      · exact returns_schedule_of_decode read
  | regionJson =>
      rw [regionFields_eta f]
      exact returns_region encodable
  | bboxRegionJson => exact returns_bbox produced
  | ptzPresetJson => exact returns_ptz produced

/-- A composite setting and its device agree, whatever is seeded and set, and what a codec has made
itself it encodes. -/
theorem composites_agree (python : Interpreter F) (kind : Kind) :
    (∀ labels state, (machine (kind.codec python)).Run (fun _ _ => True) labels state →
      Agrees (Carried python kind) (Spares python kind) state) ∧
    ∀ f, Produced (kind.codec python) f → Encodable python kind f →
      Returns ((kind.codec python).encode f) :=
  ⟨fun _ _ run => agrees_of_run run, fun _ produced encodable => encode_returns produced encodable⟩

end

/-- An interpreter whose only floating-point number is a half. -/
def halfInterpreter : Interpreter Unit where
  floats := half
  truncate _ := .ok 0
  short := by
    rintro _ _ ⟨⟩
    exact short_of_le (by omega)
  levels := 2
  deep := Nat.le_refl 2

/-- From half past seven until one minute to midnight. -/
def periodWire : Text := ofChars ['1', '8', '4', '6', '0', '7', '8']

/-- A period is seeded, and then its end is set. -/
theorem composites_agree_period :
    Agrees (Carried halfInterpreter .packedPeriod) (Spares halfInterpreter .packedPeriod) (State.mk (Function.update
      (periodFields (.ofMinute 7 30) (.ofMinute 23 59) true) PeriodName.stop (.ofMinute 8 0)) true
        (some (ofChars ['1', '8', '4', '4', '1', '6', '0']))) ∧
      Returns (packedPeriod.encode packedPeriod.defaults) := by
  have agree := composites_agree halfInterpreter .packedPeriod
  refine ⟨agree.1 [.seed periodWire, .asyncSet PeriodName.stop (.ofMinute 8 0)] _ ?_,
    agree.2 _ (Or.inl rfl) trivial⟩
  have run : (machine packedPeriod).Run (fun _ _ => True) [] ⟨packedPeriod.defaults, false, none⟩ :=
    .start rfl
  have read : packedPeriod.decode periodWire =
      .ok (periodFields (.ofMinute 7 30) (.ofMinute 23 59) true) := rfl
  have seeded := run.extend (.seed periodWire) trivial ⟨⟨_, read⟩, rfl⟩
  exact seeded.extend (.asyncSet PeriodName.stop (.ofMinute 8 0)) trivial ⟨trivial, rfl⟩

/-- Once a field has been set on the defaults, the device does not have what the controller shows. -/
def Differs (codec : Codec) (name : codec.Name) (value : (codec.field name).platform.Value) : Prop :=
  ∃ state, (machine codec).Run (fun _ _ => True) [.asyncSet name value] state ∧
    ¬ Agrees (fun _ => True) (fun _ _ => True) state

theorem differs_of_encode {codec : Codec} {name : codec.Name}
    {value : (codec.field name).platform.Value} (within : Within (codec.field name) value)
    {wire : Text} (written : codec.encode (Function.update codec.defaults name value) = .ok wire)
    (other : codec.decode wire ≠ .ok (Function.update codec.defaults name value)) :
    Differs codec name value := by
  have run : (machine codec).Run (fun _ _ => True) [] ⟨codec.defaults, false, none⟩ := .start rfl
  refine ⟨_, run.extend (.asyncSet name value) trivial
    ⟨within, perform_asyncSet_eq_ok_iff.mpr ⟨wire, written, rfl⟩⟩, fun agrees => ?_⟩
  rcases agrees.shown wire rfl with same | no
  · exact other same
  · exact no trivial

/-- A time with seconds and a brightness next to `Auto` come back changed, and a region that has not
been set is not encoded. -/
theorem composites_disagree :
    Differs packedPeriod PeriodName.start ⟨7, 0, 30, 0, none⟩ ∧
      Differs brightness BrightnessName.colour (50 : ℤ) ∧
        ¬ Returns ((regionJson halfInterpreter).encode (regionJson halfInterpreter).defaults) := by
  refine ⟨?_, ?_, not_returns_error _⟩
  · have within : Within PeriodName.start.field (⟨7, 0, 30, 0, none⟩ : Time) := trivial
    apply differs_of_encode within rfl
    intro same
    have start := congrFun (Except.ok.inj same) PeriodName.start
    cases start
  · have within : Within BrightnessName.colour.field (50 : ℤ) := by
      change (0 : ℤ) ≤ 50 ∧ (50 : ℤ) ≤ 100
      omega
    apply differs_of_encode within rfl
    intro same
    have colour := congrFun (Except.ok.inj same) BrightnessName.colour
    cases colour

end Codecs
end Reference
end AqaraLanLink
