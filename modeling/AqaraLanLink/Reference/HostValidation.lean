import AqaraLanLink.Library.Url

/-!
# Hosts that may be put into commands and URLs

A host is an address or a strict name.  An address of IPv6 may have a scope, in which nearly
everything may stand, and a name may have a line feed behind it: nothing else but letters, digits
and the marks of an address is let through.
-/

namespace AqaraLanLink
namespace Reference
namespace HostValidation

open Library AsciiCase
open Library.JsonText (CodePoint Text ofChars)
open Library.PercentEncoding (characters? eq_ofChars)
open Library.Url (partition partition_cases address?)

/-! ## The check -/

def maxHostLen : ℕ := 253

def isLabelLetter (char : Char) : Bool := char.isAlphanum || char == '-'

/-- `_LABEL`. -/
def isLabel (label : List Char) : Bool :=
  label.length ≤ 63 && label.head?.any Char.isAlphanum && label.getLast?.any Char.isAlphanum &&
    label.all isLabelLetter

/-- The dollar stands at the end, or before a line feed at the end. -/
def beforeEnd (chars : List Char) : List Char :=
  if chars.getLast? = some '\n' then chars.dropLast else chars

/-- `_HOSTNAME_RE.match`. -/
def hostnameRe (value : Text) : Bool :=
  match characters? value with
  | some chars => (IpAddress.split '.' (beforeEnd chars)).all isLabel
  | none => false

def isSafeHost (value : Text) : Bool :=
  value ≠ [] && value.length ≤ maxHostLen && ((address? value).isSome || hostnameRe value)

/-! ## What stands in a host -/

/-- A letter, a digit or a mark of an address. -/
def isHostLetter : CodePoint → Bool
  | .char char => char.isAlphanum || char == '-' || char == '.' || char == ':'
  | .surrogate _ => false

/-- What stands behind the first percent sign. -/
def scope (host : Text) : Text := (partition (.char '%') host).2.getD []

variable {value : Text}

theorem isHostLetter_of_isLetter {char : Char} (letter : IpAddress.isLetter char = true) :
    isHostLetter (.char char) = true := by
  simp only [IpAddress.isLetter, Bool.or_eq_true, beq_iff_eq] at letter
  rcases letter with (digit | rfl) | rfl
  · obtain ⟨value, digit⟩ := Option.isSome_iff_exists.mp digit
    rw [IpAddress.digit?] at digit
    have alphanumeric : char.isAlphanum = true := by
      simp only [isAlphanum_iff, isAlpha_iff, isUpper_iff, isLower_iff, Char.isDigit_iff_toNat,
        Option.ite_none_right_eq_some, Char.le_def, UInt32.le_iff_toNat_le, Char.toNat_val]
        at digit ⊢
      have bounds : '0'.toNat = 48 ∧ '9'.toNat = 57 ∧ 'a'.toNat = 97 ∧ 'f'.toNat = 102 ∧
        'A'.toNat = 65 ∧ 'F'.toNat = 70 := by decide
      split at digit
      · omega
      · split at digit
        · omega
        · split at digit
          · omega
          · omega
    simp [isHostLetter, alphanumeric]
  · decide
  · decide

theorem isHostLetter_of_isLabelLetter {char : Char} (letter : isLabelLetter char = true) :
    isHostLetter (.char char) = true := by
  simp only [isLabelLetter, Bool.or_eq_true] at letter
  rcases letter with alphanumeric | hyphen
  · simp [isHostLetter, alphanumeric]
  · simp [isHostLetter, hyphen]

/-- What an accepted value is made of. -/
inductive Accepted : Text → Prop where
  /-- An address or a name. -/
  | plain {value : Text} (letters : ∀ letter ∈ value, isHostLetter letter = true) : Accepted value
  /-- An address of IPv6 with a scope. -/
  | withScope {address scope : Text} (letters : ∀ letter ∈ address, isHostLetter letter = true)
      (colon : CodePoint.char ':' ∈ address) (some : scope ≠ [])
      (others : ∀ letter ∈ scope, letter ≠ .char '%' ∧ letter ≠ .char '/') :
      Accepted (address ++ .char '%' :: scope)
  /-- A name with a line feed behind it. -/
  | fed {name : Text} (letters : ∀ letter ∈ name, isHostLetter letter = true) :
      Accepted (name ++ [.char '\n'])

theorem letters_of_v6? {text : Text} {address : IpAddress.Address}
    (reads : ((characters? text).bind IpAddress.v6?).map .v6 = some address) :
    (∀ letter ∈ text, isHostLetter letter = true) ∧ CodePoint.char ':' ∈ text := by
  obtain ⟨bits, bound, -⟩ := Option.map_eq_some_iff.mp reads
  obtain ⟨chars, all, colons⟩ := Option.bind_eq_some_iff.mp bound
  obtain rfl := eq_ofChars all
  refine ⟨fun letter member => ?_, List.mem_map_of_mem (IpAddress.colon_mem_of_v6? colons)⟩
  obtain ⟨char, inside, rfl⟩ := List.mem_map.mp member
  exact isHostLetter_of_isLetter (IpAddress.letters_of_v6? colons char inside)

theorem accepted_of_address? {address : IpAddress.Address} (reads : address? value = some address) :
    Accepted value := by
  rw [address?] at reads
  split at reads
  · next bits bound =>
    obtain ⟨chars, all, quad⟩ := Option.bind_eq_some_iff.mp bound
    obtain rfl := eq_ofChars all
    refine .plain fun letter member => ?_
    obtain ⟨char, inside, rfl⟩ := List.mem_map.mp member
    exact isHostLetter_of_isLetter (IpAddress.letters_of_v4? quad char inside)
  · split at reads
    · cases reads
    · next slash =>
      rcases partition_cases (CodePoint.char '%') value with
        ⟨absent, parts⟩ | ⟨before, scope, rfl, absent, parts⟩
      · simp only [parts] at reads
        exact .plain (letters_of_v6? reads).1
      · simp only [parts] at reads
        split at reads
        · cases reads
        · next legal =>
          obtain ⟨some, percent⟩ := not_or.mp legal
          obtain ⟨letters, colon⟩ := letters_of_v6? reads
          refine .withScope letters colon some fun letter member => ⟨?_, ?_⟩
          · exact fun same => percent (same ▸ member)
          · exact fun same => slash (List.mem_append_right _ (List.mem_cons_of_mem _
              (same ▸ member)))

theorem letters_of_labels {chars : List Char}
    (labels : (IpAddress.split '.' chars).all isLabel = true) :
    ∀ letter ∈ ofChars chars, isHostLetter letter = true := by
  intro letter member
  obtain ⟨char, inside, rfl⟩ := List.mem_map.mp member
  rcases IpAddress.exists_part_of_mem '.' inside with rfl | ⟨label, found, here⟩
  · rfl
  · have label := List.all_eq_true.mp labels label found
    simp only [isLabel, Bool.and_eq_true] at label
    exact isHostLetter_of_isLabelLetter (List.all_eq_true.mp label.2 char here)

theorem accepted_of_hostnameRe (named : hostnameRe value = true) : Accepted value := by
  rw [hostnameRe] at named
  split at named
  · next chars all =>
    obtain rfl := eq_ofChars all
    rw [beforeEnd] at named
    split at named
    · next fed =>
      obtain ⟨name, rfl⟩ := List.getLast?_eq_some_iff.mp fed
      rw [List.dropLast_concat] at named
      have whole : ofChars (name ++ ['\n']) = ofChars name ++ [.char '\n'] := List.map_append
      exact whole ▸ .fed (letters_of_labels named)
    · exact .plain (letters_of_labels named)
  · cases named

theorem accepted_of_isSafeHost (safe : isSafeHost value = true) : Accepted value := by
  simp only [isSafeHost, Bool.and_eq_true, Bool.or_eq_true] at safe
  rcases safe.2 with address | named
  · obtain ⟨address, reads⟩ := Option.isSome_iff_exists.mp address
    exact accepted_of_address? reads
  · exact accepted_of_hostnameRe named

theorem ne_nil_of_isSafeHost (safe : isSafeHost value = true) : value ≠ [] := by
  simp only [isSafeHost, Bool.and_eq_true, decide_eq_true_eq] at safe
  exact safe.1.1

theorem isHostLetter_percent : isHostLetter (.char '%') = false := by decide

theorem notMem_of_letters {letter : CodePoint} (other : isHostLetter letter = false)
    (letters : ∀ letter ∈ value, isHostLetter letter = true) : letter ∉ value := by
  intro member
  rw [letters letter member] at other
  cases other

theorem scope_of_letters (letters : ∀ letter ∈ value, isHostLetter letter = true) :
    scope value = [] := by
  rw [scope, Url.partition_of_notMem (notMem_of_letters isHostLetter_percent letters)]
  rfl

/-- Whatever is asked of the letters of an accepted value, if letters, digits and the marks of an
address have it, is to be asked of the scope and of a line feed at the end only. -/
theorem forall_letters_iff (allowed : CodePoint → Prop)
    (plain : ∀ letter, isHostLetter letter = true → allowed letter)
    (percent : allowed (.char '%')) (feed : ¬ allowed (.char '\n'))
    (safe : isSafeHost value = true) :
    (∀ letter ∈ value, allowed letter) ↔
      (∀ letter ∈ scope value, allowed letter) ∧ value.getLast? ≠ some (.char '\n') := by
  have last_ne (all : ∀ letter ∈ value, allowed letter) : value.getLast? ≠ some (.char '\n') :=
    fun last => feed (all _ (List.mem_of_getLast? last))
  cases accepted_of_isSafeHost safe with
  | plain letters =>
      refine ⟨fun all => ⟨?_, last_ne all⟩, fun _ letter member => plain letter (letters letter member)⟩
      rw [scope_of_letters letters]
      exact fun _ none => absurd none List.not_mem_nil
  | @withScope address behind letters =>
      have parts : scope (address ++ .char '%' :: behind) = behind := by
        rw [scope, Url.partition_append (notMem_of_letters isHostLetter_percent letters)]
        rfl
      rw [parts]
      constructor
      · exact fun all => ⟨fun letter member => all letter (List.mem_append_right _
          (List.mem_cons_of_mem _ member)), last_ne all⟩
      · rintro ⟨all, -⟩ letter member
        rcases List.mem_append.mp member with first | later
        · exact plain letter (letters letter first)
        · rcases List.mem_cons.mp later with rfl | second
          · exact percent
          · exact all letter second
  | fed letters =>
      constructor
      · exact fun all => absurd (all _ (List.mem_append_right _ List.mem_cons_self)) feed
      · exact fun both => absurd List.getLast?_concat both.2

end HostValidation
end Reference
end AqaraLanLink
