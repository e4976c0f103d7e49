import Mathlib.Data.Nat.Notation

/-!
# Internet addresses

The text of an IPv4 or an IPv6 address, and whether the address is private, as the `ipaddress`
module of Python decides it.
-/

namespace Library
namespace IpAddress

/-- An address, as a number of 32 or of 128 bits. -/
inductive Address where
  | v4 (bits : ℕ)
  | v6 (bits : ℕ)
  deriving DecidableEq, Repr

/-! ## Parsing -/

/-- The parts of a text between the places where a character stands. -/
def split (separator : Char) : List Char → List (List Char)
  | [] => [[]]
  | char :: text =>
      if char = separator then [] :: split separator text
      else
        match split separator text with
        | part :: parts => (char :: part) :: parts
        | [] => [[char]]

/-- The value of a digit. -/
def digit? (base : ℕ) (char : Char) : Option ℕ :=
  let value :=
    if '0' ≤ char ∧ char ≤ '9' then char.toNat - '0'.toNat
    else if 'a' ≤ char ∧ char ≤ 'f' then char.toNat - 'a'.toNat + 10
    else if 'A' ≤ char ∧ char ≤ 'F' then char.toNat - 'A'.toNat + 10
    else base
  if value < base then some value else none

/-- A number of at least one digit and at most so many. -/
def number? (base most : ℕ) (text : List Char) : Option ℕ :=
  if text = [] ∨ most < text.length then none
  else (text.mapM (digit? base)).map fun digits =>
    digits.foldl (fun value digit => value * base + digit) 0

/-- One of the four numbers of an IPv4 address; it has no leading zero. -/
def octet? (text : List Char) : Option ℕ :=
  if 1 < text.length ∧ text.head? = some '0' then none
  else (number? 10 3 text).filter (· ≤ 255)

def v4? (text : List Char) : Option ℕ :=
  match (split '.' text).mapM octet? with
  | some [a, b, c, d] => some (((a * 256 + b) * 256 + c) * 256 + d)
  | _ => none

/-- The parts of an IPv6 address, an IPv4 address at its end being two of them. -/
def expand (parts : List (List Char)) : Option (List (List Char)) :=
  match parts.getLast? with
  | some last =>
      if '.' ∈ last then
        (v4? last).map fun bits =>
          parts.dropLast ++ [Nat.toDigits 16 (bits / 65536), Nat.toDigits 16 (bits % 65536)]
      else some parts
  | none => none

/-- The parts on one side of `::`.  At the end of the address there may be none. -/
def side (parts : List (List Char)) (outer : Option (List Char)) : Option (List (List Char)) :=
  if outer = some [] then if parts.length = 1 then some [] else none else some parts

/-- Parts of sixteen bits, most significant first. -/
def hextets? (parts : List (List Char)) : Option ℕ :=
  (parts.mapM (number? 16 4)).map fun values =>
    values.foldl (fun bits value => bits * 65536 + value) 0

/-- The parts are all there, or `::` stands once for those that are zero. -/
def v6? (text : List Char) : Option ℕ :=
  let parts := split ':' text
  if parts.length < 3 then none
  else do
    let parts ← expand parts
    let inner := (parts.drop 1).dropLast
    if 9 < parts.length then none
    else if inner.count [] = 0 then if parts.length = 8 then hextets? parts else none
    else if inner.count [] = 1 then do
      let skip := inner.idxOf [] + 1
      let high ← side (parts.take skip) parts.head?
      let low ← side (parts.drop (skip + 1)) parts.getLast?
      if 8 ≤ high.length + low.length then none
      else do
        let front ← hextets? high
        let back ← hextets? low
        pure (front <<< (16 * (8 - high.length)) + back)
    else none

/-- `ip_address`. -/
def parse? (text : String) : Option Address :=
  match v4? text.toList with
  | some bits => some (.v4 bits)
  | none => (v6? text.toList).map .v6

/-! ## The letters of an address -/

/-- A letter that may stand in the text of an address. -/
def isLetter (char : Char) : Bool := (digit? 16 char).isSome || char == '.' || char == ':'

theorem split_ne_nil (separator : Char) (text : List Char) : split separator text ≠ [] := by
  cases text with
  | nil => exact List.cons_ne_nil _ _
  | cons char text =>
      rw [split]
      split
      · exact List.cons_ne_nil _ _
      · split
        · exact List.cons_ne_nil _ _
        · exact List.cons_ne_nil _ _

theorem split_cons_self (separator : Char) (text : List Char) :
    split separator (separator :: text) = [] :: split separator text := if_pos rfl

theorem exists_split_cons {separator char : Char} (other : char ≠ separator) (text : List Char) :
    ∃ part parts, split separator text = part :: parts ∧
      split separator (char :: text) = (char :: part) :: parts := by
  obtain ⟨part, parts, same⟩ := List.exists_cons_of_ne_nil (split_ne_nil separator text)
  refine ⟨part, parts, same, ?_⟩
  rw [split, if_neg other, same]

/-- A letter of a text separates parts or stands in one of them. -/
theorem exists_part_of_mem (separator : Char) {char : Char} {text : List Char}
    (member : char ∈ text) :
    char = separator ∨ ∃ part ∈ split separator text, char ∈ part := by
  induction text with
  | nil => exact absurd member List.not_mem_nil
  | cons first text induction =>
      by_cases same : first = separator
      · subst same
        rcases List.mem_cons.mp member with here | later
        · exact .inl here
        · rcases induction later with separates | ⟨part, found, inside⟩
          · exact .inl separates
          · exact .inr ⟨part, split_cons_self first text ▸ List.mem_cons_of_mem _ found, inside⟩
      · obtain ⟨part, parts, rest, whole⟩ := exists_split_cons same text
        rw [rest] at induction
        rw [whole]
        rcases List.mem_cons.mp member with rfl | later
        · exact .inr ⟨_, List.mem_cons_self, List.mem_cons_self⟩
        · rcases induction later with separates | ⟨other, found, inside⟩
          · exact .inl separates
          · rcases List.mem_cons.mp found with rfl | behind
            · exact .inr ⟨_, List.mem_cons_self, List.mem_cons_of_mem _ inside⟩
            · exact .inr ⟨other, List.mem_cons_of_mem _ behind, inside⟩

theorem split_of_notMem {separator : Char} {text : List Char} (absent : separator ∉ text) :
    split separator text = [text] := by
  induction text with
  | nil => rfl
  | cons char text induction =>
      obtain ⟨other, rest⟩ := List.ne_and_not_mem_of_not_mem_cons absent
      rw [split, if_neg (Ne.symm other), induction rest]

theorem isSome_of_mapM {α β : Type} {read : α → Option β} {items : List α} {results : List β}
    (all : items.mapM read = some results) : ∀ item ∈ items, (read item).isSome := by
  induction items generalizing results with
  | nil => exact fun _ none => absurd none List.not_mem_nil
  | cons item items induction =>
      rw [List.mapM_cons] at all
      obtain ⟨result, here, all⟩ := Option.bind_eq_some_iff.mp all
      obtain ⟨others, rest, -⟩ := Option.bind_eq_some_iff.mp all
      exact List.forall_mem_cons.mpr ⟨Option.isSome_of_eq_some here, induction rest⟩

theorem isSome_digit_of_number? {base most : ℕ} {text : List Char}
    (reads : (number? base most text).isSome) : ∀ char ∈ text, (digit? base char).isSome := by
  rw [number?] at reads
  split at reads
  · cases reads
  · rw [Option.isSome_map] at reads
    obtain ⟨digits, all⟩ := Option.isSome_iff_exists.mp reads
    exact isSome_of_mapM all

theorem isLetter_of_digit? {base : ℕ} {char : Char} (within : base ≤ 16)
    (reads : (digit? base char).isSome) : isLetter char = true := by
  obtain ⟨value, here⟩ := Option.isSome_iff_exists.mp reads
  have small : digit? 16 char = some value := by
    simp only [digit?, Option.ite_none_right_eq_some, Option.some.injEq] at here ⊢
    split at here
    · next decimal => simpa only [if_pos decimal] using ⟨by omega, here.2⟩
    · split at here
      · next decimal lower => simpa only [if_neg decimal, if_pos lower] using ⟨by omega, here.2⟩
      · split at here
        · next decimal lower upper =>
          simpa only [if_neg decimal, if_neg lower, if_pos upper] using ⟨by omega, here.2⟩
        · omega
  rw [isLetter, small]
  rfl

theorem letters_of_number? {base most : ℕ} {text : List Char} (within : base ≤ 16)
    (reads : (number? base most text).isSome) : ∀ char ∈ text, isLetter char = true :=
  fun char member => isLetter_of_digit? within (isSome_digit_of_number? reads char member)

theorem isSome_number_of_octet? {text : List Char} (reads : (octet? text).isSome) :
    (number? 10 3 text).isSome := by
  rw [octet?] at reads
  split at reads
  · cases reads
  · obtain ⟨value, filtered⟩ := Option.isSome_iff_exists.mp reads
    exact Option.isSome_of_eq_some (Option.filter_eq_some_iff.mp filtered).1

theorem letters_of_octet? {text : List Char} (reads : (octet? text).isSome) :
    ∀ char ∈ text, isLetter char = true :=
  letters_of_number? (by omega) (isSome_number_of_octet? reads)

theorem letters_of_v4? {text : List Char} {bits : ℕ} (reads : v4? text = some bits) :
    ∀ char ∈ text, isLetter char = true := by
  intro char member
  rw [v4?] at reads
  split at reads
  · next parts =>
    rcases exists_part_of_mem '.' member with rfl | ⟨part, found, inside⟩
    · rfl
    · exact letters_of_octet? (isSome_of_mapM parts part found) char inside
  · cases reads

/-- On a side of `::` a part is kept, or there is nothing in it. -/
theorem mem_of_side {parts kept : List (List Char)} {outer : Option (List Char)}
    (ends : parts.head? = outer ∨ parts.getLast? = outer) (reads : side parts outer = some kept)
    {part : List Char} (member : part ∈ parts) : part = [] ∨ part ∈ kept := by
  rw [side] at reads
  split at reads
  · next empty =>
    split at reads
    · next one =>
      obtain ⟨only, rfl⟩ := List.length_eq_one_iff.mp one
      have nothing : some only = some [] := by
        rcases ends with same | same
        · exact same.trans empty
        · exact same.trans empty
      exact .inl ((List.mem_singleton.mp member).trans (Option.some.inj nothing))
    · cases reads
  · cases reads
    exact .inr member

/-- The parts of an IPv6 address are numbers, or there is nothing in them. -/
theorem exists_expand_of_v6? {text : List Char} {bits : ℕ} (reads : v6? text = some bits) :
    3 ≤ (split ':' text).length ∧ ∃ parts, expand (split ':' text) = some parts ∧
      ∀ part ∈ parts, part = [] ∨ (number? 16 4 part).isSome := by
  have numbers {parts : List (List Char)} {bits : ℕ} (reads : hextets? parts = some bits) :
      ∀ part ∈ parts, (number? 16 4 part).isSome := by
    obtain ⟨values, all, -⟩ := Option.map_eq_some_iff.mp reads
    exact isSome_of_mapM all
  simp only [v6?] at reads
  split at reads
  · cases reads
  obtain ⟨parts, expanded, reads⟩ := Option.bind_eq_some_iff.mp reads
  refine ⟨by omega, parts, expanded, ?_⟩
  split at reads
  · cases reads
  split at reads
  · split at reads
    · exact fun part member => .inr (numbers reads part member)
    · cases reads
  split at reads
  · next once =>
    obtain ⟨high, highSide, reads⟩ := Option.bind_eq_some_iff.mp reads
    obtain ⟨low, lowSide, reads⟩ := Option.bind_eq_some_iff.mp reads
    split at reads
    · cases reads
    obtain ⟨front, frontReads, reads⟩ := Option.bind_eq_some_iff.mp reads
    obtain ⟨back, backReads, -⟩ := Option.bind_eq_some_iff.mp reads
    have inner : [] ∈ (parts.drop 1).dropLast := List.count_pos_iff.mp (by omega)
    have inside := List.idxOf_lt_length_iff.mpr inner
    have empty := List.getElem_idxOf inside
    obtain ⟨skip, same⟩ : ∃ skip, skip = (parts.drop 1).dropLast.idxOf [] + 1 := ⟨_, rfl⟩
    rw [List.length_dropLast, List.length_drop] at inside
    have within : skip < parts.length := by omega
    have nothing : parts[skip] = [] := by
      simp only [List.getElem_dropLast, List.getElem_drop] at empty
      simp only [same, Nat.add_comm _ 1, empty]
    rw [← same] at highSide lowSide
    intro part member
    rw [← List.take_append_drop skip parts, List.drop_eq_getElem_cons within, nothing] at member
    rcases List.mem_append.mp member with first | later
    · have headed : (parts.take skip).head? = parts.head? := by
        rw [List.head?_take, if_neg (by omega)]
      rcases mem_of_side (.inl headed) highSide first with none | kept
      · exact .inl none
      · exact .inr (numbers frontReads part kept)
    · rcases List.mem_cons.mp later with none | second
      · exact .inl none
      · have lasts : (parts.drop (skip + 1)).getLast? = parts.getLast? := by
          rw [List.getLast?_drop, if_neg (by omega)]
        rcases mem_of_side (.inr lasts) lowSide second with none | kept
        · exact .inl none
        · exact .inr (numbers backReads part kept)
  · cases reads

theorem letters_of_v6? {text : List Char} {bits : ℕ} (reads : v6? text = some bits) :
    ∀ char ∈ text, isLetter char = true := by
  obtain ⟨-, parts, expanded, read⟩ := exists_expand_of_v6? reads
  have part_letters {part : List Char} (found : part ∈ parts) :
      ∀ char ∈ part, isLetter char = true := by
    rcases read part found with rfl | number
    · exact fun _ none => absurd none List.not_mem_nil
    · exact letters_of_number? (Nat.le_refl 16) number
  intro char member
  rcases exists_part_of_mem ':' member with rfl | ⟨part, found, inside⟩
  · rfl
  rw [expand] at expanded
  split at expanded
  · next last ends =>
    split at expanded
    · obtain ⟨quad, dotted, rfl⟩ := Option.map_eq_some_iff.mp expanded
      obtain ⟨front, whole⟩ := List.getLast?_eq_some_iff.mp ends
      rw [whole, List.dropLast_concat] at part_letters
      rw [whole] at found
      rcases List.mem_append.mp found with before | here
      · exact part_letters (List.mem_append_left _ before) char inside
      · obtain rfl := List.mem_singleton.mp here
        exact letters_of_v4? dotted char inside
    · cases expanded
      exact part_letters found char inside
  · cases expanded

theorem colon_mem_of_v6? {text : List Char} {bits : ℕ} (reads : v6? text = some bits) :
    ':' ∈ text := by
  refine Classical.byContradiction fun absent => ?_
  have long := (exists_expand_of_v6? reads).1
  rw [split_of_notMem absent, List.length_singleton] at long
  omega

/-! ## Networks -/

/-- The addresses that agree with an address in their first bits. -/
structure Network where
  address : ℕ
  /-- How many bits. -/
  length : ℕ

/-- The address, one of so many bits, is in the network. -/
def Network.contains (network : Network) (width bits : ℕ) : Bool :=
  bits >>> (width - network.length) = network.address >>> (width - network.length)

/-- An IPv4 network. -/
def quad (a b c d length : ℕ) : Network := ⟨((a * 256 + b) * 256 + c) * 256 + d, length⟩

/-- An IPv6 network, given by its first three parts. -/
def hextets (a b c length : ℕ) : Network := ⟨((a * 65536 + b) * 65536 + c) <<< 80, length⟩

def private4 : List Network :=
  [quad 0 0 0 0 8, quad 10 0 0 0 8, quad 127 0 0 0 8, quad 169 254 0 0 16, quad 172 16 0 0 12,
    quad 192 0 0 0 24, quad 192 0 0 170 31, quad 192 0 2 0 24, quad 192 168 0 0 16,
    quad 198 18 0 0 15, quad 198 51 100 0 24, quad 203 0 113 0 24, quad 240 0 0 0 4,
    quad 255 255 255 255 32]

def exceptions4 : List Network := [quad 192 0 0 9 32, quad 192 0 0 10 32]

def private6 : List Network :=
  [⟨1, 128⟩, ⟨0, 128⟩, ⟨0xFFFF <<< 32, 96⟩, hextets 0x64 0xFF9B 1 48, hextets 0x100 0 0 64,
    hextets 0x2001 0 0 23, hextets 0x2001 0xDB8 0 32, hextets 0x2002 0 0 16, hextets 0x3FFF 0 0 20,
    hextets 0xFC00 0 0 7, hextets 0xFE80 0 0 10]

def exceptions6 : List Network :=
  [⟨(hextets 0x2001 1 0 0).address + 1, 128⟩, ⟨(hextets 0x2001 1 0 0).address + 2, 128⟩,
    hextets 0x2001 3 0 32, hextets 0x2001 4 0x112 48, hextets 0x2001 0x20 0 28,
    hextets 0x2001 0x30 0 28]

def isPrivate4 (bits : ℕ) : Bool :=
  private4.any (·.contains 32 bits) && !exceptions4.any (·.contains 32 bits)

/-- `is_private`.  An IPv6 address that stands for an IPv4 address is as private as that one. -/
def isPrivate : Address → Bool
  | .v4 bits => isPrivate4 bits
  | .v6 bits =>
      if bits >>> 32 = 0xFFFF then isPrivate4 (bits % 0x100000000)
      else private6.any (·.contains 128 bits) && !exceptions6.any (·.contains 128 bits)

end IpAddress
end Library
