import AqaraLanLink.Port.Packets
import Mathlib.Data.Nat.Bitwise

/-!
# Well-formed responses

What a DNS response is, apart from how it is read: names that may end in pointers to other names,
questions, records, and the strings of a TXT record.  A reader of such a response gets all of it
right when no name goes through more than one pointer.
-/

namespace AqaraLanLink
namespace Port
namespace Discovery

open Library Outcome

/-! ## Names -/

/-- A name stands at an offset: its labels, how many pointers it goes through, and the offset just
past it as it stands there. -/
inductive NameAt (packet : List UInt8) : ℕ → List String → ℕ → ℕ → Prop
  | root {offset : ℕ} : packet[offset]? = some 0 → NameAt packet offset [] 0 (offset + 1)
  | label {offset pointers next : ℕ} {text : String} {labels : List String} :
      text ≠ "" → (Utf8.encode text).length < 64 →
      packet[offset]? = some (.ofNat (Utf8.encode text).length) →
      slice packet (offset + 1) (Utf8.encode text).length = Utf8.encode text →
      NameAt packet (offset + 1 + (Utf8.encode text).length) labels pointers next →
      NameAt packet offset (text :: labels) pointers next
  | pointer {offset target pointers next : ℕ} {labels : List String} : target < 0x4000 →
      packet[offset]? = some (.ofNat (0xC0 + target / 256)) →
      packet[offset + 1]? = some (.ofNat (target % 256)) →
      NameAt packet target labels pointers next →
      NameAt packet offset labels (pointers + 1) (offset + 2)

variable {packet : List UInt8} {offset pointers next : ℕ} {labels : List String}

theorem toNat_small {number : ℕ} (small : number < 256) : (UInt8.ofNat number).toNat = number :=
  Utf8.toNat_byte small

/-- The first byte of a label. -/
theorem length_byte {number : ℕ} (positive : number ≠ 0) (small : number < 64) :
    UInt8.ofNat number ≠ 0 ∧ isPointer (.ofNat number) = false := by
  constructor
  · intro zero
    apply positive
    rw [← toNat_small (show number < 256 by omega), zero]
    rfl
  · have table : ∀ number : Fin 64, isPointer (.ofNat number) = false := by decide
    exact table ⟨number, small⟩

/-- The first byte of a pointer. -/
theorem pointer_byte {high : ℕ} (small : high < 64) :
    UInt8.ofNat (0xC0 + high) ≠ 0 ∧ isPointer (.ofNat (0xC0 + high)) = true := by
  have table : ∀ high : Fin 64, UInt8.ofNat (0xC0 + high) ≠ 0 ∧
      isPointer (.ofNat (0xC0 + high)) = true := by decide
  exact table ⟨high, small⟩

theorem length_encode_ne_zero {text : String} (some : text ≠ "") :
    (Utf8.encode text).length ≠ 0 := by
  intro empty
  apply some
  apply Utf8.encode_inj
  rw [List.length_eq_zero_iff.mp empty]
  rfl

/-- A pointer leads where it says. -/
theorem pointer_eq {target : ℕ} (small : target < 0x4000)
    (high : packet[offset]? = some (.ofNat (0xC0 + target / 256)))
    (low : packet[offset + 1]? = some (.ofNat (target % 256))) : pointer packet offset = target := by
  have masked : (0xC0 + target / 256) &&& 0x3F = target / 256 := by
    rw [show 0x3F = 2 ^ 6 - 1 from rfl, Nat.and_two_pow_sub_one_eq_mod]
    omega
  rw [pointer, List.getD_eq_getElem?_getD, List.getD_eq_getElem?_getD, high, low]
  simp only [Option.getD_some]
  rw [toNat_small (by omega), toNat_small (by omega), masked,
    ← Nat.shiftLeft_add_eq_or_of_lt (by omega), Nat.shiftLeft_eq]
  omega

/-- The bytes determine how many pointers a name goes through. -/
theorem NameAt.unique {labels' : List String} {pointers' next' : ℕ}
    (name : NameAt packet offset labels pointers next)
    (name' : NameAt packet offset labels' pointers' next') : pointers = pointers' := by
  induction name generalizing labels' pointers' next' with
  | root byte =>
      cases name' with
      | root => rfl
      | label some small byte' =>
          have same := Option.some.inj (byte.symm.trans byte')
          exact absurd same.symm (length_byte (length_encode_ne_zero some) small).1
      | pointer small byte' =>
          have same := Option.some.inj (byte.symm.trans byte')
          exact absurd same.symm (pointer_byte (by omega)).1
  | label some small byte _ _ induction =>
      have plain := length_byte (length_encode_ne_zero some) small
      cases name' with
      | root byte' => exact absurd (Option.some.inj (byte.symm.trans byte')) plain.1
      | label some' small' byte' _ rest' =>
          have same := congrArg UInt8.toNat (Option.some.inj (byte.symm.trans byte'))
          rw [toNat_small (by omega), toNat_small (by omega)] at same
          rw [← same] at rest'
          exact induction rest'
      | pointer small' byte' =>
          have same := Option.some.inj (byte.symm.trans byte')
          rw [same, (pointer_byte (by omega)).2] at plain
          cases plain.2
  | @pointer offset target pointers next labels small byte low _ induction =>
      have points := pointer_byte (show target / 256 < 64 by omega)
      cases name' with
      | root byte' => exact absurd (Option.some.inj (byte.symm.trans byte')) points.1
      | label some' small' byte' =>
          have same := Option.some.inj (byte.symm.trans byte')
          rw [same, (length_byte (length_encode_ne_zero some') small').2] at points
          cases points.2
      | pointer small' byte' low' rest' =>
          have same := (pointer_eq small byte low).symm.trans (pointer_eq small' byte' low')
          rw [← same] at rest'
          rw [induction rest']

/-- How a name is read: past its last pointer, wherever that stands. -/
theorem NameAt.reads (name : NameAt packet offset labels pointers next) :
    ∃ stop after, Reads packet offset labels stop after ∧
      (pointers = 0 → after = none ∧ stop = next) ∧ (pointers = 1 → after = some next) ∧
        (pointers ≠ 0 → ∃ last labels', after = some (last + 2) ∧
          NameAt packet last labels' 1 (last + 2)) := by
  induction name with
  | @root offset byte =>
      exact ⟨offset + 1, none, .root byte, fun _ => ⟨rfl, rfl⟩, nofun, fun some => absurd rfl some⟩
  | @label offset pointers next text labels some small byte letters _ induction =>
      obtain ⟨stop, after, reads, none, once, more⟩ := induction
      have plain := length_byte (length_encode_ne_zero some) small
      refine ⟨stop, after, ?_, none, once, more⟩
      have length := toNat_small (show (Utf8.encode text).length < 256 by omega)
      have step := Reads.label byte plain.1 plain.2 (length.symm ▸ reads)
      rwa [length, letters, Utf8.decode_encode] at step
  | @pointer offset target pointers next labels small byte low rest induction =>
      obtain ⟨stop, after, reads, none, once, more⟩ := induction
      have points := pointer_byte (show target / 256 < 64 by omega)
      have step := Reads.pointer byte points.1 points.2 (pointer_eq small byte low ▸ reads)
      refine ⟨stop, _, step, nofun, ?_, fun _ => ?_⟩
      · intro single
        rw [(none (by omega)).1, Option.getD_none]
      · by_cases last : pointers = 0
        · subst last
          refine ⟨offset, labels, ?_, .pointer small byte low rest⟩
          rw [(none rfl).1, Option.getD_none]
        · obtain ⟨last, labels', rfl, there⟩ := more last
          exact ⟨last, labels', rfl, there⟩

/-- Past a name with pointers is past its first one. -/
theorem NameAt.first (name : NameAt packet offset labels pointers next) (some : pointers ≠ 0) :
    ∃ first labels', next = first + 2 ∧ NameAt packet first labels' pointers next := by
  induction name with
  | root => exact absurd rfl some
  | label _ _ _ _ _ induction => exact induction some
  | @pointer offset target pointers next labels small byte low rest =>
      exact ⟨offset, labels, rfl, .pointer small byte low rest⟩

theorem NameAt.lt_length (name : NameAt packet offset labels pointers next) :
    offset < packet.length := by
  cases name with
  | root byte => exact (List.getElem?_eq_some_iff.mp byte).1
  | label _ _ byte => exact (List.getElem?_eq_some_iff.mp byte).1
  | pointer _ byte => exact (List.getElem?_eq_some_iff.mp byte).1

/-- `readName` gets a name and its end right when the name goes through at most one pointer. -/
theorem NameAt.yields_iff (name : NameAt packet offset labels pointers next) :
    Yields (fun fuel => readName fuel packet offset) (join labels, next) ↔ pointers ≤ 1 := by
  obtain ⟨stop, after, reads, none, once, more⟩ := name.reads
  rw [yields_readName_iff]
  constructor
  · intro names
    by_contra twice
    obtain ⟨last, labels', rfl, there⟩ := more (by omega)
    obtain ⟨first, labels'', past, there'⟩ := name.first (by omega)
    have same := (names.unique ⟨labels, stop, _, reads, rfl, rfl⟩).2
    rw [Option.getD_some] at same
    obtain rfl : first = last := by omega
    have single := there'.unique there
    omega
  · intro few
    refine ⟨labels, stop, after, reads, rfl, ?_⟩
    rcases Nat.lt_or_ge pointers 1 with zero | one
    · obtain ⟨rfl, rfl⟩ := none (by omega)
      rfl
    · rw [once (by omega), Option.getD_some]

/-! ## Responses -/

/-- Where a name stands in a packet. -/
structure Place where
  offset : ℕ
  labels : List String
  /-- How many pointers the name goes through. -/
  pointers : ℕ
  /-- The offset just past the name. -/
  next : ℕ

/-- A record as it stands in a packet. -/
structure Entry extends Place where
  type : ℕ
  data : List UInt8

/-- The record that the entry is read as. -/
def Entry.record (packet : List UInt8) (entry : Entry) : Record where
  name := join entry.labels
  type := entry.type
  data := entry.data
  dataAt := entry.next + 10
  packet := packet

/-- The name of a place stands there. -/
def Place.Stands (packet : List UInt8) (place : Place) : Prop :=
  NameAt packet place.offset place.labels place.pointers place.next

/-- Questions stand from an offset on, and end at another one. -/
inductive QuestionsAt (packet : List UInt8) : ℕ → List Place → ℕ → Prop
  | done {offset : ℕ} : QuestionsAt packet offset [] offset
  | question {place : Place} {places : List Place} {last : ℕ} : place.Stands packet →
      QuestionsAt packet (place.next + 4) places last →
      QuestionsAt packet place.offset (place :: places) last

/-- Records stand from an offset on: a name, a type, a class and a time to live, and the data with
its length in front. -/
inductive RecordsAt (packet : List UInt8) : ℕ → List Entry → Prop
  | done {offset : ℕ} : RecordsAt packet offset []
  | record {entry : Entry} {entries : List Entry} : entry.toPlace.Stands packet →
      entry.next + 10 + entry.data.length ≤ packet.length →
      readUInt16BE packet entry.next = entry.type →
      readUInt16BE packet (entry.next + 8) = entry.data.length →
      slice packet (entry.next + 10) entry.data.length = entry.data →
      RecordsAt packet (entry.next + 10 + entry.data.length) entries →
      RecordsAt packet entry.offset (entry :: entries)

/-- A response: a header that counts the questions and the records, and then these. -/
structure Response (packet : List UInt8) (questions : List Place) (entries : List Entry) : Prop where
  header : 12 ≤ packet.length
  questionCount : questionCount packet = questions.length
  recordCount : recordCount packet = entries.length
  body : ∃ middle, QuestionsAt packet 12 questions middle ∧ RecordsAt packet middle entries

/-- Every name goes through at most one pointer. -/
def OncePointed (places : List Place) : Prop := ∀ place ∈ places, place.pointers ≤ 1

theorem Place.Stands.names {place : Place} (stands : place.Stands packet)
    (few : place.pointers ≤ 1) : Names packet place.offset (join place.labels) place.next :=
  yields_readName_iff.mp ((NameAt.yields_iff stands).mpr few)

theorem QuestionsAt.skips {places : List Place} {last : ℕ}
    (questions : QuestionsAt packet offset places last) (few : OncePointed places) :
    Skips packet places.length offset last := by
  induction questions with
  | done => exact .done
  | question stands _ induction =>
      obtain ⟨first, others⟩ := List.forall_mem_cons.mp few
      exact .question (stands.names first) (induction others)

theorem RecordsAt.lists {entries : List Entry} (records : RecordsAt packet offset entries)
    (few : OncePointed (entries.map Entry.toPlace)) :
    Lists packet entries.length offset (entries.map (Entry.record packet)) := by
  induction records with
  | done => exact .done
  | @record entry entries stands fits type length data _ induction =>
      obtain ⟨first, others⟩ := List.forall_mem_cons.mp few
      have same : recordAt packet (join entry.labels) entry.next = entry.record packet := by
        rw [recordAt, Entry.record, type, length, data]
      rw [List.map_cons, List.length_cons, ← same]
      exact .record (NameAt.lt_length stands) (stands.names first) (by omega)
        (length.symm ▸ induction others)

/-- The records of a response are read as they stand. -/
theorem Response.carries {questions : List Place} {entries : List Entry}
    (response : Response packet questions entries)
    (few : OncePointed (questions ++ entries.map Entry.toPlace)) :
    Carries packet (entries.map (Entry.record packet)) := by
  obtain ⟨middle, asked, answered⟩ := response.body
  obtain ⟨few, few'⟩ := List.forall_mem_append.mp few
  have header := response.header
  rw [Carries, if_neg (by omega), response.questionCount, response.recordCount]
  exact ⟨middle, asked.skips few, answered.lists few'⟩

theorem QuestionsAt.stands {places : List Place} {last : ℕ}
    (questions : QuestionsAt packet offset places last) :
    ∀ place ∈ places, place.Stands packet := by
  induction questions with
  | done => exact nofun
  | question stands _ induction => exact List.forall_mem_cons.mpr ⟨stands, induction⟩

theorem RecordsAt.stands {entries : List Entry} (records : RecordsAt packet offset entries) :
    ∀ entry ∈ entries, entry.toPlace.Stands packet := by
  induction records with
  | done => exact nofun
  | record stands _ _ _ _ _ induction => exact List.forall_mem_cons.mpr ⟨stands, induction⟩

theorem Response.stands {questions : List Place} {entries : List Entry}
    (response : Response packet questions entries) :
    ∀ place ∈ questions ++ entries.map Entry.toPlace, place.Stands packet := by
  obtain ⟨middle, asked, answered⟩ := response.body
  rw [List.forall_mem_append]
  refine ⟨asked.stands, fun place member => ?_⟩
  obtain ⟨entry, there, rfl⟩ := List.mem_map.mp member
  exact answered.stands entry there

/-! ## TXT records -/

/-- A string of a TXT record. -/
inductive TxtString where
  /-- A key and its value, which may be any bytes. -/
  | pair (key : String) (value : List UInt8)
  /-- A key without a value, or nothing at all. -/
  | flag (text : String)
  /-- A value without a key. -/
  | keyless (value : List UInt8)

namespace TxtString

/-- The bytes of a string. -/
def bytes : TxtString → List UInt8
  | pair key value => Utf8.encode key ++ 0x3D :: value
  | flag text => Utf8.encode text
  | keyless value => 0x3D :: value

/-- A key is not empty and has no equals sign, and the length of a string fits a byte. -/
def Valid (string : TxtString) : Prop :=
  string.bytes.length < 256 ∧
    match string with
    | pair key _ => key ≠ "" ∧ '=' ∉ key.toList
    | flag text => '=' ∉ text.toList
    | keyless _ => True

/-- The pair that a string stands for. -/
def pair? : TxtString → Option (String × String)
  | pair key value => some (key, Utf8.decode value)
  | _ => none

end TxtString

/-- The pairs of a TXT record. -/
def pairs (strings : List TxtString) : List (String × String) := strings.filterMap TxtString.pair?

/-- The data of a TXT record: each string with its length in front. -/
def txtData (strings : List TxtString) : List UInt8 :=
  strings.flatMap fun string => .ofNat string.bytes.length :: string.bytes

/-- Strings that make a TXT record: each is valid, and no key comes twice. -/
structure IsTxt (strings : List TxtString) : Prop where
  valid : ∀ string ∈ strings, string.Valid
  nodup : ((pairs strings).map Prod.fst).Nodup

/-- What `parseTxt` puts into its object for a string. -/
def put (values : Dictionary String String) (string : TxtString) : Dictionary String String :=
  match string.pair? with
  | some (key, value) => assign values key value
  | none => values

theorem decode_equals (value : List UInt8) :
    (Utf8.decode (0x3D :: value)).toList = '=' :: (Utf8.decode value).toList := by
  have first : Utf8.first (0x3D : UInt8).toNat = .inl '=' := rfl
  rw [Utf8.decode, Utf8.decodeFrom, first, Utf8.decode, String.toList_ofList, String.toList_ofList]

/-- The first equals sign ends the key. -/
theorem putEntry_of_equals {key : List Char} (plain : '=' ∉ key) (value : List Char) {entry : String}
    (letters : entry.toList = key ++ '=' :: value) (values : Dictionary String String) :
    putEntry values entry =
      if 0 < key.length then assign values (String.ofList key) (String.ofList value)
      else values := by
  have found : entry.toList.findIdx? (· = '=') = some key.length := by
    have absent : key.findIdx? (fun char => decide (char = '=')) = none := by
      rw [List.findIdx?_eq_none_iff]
      intro char member
      exact decide_eq_false fun same => plain (same ▸ member)
    rw [letters, List.findIdx?_append, absent]
    simp [List.findIdx?_cons]
  have front : entry.toList.take key.length = key := by rw [letters, List.take_left]
  have back : entry.toList.drop (key.length + 1) = value := by
    rw [letters, List.drop_append]
    simp
  simp only [putEntry, found, front, back]

theorem putEntry_of_plain {entry : String} (plain : '=' ∉ entry.toList)
    (values : Dictionary String String) : putEntry values entry = values := by
  have absent : entry.toList.findIdx? (fun char => decide (char = '=')) = none := by
    rw [List.findIdx?_eq_none_iff]
    intro char member
    exact decide_eq_false fun same => plain (same ▸ member)
  simp only [putEntry, absent]

theorem putEntry_bytes {string : TxtString} (valid : string.Valid)
    (values : Dictionary String String) :
    putEntry values (Utf8.decode string.bytes) = put values string := by
  cases string with
  | pair key value =>
      obtain ⟨-, some, plain⟩ := valid
      have letters : (Utf8.decode (Utf8.encode key ++ 0x3D :: value)).toList =
          key.toList ++ '=' :: (Utf8.decode value).toList := by
        rw [Utf8.decode_encode_append, String.toList_append, decode_equals]
      have long : 0 < key.toList.length := by
        rw [List.length_pos_iff]
        exact fun empty => some (String.toList_eq_nil_iff.mp empty)
      rw [TxtString.bytes, putEntry_of_equals plain _ letters, if_pos long, String.ofList_toList,
        String.ofList_toList]
      rfl
  | flag text =>
      obtain ⟨-, plain⟩ := valid
      rw [TxtString.bytes, Utf8.decode_encode, putEntry_of_plain plain]
      rfl
  | keyless value =>
      rw [TxtString.bytes, putEntry_of_equals List.not_mem_nil _ (decode_equals value),
        if_neg (show ¬ 0 < ([] : List Char).length from Nat.lt_irrefl 0)]
      rfl

/-- `parseTxt` puts one string after the other into its object. -/
theorem parseTxtLoop_txtData {strings : List TxtString} (valid : ∀ string ∈ strings, string.Valid)
    (values : Dictionary String String) :
    parseTxtLoop values (txtData strings) = strings.foldl put values := by
  induction strings generalizing values with
  | nil =>
      change parseTxtLoop values [] = values
      rw [parseTxtLoop]
  | cons string strings induction =>
      obtain ⟨first, others⟩ := List.forall_mem_cons.mp valid
      change parseTxtLoop values (.ofNat string.bytes.length :: (string.bytes ++ txtData strings)) = _
      rw [parseTxtLoop, toNat_small first.1, List.take_left, List.drop_left,
        putEntry_bytes first, induction others, List.foldl_cons]

theorem get?_assign (values : Dictionary String String) {key : String} (plain : key ≠ "__proto__")
    (value other : String) : (assign values key value).get? other =
      if other = key then some value else values.get? other := by
  rw [assign, if_neg plain, Dictionary.get?_set]

/-- The prototype of an object is never set. -/
theorem get?_put_proto {values : Dictionary String String}
    (absent : values.get? "__proto__" = none) (string : TxtString) :
    (put values string).get? "__proto__" = none := by
  rw [put]
  split
  · rename_i key value _
    by_cases proto : key = "__proto__"
    · rw [assign, if_pos proto, absent]
    · rw [get?_assign values proto, if_neg (Ne.symm proto), absent]
  · exact absent

theorem get?_foldl_put_proto {values : Dictionary String String}
    (absent : values.get? "__proto__" = none) (strings : List TxtString) :
    (strings.foldl put values).get? "__proto__" = none := by
  induction strings generalizing values with
  | nil => exact absent
  | cons string strings induction => exact induction (get?_put_proto absent string)

/-- What is found under a key once all the strings of a record have been put in. -/
theorem get?_foldl_put {strings : List TxtString} (nodup : ((pairs strings).map Prod.fst).Nodup)
    (plain : "__proto__" ∉ (pairs strings).map Prod.fst) {values : Dictionary String String}
    (fresh : ∀ pair ∈ pairs strings, values.get? pair.1 = none) {key value : String} :
    (strings.foldl put values).get? key = some value ↔
      (key, value) ∈ pairs strings ∨ values.get? key = some value := by
  induction strings generalizing values with
  | nil => simp [pairs]
  | cons string strings induction =>
      rw [List.foldl_cons]
      cases told : string.pair? with
      | none =>
          have same : pairs (string :: strings) = pairs strings := List.filterMap_cons_none told
          have kept : put values string = values := by rw [put, told]
          rw [same] at nodup plain fresh ⊢
          rw [kept]
          exact induction nodup plain fresh
      | some pair =>
          obtain ⟨name, held⟩ := pair
          have same : pairs (string :: strings) = (name, held) :: pairs strings :=
            List.filterMap_cons_some told
          rw [same] at nodup plain fresh ⊢
          obtain ⟨new, nodup⟩ := List.nodup_cons.mp nodup
          rw [List.map_cons, List.mem_cons, not_or] at plain
          obtain ⟨first, fresh⟩ := List.forall_mem_cons.mp fresh
          have put_eq : ∀ other, (put values string).get? other =
              if other = name then some held else values.get? other := by
            intro other
            rw [put, told]
            exact get?_assign values (Ne.symm plain.1) held other
          rw [induction nodup plain.2, put_eq, List.mem_cons, Prod.mk.injEq]
          · by_cases hit : key = name
            · subst hit
              rw [if_pos rfl, first, Option.some.injEq]
              constructor
              · rintro (member | rfl)
                · exact Or.inl (Or.inr member)
                · exact Or.inl (Or.inl ⟨rfl, rfl⟩)
              · rintro ((⟨-, rfl⟩ | member) | none)
                · exact Or.inr rfl
                · exact Or.inl member
                · cases none
            · simp only [hit, if_false, false_and, false_or]
          · intro pair member
            have other : pair.1 ≠ name := by
              rintro rfl
              exact new (List.mem_map.mpr ⟨pair, member, rfl⟩)
            rw [put_eq, if_neg other, fresh pair member]

/-- The object that `parseTxt` returns has the pairs of the record and no others. -/
def HasPairs (values : Dictionary String String) (strings : List TxtString) : Prop :=
  ∀ key value, values.get? key = some value ↔ (key, value) ∈ pairs strings

/-- `parseTxt` gets a TXT record right when it has no key that means the prototype of an object. -/
theorem hasPairs_parseTxt_iff {strings : List TxtString} (txt : IsTxt strings) :
    HasPairs (parseTxt (txtData strings)) strings ↔
      "__proto__" ∉ (pairs strings).map Prod.fst := by
  rw [HasPairs, parseTxt, parseTxtLoop_txtData txt.valid]
  constructor
  · intro exactly named
    obtain ⟨⟨key, value⟩, member, rfl⟩ := List.mem_map.mp named
    have found := (exactly _ _).mpr member
    rw [get?_foldl_put_proto rfl] at found
    cases found
  · intro plain key value
    rw [get?_foldl_put txt.nodup plain fun _ _ => rfl]
    exact or_iff_left nofun

/-! ## Reading a response -/

/-- A response is read exactly: its names with their ends, its records in order, and the pairs of its
TXT records. -/
structure ReadsExactly (packet : List UInt8) (questions : List Place) (entries : List Entry) :
    Prop where
  names : ∀ place ∈ questions ++ entries.map Entry.toPlace,
    Yields (fun fuel => readName fuel packet place.offset) (join place.labels, place.next)
  records : Yields (fun fuel => parseRecords fuel packet) (entries.map (Entry.record packet))
  texts : ∀ entry ∈ entries, entry.type = typeTxt → ∀ strings, IsTxt strings →
    entry.data = txtData strings → HasPairs (parseTxt entry.data) strings

/-- A response is read exactly when each of its names goes through at most one pointer, and none of
its TXT records has a key that means the prototype of an object. -/
theorem reads_exactly_iff {packet : List UInt8} {questions : List Place} {entries : List Entry}
    (response : Response packet questions entries) :
    ReadsExactly packet questions entries ↔
      OncePointed (questions ++ entries.map Entry.toPlace) ∧
        ∀ entry ∈ entries, entry.type = typeTxt → ∀ strings, IsTxt strings →
          entry.data = txtData strings → "__proto__" ∉ (pairs strings).map Prod.fst := by
  constructor
  · intro exactly
    constructor
    · intro place member
      exact (NameAt.yields_iff (response.stands place member)).mp (exactly.names place member)
    · intro entry member type strings txt data
      rw [← hasPairs_parseTxt_iff txt, ← data]
      exact exactly.texts entry member type strings txt data
  · rintro ⟨few, plain⟩
    constructor
    · intro place member
      exact (NameAt.yields_iff (response.stands place member)).mpr (few place member)
    · exact yields_parseRecords_iff.mpr (response.carries few)
    · intro entry member type strings txt data
      rw [data, hasPairs_parseTxt_iff txt]
      exact plain entry member type strings txt data

/-- A response about the name `a`, with so many records. -/
def about (records : UInt8) (body : List UInt8) : List UInt8 :=
  [0, 0, 0x84, 0, 0, 1, 0, records, 0, 0, 0, 0, 1, 0x61, 0, 0, 1, 0, 1] ++ body

/-- A text, whose name points back to the question. -/
def textBytes : List UInt8 :=
  [0xC0, 12, 0, 16, 0, 1, 0, 0, 0, 120, 0, 4, 3, 0x6B, 0x3D, 0x76]

/-- An address, whose name points back to the name of the text. -/
def addressBytes : List UInt8 := [0xC0, 19, 0, 1, 0, 1, 0, 0, 0, 120, 0, 4, 10, 0, 0, 1]

def asked : Place := ⟨12, ["a"], 0, 15⟩
def textEntry : Entry := ⟨⟨19, ["a"], 1, 21⟩, 16, [3, 0x6B, 0x3D, 0x76]⟩
def addressEntry : Entry := ⟨⟨35, ["a"], 2, 37⟩, 1, [10, 0, 0, 1]⟩

theorem asked_stands (records : UInt8) (body : List UInt8) : asked.Stands (about records body) := by
  apply NameAt.label (by simp)
  · decide
  · rfl
  · rfl
  · exact .root rfl

theorem text_stands (records : UInt8) (body : List UInt8) :
    textEntry.toPlace.Stands (about records (textBytes ++ body)) := by
  apply NameAt.pointer (show 12 < 0x4000 by omega)
  · rfl
  · rfl
  · exact asked_stands records _

theorem compressed_response : Response (about 1 textBytes) [asked] [textEntry] where
  header := by decide
  questionCount := rfl
  recordCount := rfl
  body := ⟨19, .question (asked_stands 1 _) .done,
    .record (text_stands 1 []) (by decide) rfl rfl rfl .done⟩

theorem chained_response :
    Response (about 2 (textBytes ++ addressBytes)) [asked] [textEntry, addressEntry] where
  header := by decide
  questionCount := rfl
  recordCount := rfl
  body := by
    have stands : addressEntry.toPlace.Stands (about 2 (textBytes ++ addressBytes)) :=
      .pointer (show 19 < 0x4000 by omega) rfl rfl (text_stands 2 _)
    exact ⟨19, .question (asked_stands 2 _) .done,
      .record (text_stands 2 _) (by decide) rfl rfl rfl
        (.record stands (by decide) rfl rfl rfl .done)⟩

theorem length_lt_txtData {strings : List TxtString} {string : TxtString}
    (member : string ∈ strings) : string.bytes.length < (txtData strings).length := by
  induction strings with
  | nil => cases member
  | cons other strings induction =>
      have whole : (txtData (other :: strings)).length =
          other.bytes.length + 1 + (txtData strings).length := by
        rw [txtData, List.flatMap_cons, List.length_append, List.length_cons, txtData]
      rcases List.mem_cons.mp member with rfl | later
      · omega
      · have shorter := induction later
        omega

theorem compressed_read_exactly : ReadsExactly (about 1 textBytes) [asked] [textEntry] := by
  rw [reads_exactly_iff compressed_response]
  constructor
  · intro place member
    rcases List.mem_pair.mp member with rfl | rfl
    · exact Nat.zero_le 1
    · exact Nat.le_refl 1
  · intro entry member type strings txt data named
    obtain rfl := List.mem_singleton.mp member
    obtain ⟨⟨key, value⟩, paired, rfl⟩ := List.mem_map.mp named
    obtain ⟨string, there, told⟩ := List.mem_filterMap.mp paired
    have shorter := length_lt_txtData there
    rw [← data] at shorter
    cases string with
    | pair key value =>
        cases told
        have long : (Utf8.encode "__proto__").length = 9 := rfl
        simp only [TxtString.bytes, textEntry, List.length_append, List.length_cons, List.length_nil,
          long] at shorter
        omega
    | flag text => cases told
    | keyless value => cases told

/-- Past a name that points to a pointer, the reader goes on in the wrong place. -/
theorem chained_name_misread : ¬ ∀ packet questions entries, Response packet questions entries →
    ReadsExactly packet questions entries := by
  intro exactly
  have names := (exactly _ _ _ chained_response).names addressEntry.toPlace (by simp)
  have stands := chained_response.stands addressEntry.toPlace (by simp)
  have few := (NameAt.yields_iff stands).mp names
  exact absurd few (by decide)

end Discovery
end Port
end AqaraLanLink
