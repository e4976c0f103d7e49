import AqaraLanLink.Library.IpAddress
import AqaraLanLink.Library.PercentEncoding

/-!
# URLs

The authority of a URL and what stands in it, as `urlsplit` of Python takes them from a text.  What
the Unicode database says of letters beyond ASCII is a parameter.
-/

namespace Library
namespace Url

open AsciiCase
open JsonText (CodePoint Text ofChars)
open PercentEncoding (characters? isAscii)

universe u

/-! ## Partitions -/

section Partition

variable {α : Type u} [DecidableEq α]

/-- What stands before a separator, and what stands behind it if it is there. -/
def partition (separator : α) : List α → List α × Option (List α)
  | [] => ([], none)
  | letter :: text =>
      if letter = separator then ([], some text)
      else (letter :: (partition separator text).1, (partition separator text).2)

/-- What stands before the last separator, if it is there, and what stands behind it. -/
def rpartition (separator : α) (text : List α) : Option (List α) × List α :=
  match partition separator text.reverse with
  | (behind, some before) => (some before.reverse, behind.reverse)
  | (_, none) => (none, text)

variable {separator letter : α} {text before after : List α}

theorem partition_append (absent : separator ∉ before) (after : List α) :
    partition separator (before ++ separator :: after) = (before, some after) := by
  induction before with
  | nil => exact if_pos rfl
  | cons letter before induction =>
      obtain ⟨other, rest⟩ := List.ne_and_not_mem_of_not_mem_cons absent
      rw [List.cons_append, partition, if_neg (Ne.symm other), induction rest]

theorem partition_of_notMem (absent : separator ∉ text) :
    partition separator text = (text, none) := by
  induction text with
  | nil => rfl
  | cons letter text induction =>
      obtain ⟨other, rest⟩ := List.ne_and_not_mem_of_not_mem_cons absent
      rw [partition, if_neg (Ne.symm other), induction rest]

/-- A partition is of a text in which the separator stands, or does not. -/
theorem partition_cases (separator : α) (text : List α) :
    (separator ∉ text ∧ partition separator text = (text, none)) ∨
      ∃ before after, text = before ++ separator :: after ∧ separator ∉ before ∧
        partition separator text = (before, some after) := by
  by_cases member : separator ∈ text
  · obtain ⟨before, after, rfl, absent⟩ := List.eq_append_cons_of_mem member
    exact .inr ⟨before, after, rfl, absent, partition_append absent after⟩
  · exact .inl ⟨member, partition_of_notMem member⟩

theorem rpartition_append (before : List α) (absent : separator ∉ after) :
    rpartition separator (before ++ separator :: after) = (some before, after) := by
  have turned : (before ++ separator :: after).reverse =
      after.reverse ++ separator :: before.reverse := by simp
  rw [rpartition, turned, partition_append (by simpa using absent)]
  simp

theorem rpartition_of_notMem (absent : separator ∉ text) :
    rpartition separator text = (none, text) := by
  rw [rpartition, partition_of_notMem (by simpa using absent)]

/-- What stands behind the last separator. -/
theorem rpartition_snd (separator : α) (text : List α) :
    separator ∉ (rpartition separator text).2 ∧
      ∀ letter ∈ (rpartition separator text).2, letter ∈ text := by
  rcases partition_cases separator text.reverse with ⟨absent, -⟩ | ⟨behind, before, turned, absent, -⟩
  · rw [List.mem_reverse] at absent
    rw [rpartition_of_notMem absent]
    exact ⟨absent, fun _ member => member⟩
  · have whole : text = before.reverse ++ separator :: behind.reverse := by
      rw [← List.reverse_reverse text, turned]
      simp
    have missing : separator ∉ behind.reverse := by rwa [List.mem_reverse]
    rw [whole, rpartition_append _ missing]
    exact ⟨missing, fun _ member => List.mem_append_right _ (List.mem_cons_of_mem _ member)⟩

theorem notMem_partition_fst (separator : α) (text : List α) :
    separator ∉ (partition separator text).1 := by
  rcases partition_cases separator text with ⟨absent, same⟩ | ⟨before, after, -, absent, same⟩
  · rwa [same]
  · rwa [same]

theorem mem_of_mem_partition_fst (member : letter ∈ (partition separator text).1) :
    letter ∈ text := by
  rcases partition_cases separator text with ⟨-, same⟩ | ⟨before, after, rfl, -, same⟩
  · rwa [same] at member
  · rw [same] at member
    exact List.mem_append_left _ member

theorem mem_of_mem_partition_snd (behind : (partition separator text).2 = some after)
    (member : letter ∈ after) : letter ∈ text := by
  rcases partition_cases separator text with ⟨-, same⟩ | ⟨before, rest, rfl, -, same⟩
  · rw [same] at behind
    cases behind
  · rw [same] at behind
    cases behind
    exact List.mem_append_right _ (List.mem_cons_of_mem _ member)

end Partition

/-! ## The Unicode database -/

/-- What is asked of the Unicode database. -/
structure Unicode where
  /-- `str.lower`. -/
  lower : Text → Text
  /-- `unicodedata.normalize`, in the form NFKC. -/
  normalize : Text → Text
  lower_ascii : ∀ chars : List Char, (∀ char ∈ chars, char.toNat < 128) →
    lower (ofChars chars) = ofChars (chars.map Char.toLower)
  /-- In small letters, nothing in ASCII but small letters is new. -/
  lower_letters : ∀ text char, .char char ∈ lower text → char.toNat < 128 →
    char.isLower = true ∨ .char char ∈ text ∧ char.isUpper = false

/-- A letter of ASCII in small. -/
def lowerLetter : CodePoint → CodePoint
  | .char char => .char char.toLower
  | .surrogate half => .surrogate half

/-- As much of the database as there is of ASCII. -/
def Unicode.ascii : Unicode where
  lower text := text.map lowerLetter
  normalize text := text
  lower_ascii chars _ := by
    rw [ofChars, ofChars, List.map_map, List.map_map]
    rfl
  lower_letters text char member _ := by
    obtain ⟨letter, inside, same⟩ := List.mem_map.mp member
    cases letter with
    | surrogate half => cases same
    | char other =>
        cases same
        by_cases upper : other.isUpper = true
        · exact .inl (isLower_toLower upper)
        · rw [toLower_eq_self (Bool.eq_false_iff.mpr upper)]
          exact .inr ⟨inside, Bool.eq_false_iff.mpr upper⟩

/-! ## Hosts -/

/-- `ip_address`.  An IPv6 address may have a scope behind a percent sign. -/
def address? (text : Text) : Option IpAddress.Address :=
  match (characters? text).bind IpAddress.v4? with
  | some bits => some (.v4 bits)
  | none =>
      if .char '/' ∈ text then none
      else
        match partition (.char '%') text with
        | (address, none) => ((characters? address).bind IpAddress.v6?).map .v6
        | (address, some scope) =>
            if scope = [] ∨ .char '%' ∈ scope then none
            else ((characters? address).bind IpAddress.v6?).map .v6

/-- The host is given by a version of IP that is still to come. -/
def isFuture : Text → Bool
  | .char 'v' :: text =>
      let digits := text.takeWhile fun letter => letter.hex?.isSome
      match text.dropWhile fun letter => letter.hex?.isSome with
      | .char '.' :: rest =>
          digits ≠ [] && rest ≠ [] && rest.all fun letter => letter != .char '\n'
      | _ => false
  | _ => false

/-- `_check_bracketed_host` does not raise. -/
def bracketedHost (hostname : Text) : Bool :=
  if hostname.head? = some (.char 'v') then isFuture hostname
  else
    match address? hostname with
    | some (.v6 _) => true
    | _ => false

/-! ## The authority -/

/-- `_check_bracketed_netloc` does not raise. -/
def bracketedNetloc (netloc : Text) : Bool :=
  let hostAndPort := (rpartition (.char '@') netloc).2
  match partition (.char '[') hostAndPort with
  | (before, some bracketed) =>
      let (hostname, behind) := partition (.char ']') bracketed
      let port := behind.getD []
      before == [] && (port == [] || port.head? == some (.char ':')) && bracketedHost hostname
  | (_, none) => bracketedHost (partition (.char ':') hostAndPort).1

/-- Letters that would change the parts of the URL if a letter were normalized into them. -/
def separators : List CodePoint :=
  [.char '/', .char '?', .char '#', .char '@', .char ':']

/-- `_checknetloc` does not raise. -/
def normalNetloc (unicode : Unicode) (netloc : Text) : Bool :=
  let kept := netloc.filter fun letter =>
    letter ∉ [CodePoint.char '@', .char ':', .char '#', .char '?']
  let normal := unicode.normalize kept
  netloc.all isAscii || normal == kept || normal.all fun letter => letter ∉ separators

/-- The authority, if none of the checks raises a `ValueError`. -/
def checked (unicode : Unicode) (netloc : Text) : Option Text :=
  if ¬ (CodePoint.char '[' ∈ netloc ↔ CodePoint.char ']' ∈ netloc) then none
  else if CodePoint.char '[' ∈ netloc ∧ !bracketedNetloc netloc then none
  else if normalNetloc unicode netloc then some netloc
  else none

def isControlOrSpace : CodePoint → Bool
  | .char char => char.toNat ≤ 32
  | .surrogate _ => false

/-- A letter that is removed from a URL wherever it stands. -/
def isRemoved (letter : CodePoint) : Bool :=
  letter == .char '\t' || letter == .char '\r' || letter == .char '\n'

def isSchemeLetter : CodePoint → Bool
  | .char char => char.isAlphanum || char == '+' || char == '-' || char == '.'
  | .surrogate _ => false

/-- What stands behind the scheme, if there is one. -/
def withoutScheme (url : Text) : Text :=
  match partition (.char ':') url with
  | (.char first :: scheme, some rest) =>
      if first.isAlpha && scheme.all isSchemeLetter then rest else url
  | _ => url

/-- A letter that ends the authority. -/
def isDelimiter (letter : CodePoint) : Bool :=
  letter == .char '/' || letter == .char '?' || letter == .char '#'

/-- The `netloc` that `urlsplit` gives, unless it raises a `ValueError`. -/
def netloc? (unicode : Unicode) (url : Text) : Option Text :=
  let url := withoutScheme ((url.dropWhile isControlOrSpace).filter fun letter => !isRemoved letter)
  match url with
  | .char '/' :: .char '/' :: rest =>
      checked unicode (rest.takeWhile fun letter => !isDelimiter letter)
  | _ => some []

/-- `_userinfo`: the user's name and password. -/
def userinfo (netloc : Text) : Option Text × Option Text :=
  match (rpartition (.char '@') netloc).1 with
  | some info => (some (partition (.char ':') info).1, (partition (.char ':') info).2)
  | none => (none, none)

/-- The host of `_hostinfo`. -/
def hostinfo (netloc : Text) : Text :=
  let hostAndPort := (rpartition (.char '@') netloc).2
  match partition (.char '[') hostAndPort with
  | (_, some bracketed) => (partition (.char ']') bracketed).1
  | (_, none) => (partition (.char ':') hostAndPort).1

/-- `hostname`: the scope of an address keeps its case. -/
def hostname (unicode : Unicode) (netloc : Text) : Option Text :=
  if hostinfo netloc = [] then none
  else
    match partition (.char '%') (hostinfo netloc) with
    | (host, some scope) => some (unicode.lower host ++ .char '%' :: scope)
    | (host, none) => some (unicode.lower host)

/-! ## What stands in an authority -/

variable {unicode : Unicode} {url netloc host info user password authority path : Text}
  {letter : CodePoint} {char : Char}

theorem mem_of_mem_withoutScheme (member : letter ∈ withoutScheme url) : letter ∈ url := by
  rw [withoutScheme] at member
  split at member
  · next first scheme rest parts =>
    split at member
    · exact mem_of_mem_partition_snd (by rw [parts]) member
    · exact member
  · exact member

theorem eq_of_checked (passes : checked unicode authority = some netloc) : netloc = authority := by
  rw [checked] at passes
  split at passes
  · cases passes
  · split at passes
    · cases passes
    · split at passes
      · exact (Option.some.inj passes).symm
      · cases passes

/-- An authority that opens a bracket closes it. -/
theorem closes_of_checked (passes : checked unicode authority = some netloc)
    (opens : CodePoint.char '[' ∈ authority) : CodePoint.char ']' ∈ authority := by
  rw [checked] at passes
  split at passes
  · cases passes
  · next balanced =>
    exact (not_not.mp balanced).mp opens

theorem checked_of_ascii (ascii : ∀ letter ∈ authority, isAscii letter = true)
    (noOpen : CodePoint.char '[' ∉ authority) (noClose : CodePoint.char ']' ∉ authority) :
    checked unicode authority = some authority := by
  have normal : normalNetloc unicode authority = true := by
    simp only [normalNetloc, List.all_eq_true.mpr ascii, Bool.true_or]
  rw [checked, if_neg (by simp [noOpen, noClose]), if_neg (fun both => noOpen both.1), if_pos normal]

theorem letters_of_netloc? (splits : netloc? unicode url = some netloc) :
    ∀ letter ∈ netloc, isRemoved letter = false ∧ isDelimiter letter = false := by
  intro letter member
  simp only [netloc?] at splits
  split at splits
  · next rest behind =>
    rw [eq_of_checked splits] at member
    have plain := List.all_eq_true.mp List.all_takeWhile letter member
    have inside : letter ∈ withoutScheme
        ((url.dropWhile isControlOrSpace).filter fun letter => !isRemoved letter) := by
      rw [behind]
      exact List.mem_cons_of_mem _ (List.mem_cons_of_mem _
        (List.takeWhile_sublist _ |>.subset member))
    have kept := (List.mem_filter.mp (mem_of_mem_withoutScheme inside)).2
    exact ⟨by simpa using kept, by simpa using plain⟩
  · cases splits
    exact absurd member List.not_mem_nil

theorem mem_of_mem_hostinfo (member : letter ∈ hostinfo netloc) :
    letter ∈ netloc ∧ letter ≠ .char '@' := by
  obtain ⟨absent, inside⟩ := rpartition_snd (CodePoint.char '@') netloc
  have behind : letter ∈ (rpartition (CodePoint.char '@') netloc).2 := by
    simp only [hostinfo] at member
    split at member
    · next before bracketed parts =>
      exact mem_of_mem_partition_snd (by rw [parts]) (mem_of_mem_partition_fst member)
    · exact mem_of_mem_partition_fst member
  exact ⟨inside letter behind, fun same => absent (same ▸ behind)⟩

/-- Only a host in brackets has a colon, and it has no closing bracket. -/
theorem colon_notMem_or_close_notMem_hostinfo (netloc : Text) :
    CodePoint.char ':' ∉ hostinfo netloc ∨ CodePoint.char ']' ∉ hostinfo netloc := by
  simp only [hostinfo]
  split
  · exact .inr (notMem_partition_fst _ _)
  · exact .inl (notMem_partition_fst _ _)

theorem mem_of_mem_hostname (named : hostname unicode netloc = some host)
    (member : CodePoint.char char ∈ host) (ascii : char.toNat < 128) :
    char.isLower = true ∨ CodePoint.char char ∈ hostinfo netloc := by
  have lowered {text : Text} (member : CodePoint.char char ∈ unicode.lower text) :
      char.isLower = true ∨ CodePoint.char char ∈ text :=
    (unicode.lower_letters text char member ascii).imp_right And.left
  rw [hostname] at named
  split at named
  · cases named
  · rcases partition_cases (CodePoint.char '%') (hostinfo netloc) with
      ⟨-, parts⟩ | ⟨before, scope, whole, -, parts⟩
    · rw [parts] at named
      cases named
      exact lowered member
    · rw [parts] at named
      cases named
      rcases List.mem_append.mp member with first | later
      · exact (lowered first).imp_right fun inside => whole ▸ List.mem_append_left _ inside
      · exact .inr (whole ▸ List.mem_append_right _ later)

/-! ## URLs that were put together -/

theorem withoutScheme_append {first : Char} {scheme : List Char} (alpha : first.isAlpha = true)
    (letters : ∀ char ∈ scheme, isSchemeLetter (.char char) = true) (rest : Text) :
    withoutScheme (.char first :: ofChars scheme ++ .char ':' :: rest) = rest := by
  have absent : CodePoint.char ':' ∉ CodePoint.char first :: ofChars scheme := by
    intro member
    rcases List.mem_cons.mp member with same | later
    · cases same
      exact absurd alpha (by decide)
    · obtain ⟨char, inside, same⟩ := List.mem_map.mp later
      cases same
      exact absurd (letters ':' inside) (by decide)
  have all : (ofChars scheme).all isSchemeLetter = true := by
    refine List.all_eq_true.mpr fun letter member => ?_
    obtain ⟨char, inside, rfl⟩ := List.mem_map.mp member
    exact letters char inside
  rw [withoutScheme, partition_append absent]
  simp only [alpha, all, Bool.and_self, if_true]

/-- The authority of a URL that has a scheme and a path. -/
theorem netloc?_append {first : Char} {scheme : List Char} (alpha : first.isAlpha = true)
    (letters : ∀ char ∈ scheme, isSchemeLetter (.char char) = true)
    (plain : ∀ letter ∈ authority, isRemoved letter = false ∧ isDelimiter letter = false)
    (kept : ∀ letter ∈ path, isRemoved letter = false) :
    netloc? unicode (.char first :: ofChars scheme ++ .char ':' :: .char '/' :: .char '/' ::
      (authority ++ .char '/' :: path)) = checked unicode authority := by
  have starts : isControlOrSpace (.char first) = false := by
    have high : 32 < first.toNat := by
      simp only [isAlpha_iff, isUpper_iff, isLower_iff] at alpha
      omega
    simp only [isControlOrSpace, decide_eq_false_iff_not]
    omega
  have stays {letter : CodePoint} (scheme : isSchemeLetter letter = true) :
      isRemoved letter = false := by
    simp only [isRemoved, Bool.or_eq_false_iff, beq_eq_false_iff_ne]
    refine ⟨⟨?_, ?_⟩, ?_⟩
    all_goals
      rintro rfl
      exact absurd scheme (by decide)
  have firstLetter : isSchemeLetter (.char first) = true := by
    simp [isSchemeLetter, Char.isAlphanum, alpha]
  have all : ((CodePoint.char first :: ofChars scheme ++ .char ':' :: .char '/' :: .char '/' ::
      (authority ++ .char '/' :: path)).filter fun letter => !isRemoved letter) =
      .char first :: ofChars scheme ++ .char ':' :: .char '/' :: .char '/' ::
        (authority ++ .char '/' :: path) := by
    refine List.filter_eq_self.mpr fun letter member => ?_
    rw [Bool.not_eq_true', ← Bool.not_eq_true]
    simp only [List.cons_append, List.mem_cons, List.mem_append, ofChars, List.mem_map] at member
    rcases member with rfl | ⟨char, inside, rfl⟩ | rfl | rfl | rfl | here | rfl | behind
    · simp [stays firstLetter]
    · simp [stays (letters char inside)]
    · decide
    · decide
    · decide
    · simp [(plain letter here).1]
    · decide
    · simp [kept letter behind]
  have whole : ((CodePoint.char first :: ofChars scheme ++ .char ':' :: .char '/' :: .char '/' ::
      (authority ++ .char '/' :: path)).dropWhile isControlOrSpace) =
      .char first :: ofChars scheme ++ .char ':' :: .char '/' :: .char '/' ::
        (authority ++ .char '/' :: path) := by
    rw [List.cons_append, List.dropWhile_cons_of_neg (by simp [starts])]
  have taken : ((authority ++ CodePoint.char '/' :: path).takeWhile fun letter =>
      !isDelimiter letter) = authority := by
    rw [List.takeWhile_append_of_pos (fun letter member => by simp [(plain letter member).2]),
      List.takeWhile_cons_of_neg (by decide), List.append_nil]
  simp only [netloc?]
  rw [whole, all, withoutScheme_append alpha letters]
  simp only [taken]

theorem userinfo_append (noColon : CodePoint.char ':' ∉ user)
    (noAt : CodePoint.char '@' ∉ host) (password : Text) :
    userinfo (user ++ .char ':' :: password ++ .char '@' :: host) = (some user, some password) := by
  rw [userinfo, rpartition_append _ noAt]
  simp only [partition_append noColon]

theorem hostinfo_append (noAt : CodePoint.char '@' ∉ host) (noOpen : CodePoint.char '[' ∉ host)
    (info : Text) :
    hostinfo (info ++ .char '@' :: host) = (partition (.char ':') host).1 := by
  simp only [hostinfo, rpartition_append _ noAt, partition_of_notMem noOpen]

end Url
end Library
