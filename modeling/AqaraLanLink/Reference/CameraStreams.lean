import AqaraLanLink.Library.Regex
import AqaraLanLink.Library.JsonRoundTrip
import AqaraLanLink.Reference.GapReport
import AqaraLanLink.Reference.HostValidation

/-!
# The streams of a camera

A camera tells the URLs of its streams in a trait.  The host and the credentials are taken from the
best of them, offered in a form, and put together again: into one RTSP source for each channel, and
into the command of the bridge for the way back.
-/

namespace AqaraLanLink
namespace Reference
namespace CameraStreams

open Library
open Library.JsonText
open Library.PercentEncoding (quote unquote)
open Library.Url (Unicode netloc? userinfo hostname)
open HostValidation (isSafeHost)

variable {F : Type}

/-- What the interpreter brings along. -/
structure Interpreter (F : Type) where
  unicode : Unicode
  floats : Floats F
  /-- How many calls the decoder of JSON may nest. -/
  levels : ℕ
  /-- How many calls of `_walk` may nest. -/
  frames : ℕ

/-- What a call raises. -/
inductive Raised where
  | valueError
  | recursionError
  deriving DecidableEq, Repr

/-! ## The trait -/

structure RtspDetails where
  cameraIp : Option Text
  username : Option Text
  password : Option Text
  /-- The URL with the highest resolution. -/
  streamUrl : Option Text
  deriving DecidableEq, Repr

def isBlank : CodePoint → Bool
  | .char char => Python.isSpace char
  | .surrogate _ => false

/-- `str.strip`. -/
def strip (text : Text) : Text :=
  ((text.dropWhile isBlank).reverse.dropWhile isBlank).reverse

/-- `text.lower().startswith("rtsp://")`. -/
def isRtsp (unicode : Unicode) (text : Text) : Bool :=
  (ofString "rtsp://").isPrefixOf (unicode.lower text)

/-- The value of a digit in any script. -/
def decimal? : CodePoint → Option ℕ
  | .char char => decimalValue char
  | .surrogate _ => none

/-- `int` of a run of digits.  It takes so many of them and no more. -/
def readDigits (run : Text) : Except Raised ℕ :=
  if maxDigits < run.length then .error .valueError
  else .ok (run.foldl (fun value digit => value * 10 + (decimal? digit).getD 0) 0)

/-- The largest number in a key, or zero. -/
def resolutionScore (key : Text) : Except Raised ℕ := do
  let digits := (Pattern.plus fun letter => (decimal? letter).isSome).findAll key
  let numbers ← digits.mapM readDigits
  .ok (numbers.foldl max 0)

/-- `_walk`: the URLs below a node, each with the score of the key that it stands under. -/
def walk (unicode : Unicode) : ℕ → Value F → Text → Except Raised (List (ℕ × Text))
  | 0, _, _ => .error .recursionError
  | frames + 1, node, keyHint =>
      match node with
      | .string text =>
          if isRtsp unicode text then do
            let score ← resolutionScore keyHint
            .ok [(score, text)]
          else .ok []
      | .object members => do
          let found ← members.mapM fun member => walk unicode frames member.2 member.1
          .ok found.flatten
      | .array items => do
          let found ← items.mapM fun item => walk unicode frames item keyHint
          .ok found.flatten
      | _ => .ok []

/-- `_collect_rtsp_urls`. -/
def collectRtspUrls (python : Interpreter F) (raw : Text) : Except Raised (List (ℕ × Text)) :=
  let text := strip raw
  if isRtsp python.unicode text then .ok [(0, text)]
  else
    match loads python.floats python.levels text with
    | .ok parsed => walk python.unicode python.frames parsed []
    -- Only errors of values are caught.
    | .error .recursion => .error .recursionError
    | .error _ => .ok []

/-- `max` by the score: the first of the best. -/
def best : List (ℕ × Text) → Option (ℕ × Text)
  | [] => none
  | first :: found =>
      some (found.foldl (fun best pair => if best.1 < pair.1 then pair else best) first)

/-- What an option that is not empty is read as. -/
def unquoted (part : Option Text) : Option Text := (part.filter (· ≠ [])).map unquote

/-- The details of a URL. -/
def readUrl (unicode : Unicode) (chosen : Text) : Except Raised (Option RtspDetails) :=
  match netloc? unicode chosen with
  | none => .error .valueError
  | some netloc =>
      match hostname unicode netloc with
      | none => .ok none
      | some host =>
          if isSafeHost host then
            .ok (some ⟨some host, unquoted (userinfo netloc).1, unquoted (userinfo netloc).2,
              some chosen⟩)
          else .ok none

/-- A value that is no text is none here. -/
def parseCameraRtspUrl (python : Interpreter F) (raw : Option Text) :
    Except Raised (Option RtspDetails) :=
  match raw.filter (· ≠ []) with
  | none => .ok none
  | some raw => do
      let found ← collectRtspUrls python raw
      match best found with
      | none => .ok none
      | some chosen => readUrl python.unicode chosen.2

/-! ## The sources -/

def rtspPort : ℕ := 8554

/-- A number in a text. -/
def ofNumber (number : ℕ) : Text := ofChars (Nat.toDigits 10 number)

/-- The source of a channel, unless the host is not safe or the credentials are no characters. -/
def buildRtspSource (cameraIp username password : Text) (channel : ℕ) : Except Raised Text :=
  if isSafeHost cameraIp then
    match quote username, quote password with
    | some user, some pwd =>
        .ok (ofString "rtsp://" ++ ofChars user ++ ofString ":" ++ ofChars pwd ++ ofString "@" ++
          cameraIp ++ ofString ":" ++ ofNumber rtspPort ++ ofString "/ch" ++ ofNumber channel)
    | _, _ => .error .valueError
  else .error .valueError

/-- The command of the bridge, given the paths of the interpreter and of the script. -/
def buildExecSource (python bridgeScript cameraIp : Text) : Except Raised Text :=
  if isSafeHost cameraIp then
    .ok (ofString "exec:" ++ python ++ ofString " " ++ bridgeScript ++ ofString " " ++ cameraIp ++
      ofString "#backchannel=1")
  else .error .valueError

/-! ## The camera -/

/-- What the form for a camera is filled in with. -/
structure Prefill where
  cameraIp : Text
  rtspUsername : Option Text
  rtspPassword : Option Text

/-- `_build_rtsp_prefill`. -/
def buildRtspPrefill (python : Interpreter F) (raw : Text) : Except Raised (Option Prefill) := do
  match ← parseCameraRtspUrl python (some raw) with
  | none => .ok none
  | some details =>
      match details.cameraIp.filter (· ≠ []) with
      | none => .ok none
      | some cameraIp =>
          .ok (some ⟨cameraIp, details.username.filter (· ≠ []), details.password.filter (· ≠ [])⟩)

/-- What is configured for a camera. -/
structure Subentry where
  cameraIp : Option Text
  rtspUsername : Option Text
  rtspPassword : Option Text
  /-- The channel, if it is a number. -/
  backchannelChannel : Option ℕ
  /-- The camera is the hub itself. -/
  isSelf : Bool

/-- The form, submitted as it was filled in. -/
def Prefill.submitted (prefill : Prefill) : Subentry :=
  ⟨some prefill.cameraIp, prefill.rtspUsername, prefill.rtspPassword, some 1, false⟩

/-- Where a camera is and how to log in. -/
structure Endpoint where
  cameraIp : Option Text
  username : Option Text
  password : Option Text

/-- `_resolve_camera_endpoint`, given what reading the trait of the hub itself gives. -/
def resolveCameraEndpoint (python : Interpreter F) (subentry : Subentry) (trait : Option Text) :
    Except Raised Endpoint :=
  match subentry.cameraIp.filter (· ≠ []) with
  | some cameraIp => .ok ⟨some cameraIp, subentry.rtspUsername, subentry.rtspPassword⟩
  | none =>
      if !subentry.isSelf then .ok ⟨none, none, none⟩
      else do
        match ← parseCameraRtspUrl python trait with
        | none => .ok ⟨none, none, none⟩
        | some details =>
            if details.cameraIp.filter (· ≠ []) = none then .ok ⟨none, none, none⟩
            else .ok ⟨details.cameraIp, details.username, details.password⟩

def channels : List ℕ := [1, 2, 3]

/-- The stream of the camera that go2rtc is told of. -/
structure Registration where
  streamName : Text
  sources : List Text

/-- What `async_setup_camera` sets up. -/
structure Cameras where
  /-- The sources of the entities, by their channels. -/
  entities : List (ℕ × Text)
  go2rtc : Option Registration

/-- `async_setup_camera`, given the paths of the interpreter and of the script if there is a Home
Assistant. -/
def asyncSetupCamera (python : Interpreter F) (paths : Option (Text × Text)) (subentry : Subentry)
    (trait : Option Text) : Except Raised Cameras := do
  let endpoint ← resolveCameraEndpoint python subentry trait
  match endpoint.cameraIp.filter (· ≠ []) with
  | none => .ok ⟨[], none⟩
  | some cameraIp =>
      let username := endpoint.username.getD []
      let password := endpoint.password.getD []
      let entities ← channels.mapM fun channel => do
        let source ← buildRtspSource cameraIp username password channel
        .ok (channel, source)
      match paths with
      | none => .ok ⟨entities, none⟩
      | some (executable, bridgeScript) => do
          let streamName := ofString "aqara_lanlink_" ++
            cameraIp.map fun letter => if letter = .char '.' then .char '_' else letter
          let rtspSource ← buildRtspSource cameraIp username password
            (subentry.backchannelChannel.getD 1)
          let ffmpegSource := ofString "ffmpeg:" ++ streamName ++
            ofString "#video=copy#audio=opus#audio=copy"
          let execSource ← buildExecSource executable bridgeScript cameraIp
          .ok ⟨entities, some ⟨streamName, [rtspSource, ffmpegSource, execSource]⟩⟩

/-! ## The words of a command -/

/-- The words of the command that a source tells, up to its parameters. -/
def commandWords (blank : CodePoint → Bool) (source : Text) : List Text :=
  (((source.drop (ofString "exec:").length).takeWhile fun letter => letter != .char '#').splitOnP
    blank).filter (· ≠ [])

/-- What stands between words is no letter of a plain host. -/
structure Separates (blank : CodePoint → Bool) : Prop where
  space : blank (.char ' ') = true
  feed : blank (.char '\n') = true
  percent : blank (.char '%') = false
  plain : ∀ letter, HostValidation.isHostLetter letter = true → blank letter = false

/-- A letter that may stand in a word. -/
def InWord (blank : CodePoint → Bool) (letter : CodePoint) : Prop :=
  blank letter = false ∧ letter ≠ .char '#'

/-- A word of a command. -/
def IsWord (blank : CodePoint → Bool) (word : Text) : Prop :=
  word ≠ [] ∧ ∀ letter ∈ word, InWord blank letter

/-- A space, a line feed or a tabulator. -/
def isAsciiBlank (letter : CodePoint) : Bool :=
  letter == .char ' ' || letter == .char '\n' || letter == .char '\t'

theorem separates_isAsciiBlank : Separates isAsciiBlank where
  space := by decide
  feed := by decide
  percent := by decide
  plain letter plain := by
    rw [← Bool.not_eq_true]
    intro blank
    simp only [isAsciiBlank, Bool.or_eq_true, beq_iff_eq] at blank
    rcases blank with (rfl | rfl) | rfl
    all_goals exact absurd plain (by decide)

variable {blank : CodePoint → Bool} {python bridgeScript cameraIp source : Text}

theorem isWord_of_all {text : Text} (some : text ≠ [])
    (letters : (text.all fun letter => !blank letter && letter != .char '#') = true) :
    IsWord blank text := by
  refine ⟨some, fun letter member => ?_⟩
  have plain := List.all_eq_true.mp letters letter member
  rw [Bool.and_eq_true, Bool.not_eq_true', bne_iff_ne] at plain
  exact plain

theorem letters_of_mem_splitOnP {text word : Text} (member : word ∈ text.splitOnP blank) :
    ∀ letter ∈ word, letter ∈ text ∧ blank letter = false := by
  induction text generalizing word with
  | nil =>
      rw [List.splitOnP_nil, List.mem_singleton] at member
      subst member
      exact fun _ none => absurd none List.not_mem_nil
  | cons first text induction =>
      obtain ⟨head, words, same⟩ := List.exists_cons_of_ne_nil (List.splitOnP_ne_nil blank text)
      rw [same] at induction
      have later {word : Text} (member : word ∈ head :: words) :
          ∀ letter ∈ word, letter ∈ first :: text ∧ blank letter = false :=
        fun letter inside => (induction member letter inside).imp_left (List.mem_cons_of_mem _)
      rw [List.splitOnP_cons_eq_if_modifyHead, same] at member
      split at member
      · rcases List.mem_cons.mp member with rfl | behind
        · exact fun _ none => absurd none List.not_mem_nil
        · exact later behind
      · next word_first =>
        rw [List.modifyHead_cons] at member
        rcases List.mem_cons.mp member with rfl | behind
        · intro letter inside
          rcases List.mem_cons.mp inside with rfl | rest
          · exact ⟨List.mem_cons_self, by simpa using word_first⟩
          · exact later List.mem_cons_self letter rest
        · exact later (List.mem_cons_of_mem _ behind)

theorem isWord_of_mem_commandWords {word : Text} (member : word ∈ commandWords blank source) :
    IsWord blank word := by
  obtain ⟨inside, some⟩ := List.mem_filter.mp member
  refine ⟨by simpa using some, fun letter here => ?_⟩
  obtain ⟨before, plain⟩ := letters_of_mem_splitOnP inside letter here
  exact ⟨plain, by simpa using List.all_eq_true.mp List.all_takeWhile letter before⟩

theorem commandWords_of_isWord (separates : Separates blank) (executable : IsWord blank python)
    (script : IsWord blank bridgeScript) (host : IsWord blank cameraIp) :
    commandWords blank (ofString "exec:" ++ python ++ ofString " " ++ bridgeScript ++
      ofString " " ++ cameraIp ++ ofString "#backchannel=1") =
      [python, bridgeScript, cameraIp] := by
  have plain {word : Text} (isWord : IsWord blank word) :
      ∀ letter ∈ word, blank letter = false := fun letter member => (isWord.2 letter member).1
  have mark : ofString "#backchannel=1" = .char '#' :: ofString "backchannel=1" := rfl
  have space : ofString " " = [.char ' '] := rfl
  have inside : ∀ letter ∈ python ++ .char ' ' :: (bridgeScript ++ .char ' ' :: cameraIp),
      (letter != CodePoint.char '#') = true := by
    intro letter member
    simp only [List.mem_append, List.mem_cons] at member
    rw [bne_iff_ne]
    rcases member with here | rfl | here | rfl | here
    · exact (executable.2 letter here).2
    · decide
    · exact (script.2 letter here).2
    · decide
    · exact (host.2 letter here).2
  have whole : ofString "exec:" ++ python ++ ofString " " ++ bridgeScript ++ ofString " " ++
      cameraIp ++ ofString "#backchannel=1" =
      ofString "exec:" ++ (python ++ .char ' ' :: (bridgeScript ++ .char ' ' :: cameraIp) ++
        .char '#' :: ofString "backchannel=1") := by
    simp only [mark, space, List.append_assoc, List.cons_append, List.nil_append]
  rw [commandWords, whole, List.drop_left, List.takeWhile_append_of_pos inside,
    List.takeWhile_cons_of_neg (by decide), List.append_nil,
    List.splitOnP_append_cons_of_forall_mem (plain executable) _ separates.space,
    List.splitOnP_append_cons_of_forall_mem (plain script) _ separates.space,
    List.splitOnP_eq_singleton (plain host)]
  simp [executable.1, script.1, host.1]

/-- The host is one word of the command of the bridge, unless there is a blank or the mark of the
parameters in its scope, or a line feed at its end. -/
theorem commandWords_eq_iff (separates : Separates blank) (executable : IsWord blank python)
    (script : IsWord blank bridgeScript)
    (builds : buildExecSource python bridgeScript cameraIp = .ok source) :
    commandWords blank source = [python, bridgeScript, cameraIp] ↔
      (∀ letter ∈ HostValidation.scope cameraIp, InWord blank letter) ∧
        cameraIp.getLast? ≠ some (.char '\n') := by
  rw [buildExecSource] at builds
  split at builds
  · next safe =>
    cases builds
    rw [← HostValidation.forall_letters_iff (InWord blank) ?_ ⟨separates.percent, by decide⟩
      (fun feed => by simp [InWord, separates.feed] at feed) safe]
    · constructor
      · intro words
        have member : cameraIp ∈ commandWords blank (ofString "exec:" ++ python ++ ofString " " ++
            bridgeScript ++ ofString " " ++ cameraIp ++ ofString "#backchannel=1") := by
          rw [words]
          simp
        exact (isWord_of_mem_commandWords member).2
      · exact fun letters => commandWords_of_isWord separates executable script
          ⟨HostValidation.ne_nil_of_isSafeHost safe, letters⟩
    · refine fun letter plain => ⟨separates.plain letter plain, ?_⟩
      rintro rfl
      exact absurd plain (by decide)
  · cases builds

/-- The name of an interface is no word of its own. -/
theorem commandWords_eth : commandWords isAsciiBlank
      (ofString "exec:python bridge.py fe80::1%eth0#backchannel=1") =
    [ofString "python", ofString "bridge.py", ofString "fe80::1%eth0"] := by
  have builds : buildExecSource (ofString "python") (ofString "bridge.py")
      (ofString "fe80::1%eth0") =
        .ok (ofString "exec:python bridge.py fe80::1%eth0#backchannel=1") := rfl
  refine (commandWords_eq_iff separates_isAsciiBlank (isWord_of_all (by decide) (by decide))
    (isWord_of_all (by decide) (by decide)) builds).mpr ⟨fun letter member => ?_, by decide⟩
  have word : IsWord isAsciiBlank (ofString "eth0") := isWord_of_all (by decide) (by decide)
  exact word.2 letter member

end CameraStreams
end Reference
end AqaraLanLink
