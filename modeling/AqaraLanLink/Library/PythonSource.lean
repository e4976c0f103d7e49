import AqaraLanLink.Library.JsonRoundTrip

/-!
# Python source text

String literals as `repr` writes them, and the part of Python's lexical structure and of its grammar
in which a module assigns displays of dictionaries and calls with keywords.  A text outside of this
part is not read at all.
-/

namespace Library
namespace PythonSource

open JsonText (hexValue? hexValue?_digitChar)

/-! ## String literals -/

/-- As many hexadecimal digits of a number as asked for. -/
def hexDigits : ℕ → ℕ → List Char
  | 0, _ => []
  | digits + 1, value => hexDigits digits (value / 16) ++ [Nat.digitChar (value % 16)]

/-- A character inside a literal.  `printable` is asked of characters outside of ASCII. -/
def escapeChar (printable : Char → Bool) (quote char : Char) : List Char :=
  if char = quote ∨ char = '\\' then ['\\', char]
  else if char = '\t' then ['\\', 't']
  else if char = '\n' then ['\\', 'n']
  else if char = '\r' then ['\\', 'r']
  else if char.toNat < 0x20 ∨ char.toNat = 0x7F then '\\' :: 'x' :: hexDigits 2 char.toNat
  else if char.toNat < 0x7F ∨ printable char = true then [char]
  else if char.toNat < 0x100 then '\\' :: 'x' :: hexDigits 2 char.toNat
  else if char.toNat < 0x10000 then '\\' :: 'u' :: hexDigits 4 char.toNat
  else '\\' :: 'U' :: hexDigits 8 char.toNat

/-- The quote that needs no escape, if there is one, and else the single one. -/
def quoteOf (text : List Char) : Char :=
  if '\'' ∈ text ∧ '"' ∉ text then '"' else '\''

/-- `repr` of a text. -/
def repr (printable : Char → Bool) (text : List Char) : List Char :=
  quoteOf text :: (text.flatMap (escapeChar printable (quoteOf text)) ++ [quoteOf text])

/-! ## Tokens -/

inductive Token where
  | newline
  /-- A name, a keyword or a number. -/
  | word (letters : List Char)
  | text (chars : List Char)
  | mark (char : Char)
  deriving DecidableEq, Repr

/-- Where a reader stands. -/
inductive Mode where
  /-- At the start of a line of its own. -/
  | margin
  | code
  | comment (blank : Bool)
  | word (numeric : Bool) (read : List Char)
  | text (quote : Char) (read : List Char)
  | escape (quote : Char) (read : List Char)
  | hex (quote : Char) (read : List Char) (left value : ℕ)
  /-- Behind a literal. -/
  | closed
  deriving DecidableEq, Repr

structure Reader where
  mode : Mode := .margin
  /-- How many brackets are open. -/
  depth : ℕ := 0
  tokens : List Token := []
  deriving DecidableEq, Repr

def startsWord (char : Char) : Bool := char.isAlphanum || char == '_'

/-- A word goes on.  In a number, a sign may follow the mark of an exponent. -/
def continues (numeric : Bool) (read : List Char) (char : Char) : Bool :=
  startsWord char || numeric && (char == '.' ||
    (char == '+' || char == '-') && read.getLast? == some 'e')

/-- What may follow a word or a literal. -/
def isClear (char : Char) : Bool :=
  [' ', '\n', '(', ')', '[', ']', '{', '}', ',', ':', '=', '|'].contains char

def isLineBreak (char : Char) : Bool := ['\n', '\r', '\x00'].contains char

/-- A text without line ends, as a comment may hold it. -/
def isLine (text : List Char) : Bool := text.all fun char => !isLineBreak char

theorem isLine_append (first second : List Char) :
    isLine (first ++ second) = (isLine first && isLine second) := List.all_append

/-- A comment with the end of its line. -/
def comment (text : List Char) : List Char := '#' :: (text ++ ['\n'])

/-- The end of a line, which counts outside of brackets only. -/
def lineEnd : ℕ → List Token → Reader
  | 0, tokens => ⟨.margin, 0, tokens ++ [.newline]⟩
  | depth + 1, tokens => ⟨.code, depth + 1, tokens⟩

/-- A character between tokens. -/
def between (depth : ℕ) (tokens : List Token) (char : Char) : Option Reader :=
  if char = ' ' then some ⟨.code, depth, tokens⟩
  else if char = '\n' then some (lineEnd depth tokens)
  else if char = '#' then some ⟨.comment false, depth, tokens⟩
  else if char = '\'' ∨ char = '"' then some ⟨.text char [], depth, tokens⟩
  else if startsWord char then some ⟨.word char.isDigit [char], depth, tokens⟩
  else if ['(', '[', '{'].contains char then some ⟨.code, depth + 1, tokens ++ [.mark char]⟩
  else if [')', ']', '}'].contains char then
    if depth = 0 then none else some ⟨.code, depth - 1, tokens ++ [.mark char]⟩
  else if [',', ':', '=', '|'].contains char then some ⟨.code, depth, tokens ++ [.mark char]⟩
  else none

/-- The mode behind the character that follows a backslash. -/
def escaped? (quote : Char) (read : List Char) (char : Char) : Option Mode :=
  if char = '\\' ∨ char = '\'' ∨ char = '"' then some (.text quote (read ++ [char]))
  else if char = 't' then some (.text quote (read ++ ['\t']))
  else if char = 'n' then some (.text quote (read ++ ['\n']))
  else if char = 'r' then some (.text quote (read ++ ['\r']))
  else if char = 'x' then some (.hex quote read 2 0)
  else if char = 'u' then some (.hex quote read 4 0)
  else if char = 'U' then some (.hex quote read 8 0)
  else none

/-- The mode behind a hexadecimal digit. -/
def digit? (quote : Char) (read : List Char) (left value digit : ℕ) : Option Mode :=
  if 1 < left then some (.hex quote read (left - 1) (value * 16 + digit))
  else if (value * 16 + digit).isValidChar then
    some (.text quote (read ++ [Char.ofNat (value * 16 + digit)]))
  else none

/-- One character of a text. -/
def next (reader : Reader) (char : Char) : Option Reader :=
  match reader with
  | ⟨.margin, depth, tokens⟩ =>
      if char = ' ' then none
      else if char = '\n' then some ⟨.margin, depth, tokens⟩
      else if char = '#' then some ⟨.comment true, depth, tokens⟩
      else between depth tokens char
  | ⟨.code, depth, tokens⟩ => between depth tokens char
  | ⟨.closed, depth, tokens⟩ => if isClear char then between depth tokens char else none
  | ⟨.comment blank, depth, tokens⟩ =>
      if char = '\n' then some (if blank then ⟨.margin, depth, tokens⟩ else lineEnd depth tokens)
      else if isLineBreak char then none
      else some ⟨.comment blank, depth, tokens⟩
  | ⟨.word numeric read, depth, tokens⟩ =>
      if continues numeric read char then some ⟨.word numeric (read ++ [char]), depth, tokens⟩
      else if isClear char then between depth (tokens ++ [.word read]) char
      else none
  | ⟨.text quote read, depth, tokens⟩ =>
      if char = quote then some ⟨.closed, depth, tokens ++ [.text read]⟩
      else if char = '\\' then some ⟨.escape quote read, depth, tokens⟩
      else if isLineBreak char then none
      else some ⟨.text quote (read ++ [char]), depth, tokens⟩
  | ⟨.escape quote read, depth, tokens⟩ =>
      (escaped? quote read char).map fun mode => ⟨mode, depth, tokens⟩
  | ⟨.hex quote read left value, depth, tokens⟩ =>
      ((hexValue? char).bind (digit? quote read left value)).map fun mode => ⟨mode, depth, tokens⟩

/-- The tokens at the end of a text, where a line that was begun ends. -/
def finish : Reader → Option (List Token)
  | ⟨.margin, 0, tokens⟩ | ⟨.comment true, 0, tokens⟩ => some tokens
  | ⟨.code, 0, tokens⟩ | ⟨.closed, 0, tokens⟩ | ⟨.comment false, 0, tokens⟩ =>
      some (tokens ++ [.newline])
  | ⟨.word _ read, 0, tokens⟩ => some (tokens ++ [.word read, .newline])
  | _ => none

/-- The tokens of a text. -/
def lex (text : List Char) : Option (List Token) := (text.foldlM next {}).bind finish

/-! ## How tokens are read -/

/-- A machine that takes in one item makes one more thing of it takes in them all. -/
theorem foldlM_flatMap {σ τ ι κ : Type} (step : σ → τ → Option σ) (state : List κ → σ)
    (tokens : ι → List τ) (made : ι → κ) {items : List ι}
    (each : ∀ item ∈ items, ∀ before,
      (tokens item).foldlM step (state before) = some (state (before ++ [made item])))
    (before : List κ) :
    (items.flatMap tokens).foldlM step (state before) =
      some (state (before ++ items.map made)) := by
  induction items generalizing before with
  | nil => simp
  | cons item items induction =>
      rw [List.flatMap_cons, List.foldlM_append, each item List.mem_cons_self,
        Option.bind_eq_bind, Option.bind_some,
        induction fun other member => each other (List.mem_cons_of_mem _ member),
        List.append_assoc, List.singleton_append, List.map_cons]

/-- A text between tokens is read as these tokens, whatever follows. -/
def Scans (depth : ℕ) (text : List Char) (tokens : List Token) : Prop :=
  ∀ read, text.foldlM next ⟨.code, depth, read⟩ = some ⟨.code, depth, read ++ tokens⟩

/-- A text between tokens is read as these tokens, when a character follows that ends a word. -/
def Lexes (depth : ℕ) (text : List Char) (tokens : List Token) : Prop :=
  ∀ read char, isClear char = true →
    (text ++ [char]).foldlM next ⟨.code, depth, read⟩ = between depth (read ++ tokens) char

section

variable {depth : ℕ} {text text' : List Char} {tokens tokens' : List Token}

theorem foldlM_singleton (reader : Reader) (char : Char) :
    [char].foldlM next reader = next reader char := by
  simp

theorem scans_nil : Scans depth [] [] := fun read => by simp

theorem Scans.append (first : Scans depth text tokens) (second : Scans depth text' tokens') :
    Scans depth (text ++ text') (tokens ++ tokens') := by
  intro read
  rw [List.foldlM_append, first read, Option.bind_eq_bind, Option.bind_some, second,
    List.append_assoc]

theorem Scans.append_lexes (first : Scans depth text tokens) (second : Lexes depth text' tokens') :
    Lexes depth (text ++ text') (tokens ++ tokens') := by
  intro read char clear
  rw [List.append_assoc, List.foldlM_append, first read, Option.bind_eq_bind, Option.bind_some,
    second _ _ clear, List.append_assoc]

theorem Scans.lexes (scans : Scans depth text tokens) : Lexes depth text tokens := by
  intro read char _
  rw [List.foldlM_append, scans read]
  simp [next]

theorem Lexes.append {char : Char} (first : Lexes depth text tokens) (clear : isClear char = true)
    (second : Scans depth (char :: text') tokens') :
    Scans depth (text ++ char :: text') (tokens ++ tokens') := by
  intro read
  rw [show text ++ char :: text' = (text ++ [char]) ++ text' by simp, List.foldlM_append,
    first read char clear, ← List.append_assoc]
  exact second _

theorem scans_blank : Scans depth [' '] [] := fun read => by simp [next, between]

theorem scans_newline : Scans (depth + 1) ['\n'] [] := fun read => by
  simp [next, between, lineEnd]

theorem scans_mark {char : Char} (mark : [',', ':', '=', '|'].contains char = true) :
    Scans depth [char] [.mark char] := by
  intro read
  simp only [List.contains_cons, List.contains_nil, Bool.or_false, Bool.or_eq_true,
    beq_iff_eq] at mark
  obtain rfl | rfl | rfl | rfl := mark <;> rfl

/-- A mark with a blank behind it. -/
theorem scans_markBlank {char : Char} (mark : [',', ':', '=', '|'].contains char = true) :
    Scans depth (char :: [' ']) [.mark char] := (scans_mark mark).append scans_blank

theorem scans_colon : Scans depth (':' :: [' ']) [.mark ':'] := scans_markBlank (by decide)

/-- Blanks and line ends inside of brackets. -/
theorem scans_space (inside : (text.all fun char => char == ' ' || char == '\n') = true) :
    Scans (depth + 1) text [] := by
  induction text with
  | nil => exact scans_nil
  | cons char text induction =>
      simp only [List.all_cons, Bool.and_eq_true, Bool.or_eq_true, beq_iff_eq] at inside
      have first : Scans (depth + 1) [char] [] := by
        rcases inside.1 with rfl | rfl
        · exact scans_blank
        · exact scans_newline
      exact first.append (induction inside.2)

theorem next_comment {blank : Bool} {char : Char} (kept : isLineBreak char = false)
    (read : List Token) :
    next ⟨.comment blank, depth, read⟩ char = some ⟨.comment blank, depth, read⟩ := by
  have other : char ≠ '\n' := by
    rintro rfl
    cases kept
  rw [next, if_neg other, if_neg (by simp [kept])]

/-- A comment is skipped. -/
theorem foldlM_comment {blank : Bool} (line : isLine text = true) (read : List Token) :
    text.foldlM next ⟨.comment blank, depth, read⟩ = some ⟨.comment blank, depth, read⟩ := by
  induction text with
  | nil => rfl
  | cons char text induction =>
      simp only [isLine, List.all_cons, Bool.and_eq_true, Bool.not_eq_true'] at line
      rw [List.foldlM_cons, next_comment line.1, Option.bind_eq_bind, Option.bind_some,
        induction line.2]

theorem scans_comment (line : isLine text = true) :
    Scans (depth + 1) (comment text) [] := by
  intro read
  change (text ++ ['\n']).foldlM next ⟨.comment false, depth + 1, read⟩ = _
  rw [List.foldlM_append, foldlM_comment line, List.append_nil]
  rfl

/-- A line of its own with a comment leaves no token. -/
theorem foldlM_commentLine (line : isLine text = true) (read : List Token) :
    (comment text).foldlM next ⟨.margin, 0, read⟩ = some ⟨.margin, 0, read⟩ := by
  change (text ++ ['\n']).foldlM next ⟨.comment true, 0, read⟩ = _
  rw [List.foldlM_append, foldlM_comment line]
  rfl

/-- A comment at the end of a text. -/
theorem lex_comment (line : isLine text = true) : lex ('#' :: text) = some [] := by
  change (text.foldlM next ⟨.comment true, 0, []⟩).bind finish = _
  rw [foldlM_comment line]
  rfl

/-- The letters of a word, of which the first ones are read. -/
def goesOn (numeric : Bool) (read : List Char) : List Char → Bool
  | [] => true
  | char :: letters => continues numeric read char && goesOn numeric (read ++ [char]) letters

def isWord : List Char → Bool
  | [] => false
  | first :: letters => startsWord first && goesOn first.isDigit [first] letters

theorem foldlM_goesOn {numeric : Bool} {before letters : List Char} {read : List Token}
    (goes : goesOn numeric before letters = true) :
    letters.foldlM next ⟨.word numeric before, depth, read⟩ =
      some ⟨.word numeric (before ++ letters), depth, read⟩ := by
  induction letters generalizing before with
  | nil => simp
  | cons char letters induction =>
      rw [goesOn, Bool.and_eq_true] at goes
      rw [List.foldlM_cons, next, if_pos goes.1, Option.bind_eq_bind, Option.bind_some,
        induction goes.2, List.append_assoc, List.singleton_append]

theorem not_continues_of_isClear {numeric : Bool} {before : List Char} {char : Char}
    (clear : isClear char = true) : continues numeric before char = false := by
  simp only [isClear, List.contains_cons, List.contains_nil, Bool.or_false, Bool.or_eq_true,
    beq_iff_eq] at clear
  obtain rfl | rfl | rfl | rfl | rfl | rfl | rfl | rfl | rfl | rfl | rfl | rfl := clear <;>
    simp [continues, startsWord]

theorem between_of_startsWord {char : Char} {read : List Token} (starts : startsWord char = true) :
    between depth read char = some ⟨.word char.isDigit [char], depth, read⟩ := by
  have other : ∀ mark : Char, startsWord mark = false → char ≠ mark := by
    rintro mark stops rfl
    exact Bool.false_ne_true (stops.symm.trans starts)
  rw [between, if_neg (other ' ' (by decide)), if_neg (other '\n' (by decide)),
    if_neg (other '#' (by decide)),
    if_neg (not_or.mpr ⟨other '\'' (by decide), other '"' (by decide)⟩), if_pos starts]

theorem lexes_word {letters : List Char} (word : isWord letters = true) :
    Lexes depth letters [.word letters] := by
  intro read char clear
  cases letters with
  | nil => cases word
  | cons first letters =>
      rw [isWord, Bool.and_eq_true] at word
      rw [List.cons_append, List.foldlM_cons, next, between_of_startsWord word.1,
        Option.bind_eq_bind, Option.bind_some, List.foldlM_append, foldlM_goesOn word.2,
        Option.bind_eq_bind, Option.bind_some, foldlM_singleton, next,
        if_neg (by simp [not_continues_of_isClear clear]), if_pos clear, List.singleton_append]

/-- The digits of a number behind the mark of an escape, all but the last one. -/
theorem foldlM_hexDigits {quote : Char} {chars : List Char} {left : ℕ} {read : List Token} :
    ∀ {digits : ℕ} (value : ℕ), digits < left →
      (hexDigits digits value).foldlM next ⟨.hex quote chars left 0, depth, read⟩ =
        some ⟨.hex quote chars (left - digits) (value % 16 ^ digits), depth, read⟩ := by
  intro digits
  induction digits with
  | zero =>
      intro value _
      simp [hexDigits, Nat.mod_one]
  | succ digits induction =>
      intro value few
      have more : 1 < left - digits := by omega
      have shift : value / 16 % 16 ^ digits * 16 + value % 16 = value % 16 ^ (digits + 1) := by
        rw [Nat.pow_succ', Nat.mod_mul]
        omega
      rw [hexDigits, List.foldlM_append, induction _ (by omega), Option.bind_eq_bind,
        Option.bind_some, foldlM_singleton, next, hexValue?_digitChar (Nat.mod_lt _ (by omega)),
        Option.bind_some, digit?, if_pos more, shift, Option.map_some, Nat.sub_sub]

/-- A character is read from the digits of its number. -/
theorem foldlM_hex {quote char : Char} {chars : List Char} {read : List Token} {digits : ℕ}
    (fits : char.toNat < 16 ^ (digits + 1)) :
    (hexDigits (digits + 1) char.toNat).foldlM next
        ⟨.hex quote chars (digits + 1) 0, depth, read⟩ =
      some ⟨.text quote (chars ++ [char]), depth, read⟩ := by
  have valid : char.toNat.isValidChar := char.valid
  have whole : char.toNat / 16 % 16 ^ digits * 16 + char.toNat % 16 = char.toNat := by
    rw [Nat.mod_eq_of_lt (by rw [Nat.pow_succ] at fits; omega)]
    omega
  rw [hexDigits, List.foldlM_append, foldlM_hexDigits _ (Nat.lt_succ_self digits),
    Option.bind_eq_bind, Option.bind_some, foldlM_singleton, next,
    hexValue?_digitChar (Nat.mod_lt _ (by omega)), Option.bind_some, digit?,
    if_neg (by omega), whole, if_pos valid, Option.map_some, Char.ofNat_toNat]

/-- A character inside a literal is read back. -/
theorem foldlM_escapeChar (printable : Char → Bool) {quote : Char}
    (single : quote = '\'' ∨ quote = '"') (char : Char) (chars : List Char) (read : List Token) :
    (escapeChar printable quote char).foldlM next ⟨.text quote chars, depth, read⟩ =
      some ⟨.text quote (chars ++ [char]), depth, read⟩ := by
  have opens : '\\' ≠ quote := by
    rcases single with rfl | rfl <;> decide
  have escape : ∀ letters : List Char,
      ('\\' :: letters).foldlM next ⟨.text quote chars, depth, read⟩ =
        letters.foldlM next ⟨.escape quote chars, depth, read⟩ := by
    intro letters
    rw [List.foldlM_cons, next, if_neg opens, if_pos rfl, Option.bind_eq_bind, Option.bind_some]
  rw [escapeChar]
  split
  · rename_i special
    have kept : escaped? quote chars char = some (.text quote (chars ++ [char])) := by
      rw [escaped?, if_pos]
      rcases special with rfl | rfl
      · exact .inr single
      · exact .inl rfl
    rw [escape, foldlM_singleton, next, kept, Option.map_some]
  rename_i plain
  obtain ⟨other, unescaped⟩ := not_or.mp plain
  split
  · subst char
    rw [escape]
    rfl
  split
  · subst char
    rw [escape]
    rfl
  split
  · subst char
    rw [escape]
    rfl
  rename_i noLine noReturn
  split
  · rename_i control
    rw [escape]
    exact foldlM_hex (show char.toNat < 16 ^ (1 + 1) by omega)
  split
  · rename_i noControl _
    have noNull : char ≠ '\x00' := by
      rintro rfl
      exact noControl (.inl (by decide))
    rw [foldlM_singleton, next, if_neg other, if_neg unescaped,
      if_neg (by simp [isLineBreak, noLine, noReturn, noNull])]
  split
  · rename_i byte
    rw [escape]
    exact foldlM_hex (show char.toNat < 16 ^ (1 + 1) by omega)
  split
  · rename_i unit
    rw [escape]
    exact foldlM_hex (show char.toNat < 16 ^ (3 + 1) by omega)
  · have bound : char.toNat < 0x110000 := by
      rcases char.valid with low | ⟨-, high⟩
      · exact lt_trans low (by decide)
      · exact high
    rw [escape]
    exact foldlM_hex (show char.toNat < 16 ^ (7 + 1) by omega)

theorem quoteOf_single (text : List Char) : quoteOf text = '\'' ∨ quoteOf text = '"' := by
  rw [quoteOf]
  split
  · exact .inr rfl
  · exact .inl rfl

/-- What `repr` writes is one token, whatever the text holds. -/
theorem lexes_repr (printable : Char → Bool) (chars : List Char) :
    Lexes depth (repr printable chars) [.text chars] := by
  intro read char clear
  have single := quoteOf_single chars
  have opened : next ⟨.code, depth, read⟩ (quoteOf chars) =
      some ⟨.text (quoteOf chars) [], depth, read⟩ := by
    rcases single with quote | quote <;> rw [quote] <;> rfl
  have inside : (chars.flatMap (escapeChar printable (quoteOf chars))).foldlM next
      ⟨.text (quoteOf chars) [], depth, read⟩ =
        some ⟨.text (quoteOf chars) chars, depth, read⟩ := by
    have whole := foldlM_flatMap next
      (fun before => ⟨.text (quoteOf chars) before, depth, read⟩)
      (escapeChar printable (quoteOf chars)) id
      (fun char (_ : char ∈ chars) before => foldlM_escapeChar printable single char before read) []
    rw [whole, List.nil_append, List.map_id]
  rw [repr, List.cons_append, List.foldlM_cons, opened, Option.bind_eq_bind, Option.bind_some,
    List.append_assoc, List.foldlM_append, inside, Option.bind_eq_bind, Option.bind_some,
    List.singleton_append, List.foldlM_cons, next, if_pos rfl, Option.bind_eq_bind,
    Option.bind_some, foldlM_singleton, next, if_pos clear]

/-- A text in brackets. -/
theorem Lexes.enclosed {opening closing : Char}
    (opens : ['(', '[', '{'].contains opening = true)
    (closes : [')', ']', '}'].contains closing = true)
    (inner : Lexes (depth + 1) text tokens) :
    Scans depth (opening :: (text ++ [closing]))
      (.mark opening :: (tokens ++ [.mark closing])) := by
  intro read
  have opened : next ⟨.code, depth, read⟩ opening =
      some ⟨.code, depth + 1, read ++ [.mark opening]⟩ := by
    simp only [List.contains_cons, List.contains_nil, Bool.or_false, Bool.or_eq_true,
      beq_iff_eq] at opens
    obtain rfl | rfl | rfl := opens <;> rfl
  have closed : ∀ read : List Token, isClear closing = true ∧ between (depth + 1) read closing =
      some ⟨.code, depth, read ++ [.mark closing]⟩ := by
    intro read
    simp only [List.contains_cons, List.contains_nil, Bool.or_false, Bool.or_eq_true,
      beq_iff_eq] at closes
    obtain rfl | rfl | rfl := closes <;> exact ⟨rfl, rfl⟩
  rw [List.foldlM_cons, opened, Option.bind_eq_bind, Option.bind_some,
    inner _ _ (closed []).1, (closed _).2]
  simp

end

theorem intercalate_cons_cons {α : Type} (separator first second : List α)
    (later : List (List α)) :
    separator.intercalate (first :: second :: later) =
      first ++ (separator ++ separator.intercalate (second :: later)) := by
  simp [List.intercalate]

theorem intercalate_singleton {α : Type} (separator only : List α) :
    separator.intercalate [only] = only := by
  simp [List.intercalate]

/-- Items with a comma between any two of them. -/
theorem lexes_joined {depth : ℕ} {blanks : List Char}
    (comma : Scans depth (',' :: blanks) [.mark ',']) {texts : List (List Char)}
    {parts : List (List Token)} (each : List.Forall₂ (Lexes depth) texts parts) :
    Lexes depth ((',' :: blanks).intercalate texts) ([.mark ','].intercalate parts) := by
  induction each with
  | nil => exact scans_nil.lexes
  | cons first later induction =>
      cases later with
      | nil =>
          rw [intercalate_singleton, intercalate_singleton]
          exact first
      | cons second later =>
          rw [intercalate_cons_cons, intercalate_cons_cons, ← List.append_assoc,
            ← List.append_assoc]
          exact (first.append rfl comma).append_lexes induction

/-- Items with a comma between any two of them and one behind the last. -/
theorem scans_joined {depth : ℕ} {blanks rest : List Char}
    (comma : Scans depth (',' :: blanks) [.mark ',']) (last : Scans depth (',' :: rest) [.mark ','])
    {ι : Type} {text : ι → List Char} {tokens : ι → List Token} {items : List ι}
    (each : ∀ item ∈ items, Lexes depth (text item) (tokens item)) (nonempty : items ≠ []) :
    Scans depth ((',' :: blanks).intercalate (items.map text) ++ ',' :: rest)
      (items.flatMap fun item => tokens item ++ [.mark ',']) := by
  induction items with
  | nil => exact absurd rfl nonempty
  | cons item items induction =>
      have first := each item List.mem_cons_self
      cases items with
      | nil =>
          rw [List.map_singleton, intercalate_singleton, List.flatMap_singleton]
          exact first.append rfl last
      | cons second later =>
          have others := induction (fun other member => each other (List.mem_cons_of_mem _ member))
            (List.cons_ne_nil _ _)
          rw [List.map_cons, List.map_cons, intercalate_cons_cons, List.flatMap_cons,
            ← List.append_assoc (text item), List.append_assoc (text item ++ _)]
          exact (first.append rfl comma).append others

/-- Lines inside of brackets. -/
theorem scans_lines {depth : ℕ} {ι : Type} {text : ι → List Char} {tokens : ι → List Token}
    {items : List ι} (each : ∀ item ∈ items, Scans (depth + 1) (text item) (tokens item)) :
    Scans (depth + 1) (['\n'].intercalate (items.map text)) (items.flatMap tokens) := by
  induction items with
  | nil => exact scans_nil
  | cons item items induction =>
      have first := each item List.mem_cons_self
      cases items with
      | nil =>
          rw [List.map_singleton, intercalate_singleton, List.flatMap_singleton]
          exact first
      | cons second later =>
          have others := induction fun other member => each other (List.mem_cons_of_mem _ member)
          rw [List.map_cons, List.map_cons, intercalate_cons_cons, List.flatMap_cons]
          exact first.append (scans_newline.append others)

/-- Paragraphs that are one line for Python each. -/
theorem lex_paragraphs {ι : Type} {text : ι → List Char} {tokens : ι → List Token}
    {items : List ι} (nonempty : items ≠ [])
    (each : ∀ item ∈ items, ∀ read, (text item).foldlM next ⟨.margin, 0, read⟩ =
      some ⟨.code, 0, read ++ tokens item⟩) :
    lex (['\n', '\n'].intercalate (items.map text)) =
      some (items.flatMap fun item => tokens item ++ [.newline]) := by
  have whole : ∀ read, ((['\n', '\n'].intercalate (items.map text)).foldlM next
      ⟨.margin, 0, read⟩).bind finish =
        some (read ++ items.flatMap fun item => tokens item ++ [.newline]) := by
    induction items with
    | nil => exact absurd rfl nonempty
    | cons item items induction =>
        intro read
        have first := each item List.mem_cons_self read
        cases items with
        | nil =>
            rw [List.map_singleton, intercalate_singleton, List.flatMap_singleton, first,
              Option.bind_some, finish, List.append_assoc]
        | cons second later =>
            have others := induction (List.cons_ne_nil _ _)
              (fun other member => each other (List.mem_cons_of_mem _ member))
              (read ++ tokens item ++ [.newline])
            have ended : ['\n', '\n'].foldlM next ⟨.code, 0, read ++ tokens item⟩ =
                some ⟨.margin, 0, read ++ tokens item ++ [.newline]⟩ := rfl
            rw [List.map_cons, List.map_cons, intercalate_cons_cons, List.foldlM_append, first,
              Option.bind_eq_bind, Option.bind_some, List.foldlM_append, ended,
              Option.bind_eq_bind, Option.bind_some]
            simpa using others
  exact whole []

/-! ## Statements -/

inductive Expr where
  | text (chars : List Char)
  /-- A name, a constant or a number. -/
  | word (letters : List Char)
  | dict (entries : List (Expr × Expr))
  | call (function : List Char) (arguments : List (List Char × Expr))

/-- An assignment, with the tokens of its type hint. -/
structure Statement where
  target : List Char
  hint : List Token := []
  value : Expr

/-- What an expression stands in. -/
inductive Frame where
  | assign (target : List Char) (hint : List Token)
  | entries (before : List (Expr × Expr))
  | entry (before : List (Expr × Expr)) (key : Expr)
  | arguments (function : List Char) (before : List (List Char × Expr))
  | argument (function : List Char) (before : List (List Char × Expr)) (keyword : List Char)

/-- What a parser has just seen. -/
inductive Focus where
  | start
  | target (name : List Char)
  | hint (name : List Char) (tokens : List Token)
  /-- An expression has to follow. -/
  | operand
  | value (value : Expr)
  /-- An entry or an argument may follow, or the closing bracket. -/
  | slot
  | keyword (name : List Char)

structure Parser where
  frames : List Frame := []
  focus : Focus := .start
  statements : List Statement := []

/-- The first token of an expression. -/
def operand (frames : List Frame) (statements : List Statement) : Token → Option Parser
  | .text chars => some ⟨frames, .value (.text chars), statements⟩
  | .word letters => some ⟨frames, .value (.word letters), statements⟩
  | .mark '{' => some ⟨.entries [] :: frames, .slot, statements⟩
  | _ => none

/-- The token behind an expression. -/
def behind (value : Expr) (statements : List Statement) (token : Token) :
    List Frame → Option Parser
  | .assign target hint :: [] =>
      if token = .newline then some ⟨[], .start, statements ++ [⟨target, hint, value⟩]⟩
      else none
  | .entries before :: frames =>
      if token = .mark ':' then some ⟨.entry before value :: frames, .operand, statements⟩
      else none
  | .entry before key :: frames =>
      if token = .mark ',' then
        some ⟨.entries (before ++ [(key, value)]) :: frames, .slot, statements⟩
      else if token = .mark '}' then
        some ⟨frames, .value (.dict (before ++ [(key, value)])), statements⟩
      else none
  | .argument function before keyword :: frames =>
      if token = .mark ',' then
        some ⟨.arguments function (before ++ [(keyword, value)]) :: frames, .slot, statements⟩
      else if token = .mark ')' then
        some ⟨frames, .value (.call function (before ++ [(keyword, value)])), statements⟩
      else none
  | _ => none

/-- The parenthesis of a call behind the name of its function. -/
def called (frames : List Frame) (statements : List Statement) : Expr → Option Parser
  | .word function => some ⟨.arguments function [] :: frames, .slot, statements⟩
  | _ => none

/-- The token behind an opening bracket or a comma. -/
def slot (statements : List Statement) (token : Token) : List Frame → Option Parser
  | .entries before :: frames =>
      if token = .mark '}' then some ⟨frames, .value (.dict before), statements⟩
      else operand (.entries before :: frames) statements token
  | .arguments function before :: frames =>
      match token with
      | .mark ')' => some ⟨frames, .value (.call function before), statements⟩
      | .word name => some ⟨.arguments function before :: frames, .keyword name, statements⟩
      | _ => none
  | _ => none

/-- The token behind a keyword. -/
def keyword (name : List Char) (statements : List Statement) (token : Token) :
    List Frame → Option Parser
  | .arguments function before :: frames =>
      if token = .mark '=' then
        some ⟨.argument function before name :: frames, .operand, statements⟩
      else none
  | _ => none

/-- One token. -/
def Parser.step : Parser → Token → Option Parser
  | ⟨frames, .start, statements⟩, token =>
      match token with
      | .word name => some ⟨frames, .target name, statements⟩
      | _ => none
  | ⟨frames, .target name, statements⟩, token =>
      match token with
      | .mark ':' => some ⟨frames, .hint name [], statements⟩
      | .mark '=' => some ⟨.assign name [] :: frames, .operand, statements⟩
      | _ => none
  | ⟨frames, .hint name tokens, statements⟩, token =>
      match token with
      | .mark '=' => some ⟨.assign name tokens :: frames, .operand, statements⟩
      | .newline => none
      | token => some ⟨frames, .hint name (tokens ++ [token]), statements⟩
  | ⟨frames, .operand, statements⟩, token => operand frames statements token
  | ⟨frames, .slot, statements⟩, token => slot statements token frames
  | ⟨frames, .keyword name, statements⟩, token => keyword name statements token frames
  | ⟨frames, .value value, statements⟩, token =>
      if token = .mark '(' then called frames statements value
      else behind value statements token frames

/-- The statements of a text. -/
def parse (text : List Char) : Option (List Statement) :=
  (lex text).bind fun tokens => (tokens.foldlM Parser.step {}).bind fun
    | ⟨[], .start, statements⟩ => some statements
    | _ => none

/-! ## How statements are read -/

/-- Tokens are an expression, wherever one has to stand. -/
def Reads (tokens : List Token) (value : Expr) : Prop :=
  ∀ frames statements, tokens.foldlM Parser.step ⟨frames, .operand, statements⟩ =
    some ⟨frames, .value value, statements⟩

theorem reads_text (chars : List Char) : Reads [.text chars] (.text chars) := fun _ _ => rfl

theorem reads_word (letters : List Char) : Reads [.word letters] (.word letters) := fun _ _ => rfl

/-- Texts under texts, as `repr` of a dictionary has them. -/
theorem reads_dict (entries : List (List Char × List Char)) :
    Reads (Token.mark '{' :: ([Token.mark ','].intercalate (entries.map fun entry =>
        [Token.text entry.1, .mark ':', .text entry.2]) ++ [Token.mark '}']))
      (.dict (entries.map fun entry => (Expr.text entry.1, Expr.text entry.2))) := by
  intro frames statements
  have inside : ∀ (entries : List (List Char × List Char)) (before : List (Expr × Expr)),
      ([Token.mark ','].intercalate (entries.map fun entry =>
          [Token.text entry.1, .mark ':', .text entry.2]) ++ [Token.mark '}']).foldlM Parser.step
        ⟨.entries before :: frames, .slot, statements⟩ =
      some ⟨frames, .value (.dict (before ++
        entries.map fun entry => (Expr.text entry.1, Expr.text entry.2))), statements⟩ := by
    intro entries
    induction entries with
    | nil =>
        intro before
        rw [List.map_nil, List.map_nil, List.append_nil]
        rfl
    | cons entry entries induction =>
        intro before
        cases entries with
        | nil =>
            rw [List.map_singleton, List.map_singleton, intercalate_singleton]
            rfl
        | cons second entries =>
            have first : ([.text entry.1, .mark ':', .text entry.2, .mark ','] :
                List Token).foldlM Parser.step ⟨.entries before :: frames, .slot, statements⟩ =
              some ⟨.entries (before ++ [(.text entry.1, .text entry.2)]) :: frames, .slot,
                statements⟩ := rfl
            have shape : [Token.mark ','].intercalate ((entry :: second :: entries).map fun entry =>
                [Token.text entry.1, .mark ':', .text entry.2]) ++ [Token.mark '}'] =
              [Token.text entry.1, .mark ':', .text entry.2, .mark ','] ++
                ([Token.mark ','].intercalate ((second :: entries).map fun entry =>
                  [Token.text entry.1, .mark ':', .text entry.2]) ++ [Token.mark '}']) := by
              rw [List.map_cons, List.map_cons, intercalate_cons_cons]
              simp
            rw [shape, List.foldlM_append, first, Option.bind_eq_bind, Option.bind_some,
              induction, List.append_assoc, List.singleton_append]
            rfl
  exact inside entries []

/-- A display of expressions under texts, each with a comma behind it. -/
theorem reads_display {entries : List (List Char × List Token × Expr)}
    (each : ∀ entry ∈ entries, Reads entry.2.1 entry.2.2) :
    Reads (Token.mark '{' :: ((entries.flatMap fun entry =>
        Token.text entry.1 :: .mark ':' :: (entry.2.1 ++ [.mark ','])) ++ [.mark '}']))
      (.dict (entries.map fun entry => (.text entry.1, entry.2.2))) := by
  intro frames statements
  have inside := foldlM_flatMap Parser.step
    (fun before => ⟨.entries before :: frames, .slot, statements⟩)
    (fun entry => Token.text entry.1 :: .mark ':' :: (entry.2.1 ++ [.mark ',']))
    (fun entry => (Expr.text entry.1, entry.2.2))
    (fun entry (member : entry ∈ entries) before => by
      change (entry.2.1 ++ [Token.mark ',']).foldlM Parser.step
        ⟨.entry before (.text entry.1) :: frames, .operand, statements⟩ = _
      rw [List.foldlM_append, each entry member, Option.bind_eq_bind, Option.bind_some]
      rfl) []
  change (_ ++ [Token.mark '}']).foldlM Parser.step
    ⟨.entries [] :: frames, .slot, statements⟩ = _
  rw [List.foldlM_append, inside, Option.bind_eq_bind, Option.bind_some, List.nil_append]
  rfl

/-- A call with keywords, each with a comma behind it. -/
theorem reads_call (function : List Char)
    {arguments : List (List Char × List Token × Expr)}
    (each : ∀ argument ∈ arguments, Reads argument.2.1 argument.2.2) :
    Reads (Token.word function :: .mark '(' :: ((arguments.flatMap fun argument =>
        Token.word argument.1 :: .mark '=' :: (argument.2.1 ++ [.mark ','])) ++ [.mark ')']))
      (.call function (arguments.map fun argument => (argument.1, argument.2.2))) := by
  intro frames statements
  have inside := foldlM_flatMap Parser.step
    (fun before => ⟨.arguments function before :: frames, .slot, statements⟩)
    (fun argument => Token.word argument.1 :: .mark '=' :: (argument.2.1 ++ [.mark ',']))
    (fun argument => (argument.1, argument.2.2))
    (fun argument (member : argument ∈ arguments) before => by
      change (argument.2.1 ++ [Token.mark ',']).foldlM Parser.step
        ⟨.argument function before argument.1 :: frames, .operand, statements⟩ = _
      rw [List.foldlM_append, each argument member, Option.bind_eq_bind, Option.bind_some]
      rfl) []
  change (_ ++ [Token.mark ')']).foldlM Parser.step
    ⟨.arguments function [] :: frames, .slot, statements⟩ = _
  rw [List.foldlM_append, inside, Option.bind_eq_bind, Option.bind_some, List.nil_append]
  rfl

end PythonSource
end Library
