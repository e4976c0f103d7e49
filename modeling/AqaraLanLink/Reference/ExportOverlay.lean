import AqaraLanLink.Library.PythonSource
import AqaraLanLink.Reference.Overlay

/-!
# The export of the overlay

`services/export_overlay.py`, and what Python makes of the text when a maintainer pastes it into a
module of overrides.
-/

namespace AqaraLanLink
namespace Reference
namespace ExportOverlay

open Library Library.PythonSource

/-! ## Rendering -/

/-- A trait of the overlay, with what only the export reads of it. -/
structure OverlayTrait extends TraitSpec where
  readable : Bool := true
  deriving DecidableEq

/-- `_ProvenanceEntry`, with the time as `isoformat` writes it. -/
structure ProvenanceEntry where
  discoveredFrom : String
  discoveredAt : String

/-- `Overlay`, by models and ids. -/
structure LoadedOverlay where
  traits : Dictionary String (Dictionary String OverlayTrait)
  provenance : Dictionary String (Dictionary String ProvenanceEntry)

/-- A value behind a keyword. -/
inductive Literal where
  | text (text : String)
  | labels (labels : Dictionary String String)
  | number (number : ℚ)
  | constant (value : Bool)

/-- The keywords of a row, in their order. -/
def keywords : List String :=
  ["id", "name", "wire_path", "data_type", "unit", "platform", "device_class", "enum_values",
    "auto_clear_seconds", "readable", "writable"]

/-- The value behind a keyword, if the row has it. -/
def argument (spec : OverlayTrait) : String → Option Literal
  | "id" => some (.text spec.id)
  | "name" => some (.text spec.name)
  | "wire_path" => (given spec.wirePath).map .text
  | "data_type" => some (.text spec.dataType)
  | "unit" => (given spec.unit).map .text
  | "platform" => spec.platform.map fun platform => .text platform.text
  | "device_class" => (given spec.deviceClass).map .text
  | "enum_values" => spec.labels.map .labels
  | "auto_clear_seconds" => spec.autoClearSeconds.map .number
  | "readable" => if spec.readable = true then none else some (.constant spec.readable)
  | "writable" => if spec.writable = true then none else some (.constant spec.writable)
  | _ => none

/-- `kwargs` of `_render_trait_row`. -/
def kwargs (spec : OverlayTrait) : List (String × Literal) :=
  keywords.filterMap fun name => (argument spec name).map fun value => (name, value)

/-- `repr` of a truth value. -/
def constantText (value : Bool) : List Char :=
  if value then ['T', 'r', 'u', 'e'] else ['F', 'a', 'l', 's', 'e']

/-- The entries of a dictionary, sorted by their keys. -/
def sortedEntries {α : Type} (dictionary : Dictionary String α) : List (String × α) :=
  dictionary.entries.mergeSort fun first second => decide (first.1 ≤ second.1)

section

variable (printable : Char → Bool) (number : ℚ → List Char)

/-- `_quote`. -/
def quote (text : String) : List Char := repr printable text.toList

/-- `repr` of a value. -/
def Literal.repr : Literal → List Char
  | .text value => quote printable value
  | .labels value =>
      '{' :: ([',', ' '].intercalate (value.entries.map fun entry =>
        quote printable entry.1 ++ ':' :: ' ' :: quote printable entry.2) ++ ['}'])
  | .number value => number value
  | .constant value => constantText value

/-- `_render_trait_row`. -/
def renderTraitRow (pid : String) (spec : OverlayTrait) : List Char :=
  quote printable pid ++ ": TraitSpec(\n        ".toList ++
    ",\n        ".toList.intercalate ((kwargs spec).map fun entry =>
      entry.1.toList ++ '=' :: entry.2.repr printable number) ++ ",\n    )".toList

/-- `prov_comment`. -/
def provComment : Option ProvenanceEntry → List Char
  | none => []
  | some prov =>
      "    ".toList ++ comment (" discovered_from=".toList ++ (prov.discoveredFrom.toList ++
        (" discovered_at=".toList ++ prov.discoveredAt.toList)))

/-- A trait with the comment in front of it. -/
def renderRow (provenance : Dictionary String ProvenanceEntry) (row : String × OverlayTrait) :
    List Char :=
  provComment (provenance.get? row.1) ++ "    ".toList ++
    renderTraitRow printable number row.1 row.2 ++ [',']

/-- `header` of `_render_model_section`. -/
def header (model : String) : List Char :=
  comment (" ".toList ++ (model.toList ++
    " - add to the model package's overrides.py OVERRIDES dict.".toList)) ++
  (comment (" Generated by aqara_lanlink.export_overlay; review each entry " ++
    "for functionality and usefulness before submitting a PR.").toList ++
  ("OVERRIDES: dict[str, TraitSpec | None] = ".toList ++ ['{']))

/-- `_render_model_section`. -/
def renderModelSection (overlay : LoadedOverlay)
    (shown : String × Dictionary String OverlayTrait) : List Char :=
  header shown.1 ++ '\n' :: ['\n'].intercalate ((sortedEntries shown.2).map
    (renderRow printable number ((overlay.provenance.get? shown.1).getD .empty))) ++ ['\n', '}']

/-- `_no_entries_message`. -/
def noEntriesMessage : Option String → List Char
  | none => '#' :: " Overlay is empty - no overlay entries to export.".toList
  | some model =>
      '#' :: (" Overlay has no overlay entries for ".toList ++ (model.toList ++ ['.']))

/-- The models that an export shows, with their traits. -/
def LoadedOverlay.models (overlay : LoadedOverlay) :
    Option String → List (String × Dictionary String OverlayTrait)
  | none => sortedEntries overlay.traits
  | some model =>
      match overlay.traits.get? model with
      | some traits => if traits.entries = [] then [] else [(model, traits)]
      | none => []

/-- `render_overlay`. -/
def renderOverlay (overlay : LoadedOverlay) (model : Option String) : List Char :=
  if overlay.models model = [] then noEntriesMessage model
  else ['\n', '\n'].intercalate
    ((overlay.models model).map (renderModelSection printable number overlay))

end

/-! ## Pasting -/

def text? : Expr → Option String
  | .text chars => some (String.ofList chars)
  | _ => none

def constant? : Expr → Option Bool
  | .word letters =>
      if letters = constantText true then some true
      else if letters = constantText false then some false
      else none
  | _ => none

/-- A dictionary of texts, none of whose keys stands twice. -/
def labels? : Expr → Option (Dictionary String String)
  | .dict entries => do
      let entries ← entries.mapM fun entry => do
        let key ← text? entry.1
        let label ← text? entry.2
        pure (key, label)
      if nodup : (entries.map Prod.fst).Nodup then some ⟨entries, nodup⟩ else none
  | _ => none

section

variable (numeral? : List Char → Option ℚ)

def number? : Expr → Option ℚ
  | .word letters => numeral? letters
  | _ => none

/-- What a keyword gives a field that has a default. -/
def optional {α : Type} (arguments : List (String × Expr)) (name : String) (read : Expr → Option α)
    (default : α) : Option α :=
  match arguments.lookup name with
  | none => some default
  | some value => read value

/-- `TraitSpec` called with keywords, unless `__post_init__` raises. -/
def construct (arguments : List (String × Expr)) : Option OverlayTrait := do
  if ¬ ((arguments.map Prod.fst).Nodup ∧ ∀ name ∈ arguments.map Prod.fst, name ∈ keywords) then
    none
  let id ← (arguments.lookup "id").bind text?
  let name ← (arguments.lookup "name").bind text?
  let wirePath ← optional arguments "wire_path" (fun value => (text? value).map some) none
  let dataType ← optional arguments "data_type" text? "unknown"
  let unit ← optional arguments "unit" (fun value => (text? value).map some) none
  let platform ← optional arguments "platform"
    (fun value => ((text? value).bind Platform.ofText).map some) none
  let deviceClass ← optional arguments "device_class" (fun value => (text? value).map some) none
  let enumValues ← optional arguments "enum_values" (fun value => (labels? value).map some) none
  let autoClearSeconds ← optional arguments "auto_clear_seconds"
    (fun value => (number? numeral? value).map some) none
  let readable ← optional arguments "readable" constant? true
  let writable ← optional arguments "writable" constant? false
  let spec : OverlayTrait :=
    { id, name, wirePath, dataType, unit, platform, deviceClass, enumValues, autoClearSeconds,
      readable, writable }
  if spec.toTraitSpec.valid then some spec else none

/-- An entry of `OVERRIDES`. -/
def override? (entry : Expr × Expr) : Option (String × OverlayTrait) :=
  match entry with
  | (.text pid, .call function arguments) =>
      if function = "TraitSpec".toList then
        (construct numeral? (arguments.map fun argument =>
          (String.ofList argument.1, argument.2))).map fun spec => (String.ofList pid, spec)
      else none
  | _ => none

/-- The tokens of `dict[str, TraitSpec | None]`. -/
def hint : List Token :=
  [.word "dict".toList, .mark '[', .word "str".toList, .mark ',', .word "TraitSpec".toList,
    .mark '|', .word "None".toList, .mark ']']

/-- The entries that an assignment gives `OVERRIDES`, none of whose ids stands twice. -/
def overrides? (statement : Statement) : Option (List (String × OverlayTrait)) :=
  if statement.target = "OVERRIDES".toList ∧ statement.hint = hint then
    match statement.value with
    | .dict entries => (entries.mapM (override? numeral?)).filter fun entries =>
        (entries.map Prod.fst).Nodup
    | _ => none
  else none

/-- What a module with this text assigns, one assignment after the other. -/
def evaluate (text : List Char) : Option (List (List (String × OverlayTrait))) :=
  (parse text).bind fun statements => statements.mapM (overrides? numeral?)

end

/-! ## The text as tokens -/

/-- What is made of a value behind a keyword. -/
def Literal.expr (number : ℚ → List Char) : Literal → Expr
  | .text value => .text value.toList
  | .labels value =>
      .dict (value.entries.map fun entry => (.text entry.1.toList, .text entry.2.toList))
  | .number value => .word (number value)
  | .constant value => .word (constantText value)

def Literal.tokens (number : ℚ → List Char) : Literal → List Token
  | .text value => [.text value.toList]
  | .labels value =>
      .mark '{' :: ([.mark ','].intercalate (value.entries.map fun entry =>
        [.text entry.1.toList, .mark ':', .text entry.2.toList]) ++ [.mark '}'])
  | .number value => [.word (number value)]
  | .constant value => [.word (constantText value)]

/-- The keywords of a row with their tokens and what is made of them. -/
def parts (number : ℚ → List Char) (spec : OverlayTrait) :
    List (List Char × List Token × Expr) :=
  (kwargs spec).map fun entry => (entry.1.toList, entry.2.tokens number, entry.2.expr number)

def callTokens (number : ℚ → List Char) (spec : OverlayTrait) : List Token :=
  .word "TraitSpec".toList :: .mark '(' :: (((parts number spec).flatMap fun part =>
    .word part.1 :: .mark '=' :: (part.2.1 ++ [.mark ','])) ++ [.mark ')'])

def callExpr (number : ℚ → List Char) (spec : OverlayTrait) : Expr :=
  .call "TraitSpec".toList ((parts number spec).map fun part => (part.1, part.2.2))

section

variable {printable : Char → Bool} {number : ℚ → List Char} {depth : ℕ}

theorem isWord_constantText (value : Bool) : isWord (constantText value) = true := by
  cases value <;> decide

theorem isWord_keyword {name : String} (member : name ∈ keywords) : isWord name.toList = true := by
  have all : ∀ name ∈ keywords, isWord name.toList = true := by decide
  exact all name member

/-- The numbers of a value are written as words. -/
def Literal.Plain (number : ℚ → List Char) : Literal → Prop
  | .number value => isWord (number value) = true
  | _ => True

theorem lexes_literal {value : Literal} (plain : value.Plain number) :
    Lexes depth (value.repr printable number) (value.tokens number) := by
  cases value with
  | text value => exact lexes_repr printable value.toList
  | labels value =>
      refine (Lexes.enclosed rfl rfl (lexes_joined
        (scans_markBlank (by decide)) ?_)).lexes
      rw [List.forall₂_map_left_iff, List.forall₂_map_right_iff]
      refine List.forall₂_same.mpr fun entry _ => ?_
      have key : Lexes (depth + 1) (quote printable entry.1) [.text entry.1.toList] :=
        lexes_repr printable entry.1.toList
      have label : Lexes (depth + 1) (quote printable entry.2) [.text entry.2.toList] :=
        lexes_repr printable entry.2.toList
      have whole := (key.append rfl scans_colon).append_lexes label
      rw [List.append_assoc] at whole
      exact whole
  | number value => exact lexes_word plain
  | constant value => exact lexes_word (isWord_constantText value)

theorem reads_literal (value : Literal) : Reads (value.tokens number) (value.expr number) := by
  cases value with
  | text value => exact reads_text _
  | labels value =>
      have reads := reads_dict (value.entries.map fun entry => (entry.1.toList, entry.2.toList))
      rw [List.map_map, List.map_map] at reads
      exact reads
  | number value => exact reads_word _
  | constant value => exact reads_word _

theorem scans_renderTraitRow (pid : String) {spec : OverlayTrait}
    (plain : ∀ entry ∈ kwargs spec, entry.2.Plain number) :
    Scans (depth + 1) (renderTraitRow printable number pid spec)
      (.text pid.toList :: .mark ':' :: callTokens number spec) := by
  have comma : Scans (depth + 1 + 1) (',' :: "\n        ".toList) [.mark ','] :=
    (scans_mark (by decide)).append (scans_space (by decide))
  have last : Scans (depth + 1 + 1) (',' :: "\n    ".toList) [.mark ','] :=
    (scans_mark (by decide)).append (scans_space (by decide))
  have each : ∀ entry ∈ kwargs spec, Lexes (depth + 1 + 1)
      (entry.1.toList ++ '=' :: entry.2.repr printable number)
      (.word entry.1.toList :: .mark '=' :: entry.2.tokens number) := by
    intro entry member
    have name : entry.1 ∈ keywords := by
      obtain ⟨name, inside, made⟩ := List.mem_filterMap.mp member
      obtain ⟨value, -, rfl⟩ := Option.map_eq_some_iff.mp made
      exact inside
    have equals : Scans (depth + 1 + 1) ('=' :: []) [.mark '='] := scans_mark (by decide)
    have value : Lexes (depth + 1 + 1) (entry.2.repr printable number)
        (entry.2.tokens number) := lexes_literal (plain entry member)
    have whole := ((lexes_word (isWord_keyword name)).append rfl equals).append_lexes value
    rw [List.append_assoc] at whole
    exact whole
  have nonempty : kwargs spec ≠ [] := List.cons_ne_nil _ _
  have space : Scans (depth + 1 + 1) "\n        ".toList [] := scans_space (by decide)
  have inner := space.append (scans_joined comma last each nonempty)
  have brackets : Scans (depth + 1) ('(' :: (_ ++ [')'])) (.mark '(' :: (_ ++ [.mark ')'])) :=
    inner.lexes.enclosed rfl rfl
  have name : Lexes (depth + 1) "TraitSpec".toList [.word "TraitSpec".toList] :=
    lexes_word (by decide)
  have whole := ((lexes_repr printable pid.toList).append rfl scans_colon).append
    (name.append rfl brackets)
  simpa [renderTraitRow, quote, callTokens, parts, List.flatMap_map] using whole

/-- The texts of a provenance stay on the line of their comment. -/
def ProvenanceEntry.OnOneLine (prov : ProvenanceEntry) : Prop :=
  isLine prov.discoveredFrom.toList = true ∧ isLine prov.discoveredAt.toList = true

theorem scans_provComment {prov : Option ProvenanceEntry}
    (lines : ∀ entry, prov = some entry → entry.OnOneLine) :
    Scans (depth + 1) (provComment prov) [] := by
  cases prov with
  | none => exact scans_nil
  | some prov =>
      have lines := lines prov rfl
      have line : isLine (" discovered_from=".toList ++ (prov.discoveredFrom.toList ++
          (" discovered_at=".toList ++ prov.discoveredAt.toList))) = true := by
        rw [isLine_append, isLine_append, isLine_append, lines.1, lines.2]
        decide +kernel
      have space : Scans (depth + 1) "    ".toList [] := scans_space (by decide)
      exact space.append (scans_comment line)

/-- A row with its comma, inside of the display. -/
def rowTokens (number : ℚ → List Char) (row : String × OverlayTrait) : List Token :=
  .text row.1.toList :: .mark ':' :: (callTokens number row.2 ++ [.mark ','])

theorem scans_renderRow {provenance : Dictionary String ProvenanceEntry}
    {row : String × OverlayTrait} (plain : ∀ entry ∈ kwargs row.2, entry.2.Plain number)
    (lines : ∀ entry, provenance.get? row.1 = some entry → entry.OnOneLine) :
    Scans (depth + 1) (renderRow printable number provenance row) (rowTokens number row) := by
  have space : Scans (depth + 1) "    ".toList [] := scans_space (by decide)
  have comma : Scans (depth + 1) [','] [.mark ','] := scans_mark (by decide)
  exact (((scans_provComment lines).append space).append
    (scans_renderTraitRow row.1 plain)).append comma

/-- The tokens in front of the display. -/
def headTokens : List Token :=
  .word "OVERRIDES".toList :: .mark ':' :: (hint ++ [.mark '='])

theorem scans_target :
    Scans 0 "OVERRIDES: dict[str, TraitSpec | None] = ".toList headTokens := by
  have word : ∀ {depth : ℕ} (letters : String), isWord letters.toList = true →
      Lexes depth letters.toList [.word letters.toList] := fun _ word => lexes_word word
  have comma : Scans 1 (',' :: [' ']) [.mark ','] := scans_markBlank (by decide)
  have bar : Scans 1 (' ' :: ['|', ' ']) [.mark '|'] :=
    scans_blank.append (scans_markBlank (by decide))
  have equals : Scans 0 (' ' :: ['=', ' ']) [.mark '='] :=
    scans_blank.append (scans_markBlank (by decide))
  have inner := ((word "str" (by decide)).append rfl comma).append_lexes
    (((word "TraitSpec" (by decide)).append rfl bar).append_lexes (word "None" (by decide)))
  have brackets : Scans 0 ('[' :: (_ ++ [']'])) (.mark '[' :: (_ ++ [.mark ']'])) :=
    inner.enclosed rfl rfl
  have whole := ((word "OVERRIDES" (by decide)).append rfl scans_colon).append
    (((word "dict" (by decide)).append rfl brackets).append equals)
  simpa [headTokens, hint] using whole

/-- The tokens of a section. -/
def sectionTokens (number : ℚ → List Char) (shown : String × Dictionary String OverlayTrait) :
    List Token :=
  headTokens ++ .mark '{' :: ((sortedEntries shown.2).flatMap (rowTokens number) ++ [.mark '}'])

theorem foldlM_renderModelSection {overlay : LoadedOverlay}
    {shown : String × Dictionary String OverlayTrait} (model : isLine shown.1.toList = true)
    (plain : ∀ row ∈ sortedEntries shown.2, ∀ entry ∈ kwargs row.2, entry.2.Plain number)
    (lines : ∀ row ∈ sortedEntries shown.2, ∀ entry,
      ((overlay.provenance.get? shown.1).getD .empty).get? row.1 = some entry → entry.OnOneLine)
    (read : List Token) :
    (renderModelSection printable number overlay shown).foldlM next ⟨.margin, 0, read⟩ =
      some ⟨.code, 0, read ++ sectionTokens number shown⟩ := by
  have first : isLine (" ".toList ++ (shown.1.toList ++
      " - add to the model package's overrides.py OVERRIDES dict.".toList)) = true := by
    rw [isLine_append, isLine_append, model]
    decide +kernel
  have second : isLine (" Generated by aqara_lanlink.export_overlay; review each entry " ++
      "for functionality and usefulness before submitting a PR.").toList = true := by decide +kernel
  have rows : Scans 1 (['\n'].intercalate ((sortedEntries shown.2).map (renderRow printable number
      ((overlay.provenance.get? shown.1).getD .empty))))
      ((sortedEntries shown.2).flatMap (rowTokens number)) :=
    scans_lines fun row member => scans_renderRow (plain row member) (lines row member)
  have braces : Scans 0 ('{' :: (_ ++ ['}'])) (.mark '{' :: (_ ++ [.mark '}'])) :=
    (scans_newline.append (rows.append scans_newline)).lexes.enclosed rfl rfl
  rw [List.append_nil, List.nil_append] at braces
  have target : "OVERRIDES: dict[str, TraitSpec | None] = ".toList.foldlM next
      ⟨.margin, 0, read⟩ = some ⟨.code, 0, read ++ headTokens⟩ := by
    have begins : "OVERRIDES: dict[str, TraitSpec | None] = ".toList =
        'O' :: "OVERRIDES: dict[str, TraitSpec | None] = ".toList.tail := by decide +kernel
    have scanned := scans_target read
    rw [begins] at scanned ⊢
    exact scanned
  have shape : ∀ model generated target rows : List Char,
      model ++ (generated ++ (target ++ ['{'])) ++ '\n' :: rows ++ ['\n', '}'] =
        model ++ (generated ++ (target ++ '{' :: (['\n'] ++ (rows ++ ['\n']) ++ ['}']))) := by
    simp
  rw [renderModelSection, header, shape, List.foldlM_append, foldlM_commentLine first,
    Option.bind_eq_bind, Option.bind_some, List.foldlM_append, foldlM_commentLine second,
    Option.bind_eq_bind, Option.bind_some, List.foldlM_append, target, Option.bind_eq_bind,
    Option.bind_some, braces, sectionTokens, List.append_assoc]

/-- What a section assigns. -/
def statement (number : ℚ → List Char) (shown : String × Dictionary String OverlayTrait) :
    Statement :=
  ⟨"OVERRIDES".toList, hint, .dict ((sortedEntries shown.2).map fun row =>
    (.text row.1.toList, callExpr number row.2))⟩

theorem reads_call_parts (spec : OverlayTrait) :
    Reads (callTokens number spec) (callExpr number spec) := by
  refine reads_call _ fun part member => ?_
  obtain ⟨entry, -, rfl⟩ := List.mem_map.mp member
  exact reads_literal entry.2

theorem foldlM_sectionTokens (shown : String × Dictionary String OverlayTrait)
    (before : List Statement) :
    (sectionTokens number shown ++ [Token.newline]).foldlM Parser.step ⟨[], .start, before⟩ =
      some ⟨[], .start, before ++ [statement number shown]⟩ := by
  have each : ∀ entry ∈ (sortedEntries shown.2).map fun row =>
      (row.1.toList, callTokens number row.2, callExpr number row.2),
      Reads entry.2.1 entry.2.2 := by
    intro entry member
    obtain ⟨row, -, rfl⟩ := List.mem_map.mp member
    exact reads_call_parts row.2
  have display := reads_display each
  rw [List.flatMap_map, List.map_map] at display
  rw [sectionTokens, List.append_assoc, List.foldlM_append]
  change ((Token.mark '{' :: ((sortedEntries shown.2).flatMap (rowTokens number) ++
    [Token.mark '}'])) ++ [Token.newline]).foldlM Parser.step
      ⟨[.assign "OVERRIDES".toList hint], .operand, before⟩ = _
  rw [List.foldlM_append]
  refine (congrArg (· >>= _) (display [.assign "OVERRIDES".toList hint] before)).trans ?_
  rfl

end

/-! ## What comes back -/

/-- A trait as the store keeps it. -/
def OverlayTrait.kept (spec : OverlayTrait) : OverlayTrait :=
  { spec.toTraitSpec.stored with readable := spec.readable }

/-- A trait as a pasted export gives it: the row leaves `writable` out where it is true, and the
constructor takes false for it then. -/
def OverlayTrait.exported (spec : OverlayTrait) : OverlayTrait :=
  { spec.toTraitSpec.stored with readable := spec.readable, writable := false }

theorem kept_eq_exported_iff (spec : OverlayTrait) :
    spec.exported = spec.kept ↔ spec.writable = false := by
  simp only [OverlayTrait.exported, OverlayTrait.kept, TraitSpec.stored, OverlayTrait.mk.injEq,
    TraitSpec.mk.injEq, true_and, and_true]
  exact eq_comm

theorem mapM_map {α β γ : Type} {read : β → Option γ} {write : α → β} {made : α → γ}
    {items : List α} (each : ∀ item ∈ items, read (write item) = some (made item)) :
    (items.map write).mapM read = some (items.map made) := by
  induction items with
  | nil => rfl
  | cons item items induction =>
      rw [List.map_cons, List.mapM_cons, each item List.mem_cons_self,
        induction fun other member => each other (List.mem_cons_of_mem _ member)]
      rfl

theorem text?_text (text : String) : text? (.text text.toList) = some text := by
  rw [text?, String.ofList_toList]

theorem constant?_constantText (value : Bool) :
    constant? (.word (constantText value)) = some value := by
  cases value <;> decide

theorem labels?_expr (number : ℚ → List Char) (labels : Dictionary String String) :
    labels? ((Literal.labels labels).expr number) = some labels := by
  have entries : (labels.entries.map fun entry =>
      (Expr.text entry.1.toList, Expr.text entry.2.toList)).mapM (fun entry => do
        let key ← text? entry.1
        let label ← text? entry.2
        pure (key, label)) = some (labels.entries.map id) :=
    mapM_map fun entry _ => by
      rw [text?_text, text?_text]
      rfl
  rw [Literal.expr, labels?, entries, List.map_id]
  exact dif_pos labels.nodup

/-- A keyword that stands in a call only where its field has a value. -/
theorem optional_eq {α β : Type} {arguments : List (String × Expr)} {name : String}
    {read : Expr → Option α} {default result : α} {value : Option β} {write : β → Expr}
    (found : arguments.lookup name = value.map write) (absent : value = none → default = result)
    (present : ∀ given, value = some given → read (write given) = some result) :
    optional arguments name read default = some result := by
  cases value with
  | none => rw [optional, found, Option.map_none, absent rfl]
  | some given =>
      rw [optional, found, Option.map_some]
      exact present given rfl

section

variable {number : ℚ → List Char} {numeral? : List Char → Option ℚ}

/-- The keywords of a call as the constructor takes them. -/
def arguments (number : ℚ → List Char) (spec : OverlayTrait) : List (String × Expr) :=
  (kwargs spec).map fun entry => (entry.1, entry.2.expr number)

theorem arguments_eq (spec : OverlayTrait) :
    arguments number spec = keywords.filterMap fun name =>
      ((argument spec name).map (Literal.expr number)).map fun value => (name, value) := by
  rw [arguments, kwargs, List.map_filterMap]
  simp only [Option.map_map]
  rfl

theorem lookup_arguments (spec : OverlayTrait) {name : String} (member : name ∈ keywords) :
    (arguments number spec).lookup name = (argument spec name).map (Literal.expr number) := by
  rw [arguments_eq]
  exact lookup_filterMap _ member

theorem sublist_arguments (spec : OverlayTrait) :
    ((arguments number spec).map Prod.fst).Sublist keywords := by
  have table : ∀ names : List String, ((names.filterMap fun name =>
      ((argument spec name).map (Literal.expr number)).map fun value => (name, value)).map
        Prod.fst).Sublist names := by
    intro names
    induction names with
    | nil => exact .slnil
    | cons name names induction =>
        cases found : argument spec name with
        | none => simpa [found] using induction.cons name
        | some value => simpa [found] using induction.cons_cons name
  rw [arguments_eq]
  exact table keywords

theorem valid_exported {spec : OverlayTrait} (valid : spec.toTraitSpec.valid = true) :
    spec.exported.toTraitSpec.valid = true :=
  TraitSpec.valid_stored valid

/-- The row of a valid trait constructs what is exported of it. -/
theorem construct_arguments {spec : OverlayTrait} (valid : spec.toTraitSpec.valid = true)
    (reads : ∀ seconds, spec.autoClearSeconds = some seconds →
      numeral? (number seconds) = some seconds) :
    construct numeral? (arguments number spec) = some spec.exported := by
  have sublist : ((arguments number spec).map Prod.fst).Sublist keywords := sublist_arguments spec
  have known : ((arguments number spec).map Prod.fst).Nodup ∧
      ∀ name ∈ (arguments number spec).map Prod.fst, name ∈ keywords :=
    ⟨sublist.nodup (by decide), fun name member => sublist.subset member⟩
  have texts : ∀ (name : String) (text : Option String), name ∈ keywords →
      argument spec name = text.map .text →
      optional (arguments number spec) name (fun value => (text? value).map some) none =
        some text := by
    intro name text member made
    refine optional_eq (by rw [lookup_arguments spec member, made, Option.map_map])
      (fun absent => absent.symm) fun given found => ?_
    rw [found]
    exact congrArg (Option.map some) (text?_text given)
  have id : ((arguments number spec).lookup "id").bind text? = some spec.id := by
    rw [lookup_arguments spec (by decide)]
    exact text?_text spec.id
  have name : ((arguments number spec).lookup "name").bind text? = some spec.name := by
    rw [lookup_arguments spec (by decide)]
    exact text?_text spec.name
  have wirePath := texts "wire_path" (given spec.wirePath) (by decide) rfl
  have dataType : optional (arguments number spec) "data_type" text? "unknown" =
      some spec.dataType := by
    rw [optional, lookup_arguments spec (by decide)]
    exact text?_text spec.dataType
  have unit := texts "unit" (given spec.unit) (by decide) rfl
  have platform : optional (arguments number spec) "platform"
      (fun value => ((text? value).bind Platform.ofText).map some) none = some spec.platform := by
    refine optional_eq ((lookup_arguments spec (by decide)).trans (Option.map_map _ _ _))
      (fun absent => absent.symm) fun platform found => ?_
    rw [found]
    refine (congrArg (fun text => (text.bind Platform.ofText).map some)
      (text?_text platform.text)).trans ?_
    rw [Option.bind_some, Platform.ofText_text]
    rfl
  have deviceClass := texts "device_class" (given spec.deviceClass) (by decide) rfl
  have enumValues : optional (arguments number spec) "enum_values"
      (fun value => (labels? value).map some) none = some spec.labels := by
    refine optional_eq ((lookup_arguments spec (by decide)).trans (Option.map_map _ _ _))
      (fun absent => absent.symm) fun labels found => ?_
    rw [found]
    exact congrArg (Option.map some) (labels?_expr number labels)
  have autoClearSeconds : optional (arguments number spec) "auto_clear_seconds"
      (fun value => (number? numeral? value).map some) none = some spec.autoClearSeconds := by
    refine optional_eq ((lookup_arguments spec (by decide)).trans (Option.map_map _ _ _))
      (fun absent => absent.symm) fun seconds found => ?_
    rw [found]
    exact congrArg (Option.map some) (reads seconds found)
  have readable : optional (arguments number spec) "readable" constant? true =
      some spec.readable := by
    rw [optional, lookup_arguments spec (by decide)]
    cases shown : spec.readable with
    | true => simp [argument, shown]
    | false =>
        simp only [argument, shown]
        exact constant?_constantText false
  have writable : optional (arguments number spec) "writable" constant? false = some false := by
    rw [optional, lookup_arguments spec (by decide)]
    cases shown : spec.writable with
    | true => simp [argument, shown]
    | false =>
        simp only [argument, shown]
        exact constant?_constantText false
  rw [construct, if_neg (not_not.mpr known), id, name, wirePath, dataType, unit, platform,
    deviceClass, enumValues, autoClearSeconds, readable, writable]
  exact if_pos (valid_exported valid)

theorem override?_row (row : String × OverlayTrait) (valid : row.2.toTraitSpec.valid = true)
    (reads : ∀ seconds, row.2.autoClearSeconds = some seconds →
      numeral? (number seconds) = some seconds) :
    override? numeral? (.text row.1.toList, callExpr number row.2) =
      some (row.1, row.2.exported) := by
  have named : (((parts number row.2).map fun part => (part.1, part.2.2)).map fun argument =>
      (String.ofList argument.1, argument.2)) = arguments number row.2 := by
    rw [parts, arguments, List.map_map, List.map_map]
    refine List.map_congr_left fun entry _ => ?_
    simp
  rw [callExpr, override?, if_pos rfl, named, construct_arguments valid reads, Option.map_some,
    String.ofList_toList]

theorem mem_sortedEntries {α : Type} {dictionary : Dictionary String α} {entry : String × α} :
    entry ∈ sortedEntries dictionary ↔ entry ∈ dictionary.entries :=
  List.mem_mergeSort

theorem nodup_sortedEntries {α : Type} (dictionary : Dictionary String α) :
    ((sortedEntries dictionary).map Prod.fst).Nodup :=
  ((List.mergeSort_perm _ _).map Prod.fst).nodup_iff.mpr dictionary.nodup

/-- The traits of a section as they come back. -/
def exportedEntries (shown : String × Dictionary String OverlayTrait) :
    List (String × OverlayTrait) :=
  (sortedEntries shown.2).map fun row => (row.1, row.2.exported)

/-- The traits of a section as the store keeps them. -/
def keptEntries (shown : String × Dictionary String OverlayTrait) :
    List (String × OverlayTrait) :=
  (sortedEntries shown.2).map fun row => (row.1, row.2.kept)

theorem overrides?_statement {shown : String × Dictionary String OverlayTrait}
    (valid : ∀ row ∈ shown.2.entries, row.2.toTraitSpec.valid = true)
    (reads : ∀ row ∈ shown.2.entries, ∀ seconds, row.2.autoClearSeconds = some seconds →
      numeral? (number seconds) = some seconds) :
    overrides? numeral? (statement number shown) = some (exportedEntries shown) := by
  have entries : ((sortedEntries shown.2).map fun row =>
      (Expr.text row.1.toList, callExpr number row.2)).mapM (override? numeral?) =
        some (exportedEntries shown) :=
    mapM_map fun row member => override?_row row (valid row (mem_sortedEntries.mp member))
      (reads row (mem_sortedEntries.mp member))
  have nodup : ((exportedEntries shown).map Prod.fst).Nodup := by
    rw [exportedEntries, List.map_map]
    exact nodup_sortedEntries shown.2
  have head : (statement number shown).target = "OVERRIDES".toList ∧
      (statement number shown).hint = hint := ⟨rfl, rfl⟩
  have assigned : overrides? numeral? (statement number shown) =
      (((sortedEntries shown.2).map fun row =>
        (Expr.text row.1.toList, callExpr number row.2)).mapM (override? numeral?)).filter
          fun entries => (entries.map Prod.fst).Nodup := if_pos head
  rw [assigned, entries, Option.filter_some, if_pos (decide_eq_true nodup)]

/-- What an export asks of an overlay: traits that could be constructed, numbers that are read back
from their text, and names and times that stay on their lines. -/
structure Sound (number : ℚ → List Char) (numeral? : List Char → Option ℚ)
    (overlay : LoadedOverlay) : Prop where
  valid : ∀ shown ∈ overlay.traits.entries, ∀ row ∈ shown.2.entries,
    row.2.toTraitSpec.valid = true
  numbers : ∀ shown ∈ overlay.traits.entries, ∀ row ∈ shown.2.entries, ∀ seconds,
    row.2.autoClearSeconds = some seconds →
      isWord (number seconds) = true ∧ numeral? (number seconds) = some seconds
  models : ∀ shown ∈ overlay.traits.entries, isLine shown.1.toList = true
  provenance : ∀ shown ∈ overlay.provenance.entries, ∀ row ∈ shown.2.entries, row.2.OnOneLine

theorem mem_of_mem_models {overlay : LoadedOverlay} {model : Option String}
    {shown : String × Dictionary String OverlayTrait} (member : shown ∈ overlay.models model) :
    shown ∈ overlay.traits.entries := by
  cases model with
  | none => exact mem_sortedEntries.mp member
  | some model =>
      rw [LoadedOverlay.models] at member
      split at member
      · rename_i traits found
        split at member
        · cases member
        · rw [List.mem_singleton.mp member]
          exact Dictionary.get?_eq_some_iff.mp found
      · cases member

theorem plain_of_mem_kwargs {spec : OverlayTrait} (words : ∀ seconds,
    spec.autoClearSeconds = some seconds → isWord (number seconds) = true)
    {entry : String × Literal} (member : entry ∈ kwargs spec) : entry.2.Plain number := by
  obtain ⟨name, inside, made⟩ := List.mem_filterMap.mp member
  obtain ⟨value, found, rfl⟩ := Option.map_eq_some_iff.mp made
  cases value with
  | number seconds =>
      have field : spec.autoClearSeconds = some seconds := by
        simp only [keywords, List.mem_cons, List.not_mem_nil, or_false] at inside
        obtain rfl | rfl | rfl | rfl | rfl | rfl | rfl | rfl | rfl | rfl | rfl := inside <;>
          simp [argument] at found
        exact found
      exact words seconds field
  | _ => trivial

theorem onOneLine_of_get? {overlay : LoadedOverlay} (lines : ∀ shown ∈ overlay.provenance.entries,
    ∀ row ∈ shown.2.entries, row.2.OnOneLine) {model pid : String} {entry : ProvenanceEntry}
    (found : ((overlay.provenance.get? model).getD .empty).get? pid = some entry) :
    entry.OnOneLine := by
  cases there : overlay.provenance.get? model with
  | none =>
      rw [there] at found
      cases found
  | some inner =>
      rw [there] at found
      exact lines _ (Dictionary.get?_eq_some_iff.mp there) _
        (Dictionary.get?_eq_some_iff.mp found)

/-- The tokens of an export. -/
theorem lex_renderOverlay {printable : Char → Bool} {overlay : LoadedOverlay}
    (sound : Sound number numeral? overlay) {model : Option String}
    (nonempty : overlay.models model ≠ []) :
    lex (renderOverlay printable number overlay model) =
      some ((overlay.models model).flatMap fun shown =>
        sectionTokens number shown ++ [.newline]) := by
  rw [renderOverlay, if_neg nonempty]
  refine lex_paragraphs nonempty fun shown member => ?_
  have inside := mem_of_mem_models member
  refine foldlM_renderModelSection (sound.models shown inside) (fun row listed entry argument => ?_)
    fun row listed entry found => onOneLine_of_get? sound.provenance found
  exact plain_of_mem_kwargs (fun seconds found =>
    (sound.numbers shown inside row (mem_sortedEntries.mp listed) seconds found).1) argument

theorem lex_noEntriesMessage {model : Option String}
    (line : ∀ name, model = some name → isLine name.toList = true) :
    lex (noEntriesMessage model) = some [] := by
  cases model with
  | none => exact lex_comment (by decide +kernel)
  | some model =>
      refine lex_comment ?_
      rw [isLine_append, isLine_append, line model rfl]
      decide +kernel

theorem parse_renderOverlay {printable : Char → Bool} {overlay : LoadedOverlay}
    (sound : Sound number numeral? overlay) {model : Option String}
    (line : ∀ name, model = some name → isLine name.toList = true) :
    parse (renderOverlay printable number overlay model) =
      some ((overlay.models model).map (statement number)) := by
  by_cases empty : overlay.models model = []
  · rw [renderOverlay, if_pos empty, parse, lex_noEntriesMessage line, empty]
    rfl
  · have run := foldlM_flatMap Parser.step (fun before => ⟨[], .start, before⟩)
      (fun shown => sectionTokens number shown ++ [Token.newline]) (statement number)
      (fun shown (_ : shown ∈ overlay.models model) before => foldlM_sectionTokens shown before) []
    rw [parse, lex_renderOverlay sound empty, Option.bind_some]
    refine (congrArg (Option.bind · _) run).trans ?_
    rfl

/-- What is pasted are the traits of the overlay, and nothing else is assigned: no field of a trait
ends its literal.  They come back as the store keeps them exactly when none of them is writable. -/
theorem evaluate_renderOverlay (printable : Char → Bool) {overlay : LoadedOverlay}
    (sound : Sound number numeral? overlay) {model : Option String}
    (line : ∀ name, model = some name → isLine name.toList = true) :
    evaluate numeral? (renderOverlay printable number overlay model) =
        some ((overlay.models model).map exportedEntries) ∧
      (evaluate numeral? (renderOverlay printable number overlay model) =
          some ((overlay.models model).map keptEntries) ↔
        ∀ shown ∈ overlay.models model, ∀ row ∈ shown.2.entries, row.2.writable = false) := by
  have result : evaluate numeral? (renderOverlay printable number overlay model) =
      some ((overlay.models model).map exportedEntries) := by
    rw [evaluate, parse_renderOverlay sound line, Option.bind_some]
    refine mapM_map fun shown member => ?_
    have inside := mem_of_mem_models member
    exact overrides?_statement (sound.valid shown inside) fun row listed seconds found =>
      (sound.numbers shown inside row listed seconds found).2
  refine ⟨result, ?_⟩
  rw [result, Option.some.injEq, List.map_inj_left]
  refine forall₂_congr fun shown _ => ?_
  rw [exportedEntries, keptEntries, List.map_inj_left]
  constructor
  · intro same row member
    exact (kept_eq_exported_iff row.2).mp (Prod.mk.inj (same row (mem_sortedEntries.mpr member))).2
  · intro silent row member
    rw [(kept_eq_exported_iff row.2).mpr (silent row (mem_sortedEntries.mp member))]

end

/-- A trait that a scan has found. -/
def contactTrait : OverlayTrait where
  id := "3.1.85"
  name := "Contact"
  dataType := "bool"
  wirePath := some "4.143.32952"
  platform := some .binarySensor
  autoClearSeconds := some 30

/-- A trait that was made writable by hand. -/
def lockTrait : OverlayTrait where
  id := "13.1.85"
  name := "it's \"locked\""
  platform := some .switch
  enumValues := some ⟨[("0", "open"), ("1", "locked")], by decide⟩
  writable := true

def lockTraits : Dictionary String OverlayTrait :=
  ⟨[("3.1.85", contactTrait), ("13.1.85", lockTrait)], by decide⟩

def lockOverlay : LoadedOverlay where
  traits := ⟨[("lumi.lock", lockTraits)], by decide⟩
  provenance := ⟨[("lumi.lock",
    ⟨[("3.1.85", ⟨"cloud_scan", "2026-05-23T00:00:00+00:00"⟩)], by decide⟩)], by decide⟩

/-- `repr` of a whole number. -/
def wholeText (number : ℚ) : List Char := Nat.toDigits 10 number.num.toNat

/-- A whole number in decimal digits. -/
def whole? (letters : List Char) : Option ℚ :=
  if letters.all Char.isDigit then
    some (letters.foldl (fun value digit => value * 10 + (digit.toNat - '0'.toNat)) 0 : ℕ)
  else none

theorem sound_lockOverlay : Sound wholeText whole? lockOverlay where
  valid := by decide +kernel
  numbers := by
    have thirty : isWord (wholeText 30) = true ∧ whole? (wholeText 30) = some 30 :=
      ⟨by decide +kernel, by decide +kernel⟩
    intro shown member row listed seconds found
    obtain rfl := List.mem_singleton.mp member
    rcases List.mem_cons.mp listed with rfl | listed
    · obtain rfl : 30 = seconds := Option.some.inj found
      exact thirty
    · obtain rfl := List.mem_singleton.mp listed
      exact absurd (show (none : Option ℚ) = some seconds from found) (Option.some_ne_none _).symm
  models := by decide +kernel
  provenance := by
    have stays : (⟨"cloud_scan", "2026-05-23T00:00:00+00:00"⟩ : ProvenanceEntry).OnOneLine :=
      ⟨by decide +kernel, by decide +kernel⟩
    intro shown member row listed
    obtain rfl := List.mem_singleton.mp member
    obtain rfl := List.mem_singleton.mp listed
    exact stays

theorem evaluate_renderOverlay_lock :
    evaluate whole? (renderOverlay (fun _ => true) wholeText lockOverlay none) =
        some ((lockOverlay.models none).map exportedEntries) ∧
      (evaluate whole? (renderOverlay (fun _ => true) wholeText lockOverlay none) =
          some ((lockOverlay.models none).map keptEntries) ↔
        ∀ shown ∈ lockOverlay.models none, ∀ row ∈ shown.2.entries, row.2.writable = false) :=
  evaluate_renderOverlay _ sound_lockOverlay nofun

end ExportOverlay
end Reference
end AqaraLanLink
