import AqaraLanLink.Library.JsonRoundTrip

/-!
# Texts that are nested too deeply

The reader gives up on a text exactly when it comes to more brackets inside one another than it has
calls to go.  Given more calls, it reads every other text the same.
-/

namespace Library
namespace JsonText

/-! ## Failures -/

theorem made_eq_error_iff {α β : Type} {make : α → β} {result : Except Failure (α × Text)}
    {failure : Failure} : made make result = .error failure ↔ result = .error failure := by
  cases result with
  | error failure' =>
      constructor
      · rintro ⟨⟩
        rfl
      · rintro ⟨⟩
        rfl
  | ok read => exact ⟨nofun, nofun⟩

theorem keepUnit_error {first : CodePoint} {behind : Text} {result : Except Failure (Text × Text)}
    {failure : Failure} (failed : keepUnit first behind result = .error failure) :
    result = .error failure := by
  cases result with
  | error failure' =>
      cases failed
      rfl
  | ok read =>
      rw [keepUnit] at failed
      split at failed
      · cases failed
      · cases failed

theorem scanString_error {text : Text} {failure : Failure}
    (failed : scanString text = .error failure) : failure = .decode := by
  fun_induction scanString text with
  | case1 => exact (Except.error.inj failed).symm
  | case2 half text induction => exact induction (made_eq_error_iff.mp failed)
  | case3 => cases failed
  | case4 a b c d text first _ induction => exact induction (keepUnit_error failed)
  | case5 => exact (Except.error.inj failed).symm
  | case6 letter text _ char _ induction => exact induction (made_eq_error_iff.mp failed)
  | case7 => exact (Except.error.inj failed).symm
  | case8 => exact (Except.error.inj failed).symm
  | case9 => exact (Except.error.inj failed).symm
  | case10 char text _ _ _ _ _ induction => exact induction (made_eq_error_iff.mp failed)

theorem numberOf_error {F : Type} {floats : Floats F} {numeral : Numeral} {failure : Failure}
    (failed : numberOf floats numeral = .error failure) : failure = .digits := by
  rw [numberOf] at failed
  split at failed
  · split at failed
    · cases failed
      rfl
    · cases failed
  · cases failed

theorem scanScalar_error {F : Type} {floats : Floats F} {text : Text} {failure : Failure}
    (failed : scanScalar floats text = .error failure) : failure ≠ .recursion := by
  rintro rfl
  rw [scanScalar] at failed
  split at failed
  · cases failed
  · split at failed
    · cases failed
    · split at failed
      · cases failed
      · rename_i numbered
        cases failed
        cases numberOf_error numbered

section
variable {α : Type} {close : Char} {item item' : Scanner α}

theorem scanItems_eq (close : Char) (item : Scanner α) (text : Text) :
    scanItems close item text =
      match item.run text with
      | .error failure => .error failure
      | .ok (value, rest) =>
          match skipSpace rest with
          | .char next :: after =>
              if next = close then .ok ([value], after)
              else if next = ',' then made (value :: ·) (scanItems close item (skipSpace after))
              else .error .decode
          | _ => .error .decode := by
  rw [scanItems]
  split
  · rename_i failed
    rw [failed]
  · rename_i read
    rw [read]
    simp only []
    split
    · rename_i behind
      simp only [behind]
    · rename_i other
      split
      · rename_i behind
        exact absurd behind (other _ _)
      · rfl

/-- Whatever one reader does not give up on, the other one reads the same. -/
def Agrees (item item' : Scanner α) : Prop :=
  ∀ text, item.run text ≠ .error .recursion → item'.run text = item.run text

theorem scanItems_agrees (agrees : Agrees item item') {text : Text}
    (enough : scanItems close item text ≠ .error .recursion) :
    scanItems close item' text = scanItems close item text := by
  fun_induction scanItems close item text with
  | case1 text failure failed =>
      have known : item.run text ≠ .error .recursion := by
        rw [failed]
        rintro ⟨⟩
        exact enough rfl
      rw [scanItems_eq, agrees text known, failed]
  | case2 text value rest read after behind =>
      have known : item.run text ≠ .error .recursion := by simp [read]
      rw [scanItems_of_read ((agrees text known).trans read) behind, if_pos rfl]
  | case3 text value rest read after behind other induction =>
      have known : item.run text ≠ .error .recursion := by simp [read]
      rw [scanItems_of_read ((agrees text known).trans read) behind, if_neg other, if_pos rfl,
        induction fun failed => enough (made_eq_error_iff.mpr failed)]
  | case4 text value rest read next after behind notClose notComma =>
      have known : item.run text ≠ .error .recursion := by simp [read]
      rw [scanItems_of_read ((agrees text known).trans read) behind, if_neg notClose,
        if_neg notComma]
  | case5 text value rest read other =>
      have known : item.run text ≠ .error .recursion := by simp [read]
      rw [scanItems_eq, agrees text known, read]
      simp only []

theorem scanEnclosed_agrees (agrees : Agrees item item') {text : Text}
    (enough : scanEnclosed close item text ≠ .error .recursion) :
    scanEnclosed close item' text = scanEnclosed close item text := by
  simp only [scanEnclosed] at enough ⊢
  split at enough
  · rename_i shut
    rw [if_pos shut, if_pos shut]
  · rename_i other
    rw [if_neg other, if_neg other]
    exact scanItems_agrees agrees enough

theorem memberScanner_agrees (agrees : Agrees item item') :
    Agrees (memberScanner item) (memberScanner item') := by
  intro text enough
  change scanMember item text ≠ _ at enough
  change scanMember item' text = scanMember item text
  rw [scanMember] at enough ⊢
  rw [scanMember]
  cases key : scanKey text with
  | error failure => rfl
  | ok read =>
      simp only [key] at enough ⊢
      rw [agrees read.2 fun failed => enough (made_eq_error_iff.mpr failed)]

end

/-! ## More calls -/

section
variable {F : Type} {floats : Floats F}

theorem scanOnce_agrees (floats : Floats F) (levels : ℕ) :
    Agrees (scanOnce floats levels) (scanOnce floats (levels + 1)) := by
  induction levels with
  | zero =>
      intro text enough
      change scanValue floats none text ≠ _ at enough
      change scanValue floats (some (scanOnce floats 0)) text = scanValue floats none text
      rcases scanValue_cases text with ⟨behind, rfl⟩ | ⟨behind, rfl⟩ | ⟨behind, rfl⟩ | scalar
      · rfl
      · exact absurd rfl enough
      · exact absurd rfl enough
      · rw [scalar, scalar]
  | succ levels induction =>
      intro text enough
      change scanValue floats (some (scanOnce floats levels)) text ≠ _ at enough
      change scanValue floats (some (scanOnce floats (levels + 1))) text =
        scanValue floats (some (scanOnce floats levels)) text
      rcases scanValue_cases text with ⟨behind, rfl⟩ | ⟨behind, rfl⟩ | ⟨behind, rfl⟩ | scalar
      · rfl
      · rw [scanValue, scanValue, scanEnclosed_agrees induction]
        exact fun failed => enough (made_eq_error_iff.mpr failed)
      · rw [scanValue, scanValue, scanEnclosed_agrees (memberScanner_agrees induction)]
        exact fun failed => enough (made_eq_error_iff.mpr failed)
      · rw [scalar, scalar]

/-- What is read back is read back given one more call. -/
theorem ReadBack.succ {levels : ℕ} {chars : List Char} {value : Value F}
    (read : ReadBack floats levels chars value) : ReadBack floats (levels + 1) chars value := by
  intro rest stops
  have run := read rest stops
  rw [scanOnce_agrees floats levels _ (by simp [run]), run]

theorem writeItems_succ {separators : Separators} {levels : ℕ} {items : List (Value F)}
    (each : ∀ item ∈ items, ∀ chars, write separators floats levels item = .ok chars →
      write separators floats (levels + 1) item = .ok chars) {texts : List (List Char)}
    (written : writeItems separators floats levels items = .ok texts) :
    writeItems separators floats (levels + 1) items = .ok texts := by
  induction items generalizing texts with
  | nil => exact written
  | cons item items induction =>
      obtain ⟨first, others⟩ := List.forall_mem_cons.mp each
      simp only [writeItems, bind_eq_ok_iff] at written ⊢
      obtain ⟨chars, here, texts, there, same⟩ := written
      exact ⟨chars, first chars here, texts, induction others there, same⟩

theorem writeMembers_succ {separators : Separators} {levels : ℕ}
    {members : List (Text × Value F)}
    (each : ∀ member ∈ members, ∀ chars, write separators floats levels member.2 = .ok chars →
      write separators floats (levels + 1) member.2 = .ok chars) {texts : List (List Char)}
    (written : writeMembers separators floats levels members = .ok texts) :
    writeMembers separators floats (levels + 1) members = .ok texts := by
  induction members generalizing texts with
  | nil => exact written
  | cons member members induction =>
      obtain ⟨first, others⟩ := List.forall_mem_cons.mp each
      simp only [writeMembers, bind_eq_ok_iff] at written ⊢
      obtain ⟨chars, here, texts, there, same⟩ := written
      exact ⟨chars, first chars here, texts, induction others there, same⟩

/-- What is written is written the same given one more call. -/
theorem write_succ {separators : Separators} {levels : ℕ} {value : Value F} {chars : List Char}
    (written : write separators floats levels value = .ok chars) :
    write separators floats (levels + 1) value = .ok chars := by
  induction levels generalizing value chars with
  | zero =>
      cases value with
      | array items => cases written
      | object members => cases written
      | _ => exact written
  | succ levels induction =>
      cases value with
      | array items =>
          rw [write, bind_eq_ok_iff] at written ⊢
          obtain ⟨texts, each, same⟩ := written
          exact ⟨texts, writeItems_succ (fun item _ chars here => induction here) each, same⟩
      | object members =>
          rw [write, bind_eq_ok_iff] at written ⊢
          obtain ⟨texts, each, same⟩ := written
          exact ⟨texts, writeMembers_succ (fun member _ chars here => induction here) each, same⟩
      | _ => exact written

/-- Any two readers that do not give up read a text the same. -/
theorem scanOnce_eq {levels levels' : ℕ} {text : Text}
    (enough : (scanOnce floats levels).run text ≠ .error .recursion)
    (enough' : (scanOnce floats levels').run text ≠ .error .recursion) :
    (scanOnce floats levels).run text = (scanOnce floats levels').run text := by
  have more : ∀ levels extra, (scanOnce floats levels).run text ≠ .error .recursion →
      (scanOnce floats (levels + extra)).run text = (scanOnce floats levels).run text := by
    intro levels extra enough
    induction extra with
    | zero => rfl
    | succ extra induction =>
        rw [← induction] at enough
        rw [← induction]
        exact scanOnce_agrees floats (levels + extra) text enough
  rw [← more levels levels' enough, ← more levels' levels enough', Nat.add_comm]

/-! ## Brackets inside one another -/

/-- The places that come after some items and commas. -/
inductive Reaches (stands : Text → Text → Prop) : Text → Text → Prop
  | here {text : Text} : Reaches stands text text
  | next {text rest after place : Text} : stands text rest → skipSpace rest = .char ',' :: after →
      Reaches stands (skipSpace after) place → Reaches stands text place

/-- A value stands here, up to there. -/
def Stands (floats : Floats F) (text rest : Text) : Prop :=
  ∃ levels value, (scanOnce floats levels).run text = .ok (value, rest)

/-- A key with its value stands here. -/
def MemberStands (floats : Floats F) (text rest : Text) : Prop :=
  ∃ key place, scanKey text = .ok (key, place) ∧ Stands floats place rest

/-- So many brackets open here, each inside the one before, with nothing wrong in front of them. -/
inductive Opens (floats : Floats F) : ℕ → Text → Prop
  | array {text : Text} : Opens floats 1 (.char '[' :: text)
  | object {text : Text} : Opens floats 1 (.char '{' :: text)
  | item {levels : ℕ} {text place : Text} : Reaches (Stands floats) (skipSpace text) place →
      Opens floats levels place → Opens floats (levels + 1) (.char '[' :: text)
  | member {levels : ℕ} {text member key place : Text} :
      Reaches (MemberStands floats) (skipSpace text) member → scanKey member = .ok (key, place) →
      Opens floats levels place → Opens floats (levels + 1) (.char '{' :: text)

theorem Reaches.mono {stands stands' : Text → Text → Prop} {text place : Text}
    (reaches : Reaches stands text place)
    (more : ∀ text rest, stands text rest → stands' text rest) : Reaches stands' text place := by
  induction reaches with
  | here => exact .here
  | next stands comma _ induction => exact .next (more _ _ stands) comma induction

section
variable {α : Type} {close : Char} {item : Scanner α}

/-- A list is given up exactly when one of its items is. -/
theorem exists_recursion {text : Text} (failed : scanItems close item text = .error .recursion) :
    ∃ place, Reaches (fun text rest => ∃ value, item.run text = .ok (value, rest)) text place ∧
      item.run place = .error .recursion := by
  fun_induction scanItems close item text with
  | case1 text failure failed' =>
      cases failed
      exact ⟨text, .here, failed'⟩
  | case2 => cases failed
  | case3 text value rest read after behind other induction =>
      obtain ⟨place, reaches, failed⟩ := induction (made_eq_error_iff.mp failed)
      exact ⟨place, .next ⟨value, read⟩ behind reaches, failed⟩
  | case4 => cases failed
  | case5 => cases failed

/-- Behind items that are read or given up, something that is given up. -/
theorem recursion_of_reaches (other : close ≠ ',') {stands : Text → Text → Prop}
    (reads : ∀ text rest, stands text rest → item.run text = .error .recursion ∨
      ∃ value, item.run text = .ok (value, rest)) {text place : Text}
    (reaches : Reaches stands text place) (failed : item.run place = .error .recursion) :
    scanItems close item text = .error .recursion := by
  have stop : ∀ text, item.run text = .error .recursion →
      scanItems close item text = .error .recursion := by
    intro text failed
    rw [scanItems_eq, failed]
  induction reaches with
  | here => exact stop _ failed
  | next there comma _ induction =>
      rcases reads _ _ there with failed' | ⟨value, read⟩
      · exact stop _ failed'
      · rw [scanItems_of_read read comma, if_neg (Ne.symm other), if_pos rfl, induction failed]
        rfl

end

theorem scanKey_error {text : Text} {failure : Failure} (failed : scanKey text = .error failure) :
    failure = .decode := by
  fun_cases scanKey text with
  | case1 text failure' failed' =>
      simp only [scanKey, failed'] at failed
      cases failed
      exact scanString_error failed'
  | case2 text key rest read after behind =>
      simp only [scanKey, read, behind] at failed
      cases failed
  | case3 text key rest read other =>
      simp only [scanKey, read] at failed
      exact (Except.error.inj failed).symm
  | case4 =>
      rw [scanKey] at failed
      · exact (Except.error.inj failed).symm
      · assumption

theorem scanKey_head {text key place : Text} (read : scanKey text = .ok (key, place)) :
    text.head? = some (.char '"') := by
  revert read
  fun_cases scanKey text with
  | case2 => exact fun _ => rfl
  | case1 => exact fun read => by cases read
  | case3 => exact fun read => by cases read
  | case4 => exact fun read => by cases read

/-- A member is given up exactly when its value is. -/
theorem scanMember_recursion_iff {α : Type} {value : Scanner α} {text : Text} :
    scanMember value text = .error .recursion ↔
      ∃ key place, scanKey text = .ok (key, place) ∧ value.run place = .error .recursion := by
  rw [scanMember]
  cases key : scanKey text with
  | error failure =>
      constructor
      · rintro ⟨⟩
        cases scanKey_error key
      · rintro ⟨_, _, ⟨⟩, _⟩
  | ok read =>
      rw [made_eq_error_iff]
      constructor
      · intro failed
        exact ⟨read.1, read.2, rfl, failed⟩
      · rintro ⟨_, _, ⟨⟩, failed⟩
        exact failed

theorem Opens.head {levels : ℕ} {text : Text} (opens : Opens floats levels text) :
    text.head? = some (.char '[') ∨ text.head? = some (.char '{') := by
  cases opens with
  | array => exact Or.inl rfl
  | object => exact Or.inr rfl
  | item => exact Or.inl rfl
  | member => exact Or.inr rfl

theorem Stands.head {text rest : Text} (stands : Stands floats text rest) :
    text.head? ≠ some (.char ']') := by
  obtain ⟨levels, value, read⟩ := stands
  intro closes
  obtain ⟨behind, rfl⟩ := List.head?_eq_some_iff.mp closes
  rw [not_scanOnce (by simp)] at read
  cases read

/-- What comes to something else than the closing bracket does not begin with it. -/
theorem Reaches.head {stands : Text → Text → Prop} {text place : Text} {close : CodePoint}
    (reaches : Reaches stands text place)
    (other : ∀ text rest, stands text rest → text.head? ≠ some close)
    (last : place.head? ≠ some close) : text.head? ≠ some close := by
  cases reaches with
  | here => exact last
  | next there _ _ => exact other _ _ there

/-- A list in brackets is given up exactly when one of its items is. -/
theorem scanEnclosed_recursion_iff {α : Type} {close : Char} {item : Scanner α} {text : Text} :
    scanEnclosed close item text = .error .recursion ↔
      (skipSpace text).head? ≠ some (.char close) ∧
        scanItems close item (skipSpace text) = .error .recursion := by
  rw [scanEnclosed]
  split
  · rename_i shut
    exact ⟨fun failed => (by cases failed), fun both => absurd shut both.1⟩
  · rename_i other
    exact ⟨fun failed => ⟨other, failed⟩, fun both => both.2⟩

/-- The reader gives up on a value, or reads it as every reader does. -/
theorem Stands.reads {text rest : Text} (stands : Stands floats text rest) (levels : ℕ) :
    (scanOnce floats levels).run text = .error .recursion ∨
      ∃ value, (scanOnce floats levels).run text = .ok (value, rest) := by
  obtain ⟨levels', value, read⟩ := stands
  by_cases enough : (scanOnce floats levels).run text = .error .recursion
  · exact Or.inl enough
  · exact Or.inr ⟨value, (scanOnce_eq enough (by simp [read])).trans read⟩

theorem MemberStands.of_scanMember {levels : ℕ} {text rest : Text} {member : Text × Value F}
    (read : scanMember (scanOnce floats levels) text = .ok (member, rest)) :
    MemberStands floats text rest := by
  rw [scanMember] at read
  cases keyed : scanKey text with
  | error failure => simp [keyed] at read
  | ok found =>
      simp only [keyed] at read
      cases value : (scanOnce floats levels).run found.2 with
      | error failure => simp [value, made] at read
      | ok found' =>
          simp only [value, made, Except.ok.injEq, Prod.mk.injEq] at read
          exact ⟨found.1, found.2, keyed, levels, found'.1, by rw [value, ← read.2]⟩

theorem MemberStands.reads {text rest : Text} (stands : MemberStands floats text rest)
    (levels : ℕ) : scanMember (scanOnce floats levels) text = .error .recursion ∨
      ∃ member, scanMember (scanOnce floats levels) text = .ok (member, rest) := by
  obtain ⟨key, place, keyed, stands⟩ := stands
  rcases stands.reads levels with failed | ⟨value, read⟩
  · exact Or.inl (scanMember_recursion_iff.mpr ⟨key, place, keyed, failed⟩)
  · refine Or.inr ⟨(key, value), ?_⟩
    rw [scanMember, keyed]
    simp only [read, made]

/-- The reader gives up exactly when more brackets open than it has calls to go. -/
theorem recursion_iff {levels : ℕ} {text : Text} :
    (scanOnce floats levels).run text = .error .recursion ↔ Opens floats (levels + 1) text := by
  induction levels generalizing text with
  | zero =>
      change scanValue floats none text = _ ↔ _
      constructor
      · intro failed
        rcases scanValue_cases text with ⟨behind, rfl⟩ | ⟨behind, rfl⟩ | ⟨behind, rfl⟩ | scalar
        · cases scanString_error (made_eq_error_iff.mp failed)
        · exact .array
        · exact .object
        · rw [scalar] at failed
          exact absurd rfl (scanScalar_error failed)
      · intro opens
        rcases opens.head with head | head
        all_goals
          obtain ⟨behind, rfl⟩ := List.head?_eq_some_iff.mp head
          rfl
  | succ levels induction =>
      change scanValue floats (some (scanOnce floats levels)) text = _ ↔ _
      constructor
      · intro failed
        rcases scanValue_cases text with ⟨behind, rfl⟩ | ⟨behind, rfl⟩ | ⟨behind, rfl⟩ | scalar
        · cases scanString_error (made_eq_error_iff.mp failed)
        · obtain ⟨_, failed⟩ := scanEnclosed_recursion_iff.mp (made_eq_error_iff.mp failed)
          obtain ⟨place, reaches, failed⟩ := exists_recursion failed
          refine .item (reaches.mono ?_) (induction.mp failed)
          intro text rest read
          exact ⟨levels, read⟩
        · obtain ⟨_, failed⟩ := scanEnclosed_recursion_iff.mp (made_eq_error_iff.mp failed)
          obtain ⟨member, reaches, failed⟩ := exists_recursion failed
          obtain ⟨key, place, keyed, failed⟩ := scanMember_recursion_iff.mp failed
          refine .member (reaches.mono ?_) keyed (induction.mp failed)
          rintro text rest ⟨value, read⟩
          exact MemberStands.of_scanMember read
        · rw [scalar] at failed
          exact absurd rfl (scanScalar_error failed)
      · intro opens
        cases opens with
        | item reaches inner =>
            refine made_eq_error_iff.mpr (scanEnclosed_recursion_iff.mpr ⟨?_, ?_⟩)
            · refine reaches.head (fun _ _ stands => stands.head) ?_
              rcases inner.head with head | head
              all_goals simp [head]
            · exact recursion_of_reaches (by decide) (fun _ _ stands => stands.reads levels) reaches
                (induction.mpr inner)
        | member reaches keyed inner =>
            refine made_eq_error_iff.mpr (scanEnclosed_recursion_iff.mpr ⟨?_, ?_⟩)
            · refine reaches.head ?_ ?_
              · rintro text rest ⟨key, place, keyed, _⟩
                simp [scanKey_head keyed]
              · simp [scanKey_head keyed]
            · refine recursion_of_reaches (by decide) ?_ reaches
                (scanMember_recursion_iff.mpr ⟨_, _, keyed, induction.mpr inner⟩)
              exact fun _ _ stands => stands.reads levels

theorem loads_recursion_iff {levels : ℕ} {text : Text} :
    loads floats levels text = .error .recursion ↔
      text.head? ≠ some (.char '\uFEFF') ∧ Opens floats (levels + 1) (skipSpace text) := by
  rw [loads, ← recursion_iff]
  split
  · rename_i mark
    exact ⟨fun failed => (by cases failed), fun both => absurd mark both.1⟩
  · rename_i mark
    split
    · rename_i failure failed
      rw [failed]
      exact ⟨fun same => ⟨mark, congrArg Except.error (Except.error.inj same)⟩,
        fun both => congrArg Except.error (Except.error.inj both.2)⟩
    · rename_i value rest read
      rw [read]
      split
      · exact ⟨fun failed => (by cases failed), fun both => by cases both.2⟩
      · exact ⟨fun failed => (by cases failed), fun both => by cases both.2⟩

end

end JsonText
end Library
