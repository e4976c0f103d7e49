import AqaraLanLink.Port.Discovery

/-!
# The names of a packet

What `readName` makes of the bytes at an offset, without fuel: it returns unless the pointers it
follows lead round in a circle, and then what it returns is determined by the bytes.
-/

namespace AqaraLanLink
namespace Port
namespace Discovery

open Library Outcome

/-- Where a reader of a name goes on from a byte of it. -/
def hop (packet : List UInt8) (cursor : ℕ) : Option ℕ :=
  match packet[cursor]? with
  | none => none
  | some length =>
      if length = 0 then none
      else if isPointer length then some (pointer packet cursor)
      else some (cursor + 1 + length.toNat)

/-- From a cursor on, the reader takes up some labels and stops at some place; the last pointer on
its way, if there is one, sets where reading carries on. -/
inductive Reads (packet : List UInt8) : ℕ → List String → ℕ → Option ℕ → Prop
  | past {cursor : ℕ} : packet[cursor]? = none → Reads packet cursor [] cursor none
  | root {cursor : ℕ} : packet[cursor]? = some 0 → Reads packet cursor [] (cursor + 1) none
  | pointer {cursor stop : ℕ} {length : UInt8} {labels : List String} {after : Option ℕ} :
      packet[cursor]? = some length → length ≠ 0 → isPointer length = true →
      Reads packet (pointer packet cursor) labels stop after →
      Reads packet cursor labels stop (some (after.getD (cursor + 2)))
  | label {cursor stop : ℕ} {length : UInt8} {labels : List String} {after : Option ℕ} :
      packet[cursor]? = some length → length ≠ 0 → isPointer length = false →
      Reads packet (cursor + 1 + length.toNat) labels stop after →
      Reads packet cursor (Utf8.decode (slice packet (cursor + 1) length.toNat) :: labels) stop
        after

/-- A name, and where reading carries on after it. -/
def Names (packet : List UInt8) (offset : ℕ) (name : String) (next : ℕ) : Prop :=
  ∃ labels stop after, Reads packet offset labels stop after ∧ name = join labels ∧
    next = after.getD stop

variable {packet : List UInt8} {cursor stop : ℕ} {labels : List String} {after : Option ℕ}

theorem hop_of_pointer {length : UInt8} (byte : packet[cursor]? = some length) (more : length ≠ 0)
    (points : isPointer length = true) : hop packet cursor = some (pointer packet cursor) := by
  simp only [hop, byte]
  rw [if_neg more, if_pos points]

theorem hop_of_label {length : UInt8} (byte : packet[cursor]? = some length) (more : length ≠ 0)
    (plain : isPointer length = false) : hop packet cursor = some (cursor + 1 + length.toNat) := by
  simp only [hop, byte]
  rw [if_neg more, if_neg (by rw [plain]; exact Bool.false_ne_true)]

/-- Only a byte of the packet leads on. -/
theorem lt_length_of_hop {next : ℕ} (goes : hop packet cursor = some next) :
    cursor < packet.length := by
  rcases Nat.lt_or_ge cursor packet.length with inside | outside
  · exact inside
  · simp only [hop, List.getElem?_eq_none outside] at goes
    cases goes

/-- The loop returns what the bytes determine. -/
theorem Reads.settles (reads : Reads packet cursor labels stop after) :
    ∃ enough, ∀ fuel, enough ≤ fuel → ∀ before pending,
      readNameLoop packet fuel before cursor pending =
        .returns (join (before ++ labels), (after.or pending).getD stop) := by
  induction reads with
  | past byte =>
      refine ⟨1, fun fuel le before pending => ?_⟩
      obtain ⟨fuel, rfl⟩ : ∃ less, fuel = less + 1 := ⟨fuel - 1, by omega⟩
      simp only [readNameLoop, byte, List.append_nil, Option.none_or]
  | root byte =>
      refine ⟨1, fun fuel le before pending => ?_⟩
      obtain ⟨fuel, rfl⟩ : ∃ less, fuel = less + 1 := ⟨fuel - 1, by omega⟩
      simp only [readNameLoop, byte, List.append_nil, Option.none_or, if_true]
  | @pointer cursor stop length labels after byte more points _ induction =>
      obtain ⟨enough, returned⟩ := induction
      refine ⟨enough + 1, fun fuel le before pending => ?_⟩
      obtain ⟨fuel, rfl⟩ : ∃ less, fuel = less + 1 := ⟨fuel - 1, by omega⟩
      simp only [readNameLoop, byte]
      rw [if_neg more, if_pos points, returned fuel (by omega)]
      cases after with
      | none => rfl
      | some after => rfl
  | @label cursor stop length labels after byte more plain _ induction =>
      obtain ⟨enough, returned⟩ := induction
      refine ⟨enough + 1, fun fuel le before pending => ?_⟩
      obtain ⟨fuel, rfl⟩ : ∃ less, fuel = less + 1 := ⟨fuel - 1, by omega⟩
      simp only [readNameLoop, byte]
      rw [if_neg more, if_neg (by rw [plain]; exact Bool.false_ne_true), returned fuel (by omega),
        List.append_assoc, List.singleton_append]

/-- A trail that ends is a name that can be read. -/
theorem exists_reads (ends : Ends (hop packet) cursor) :
    ∃ labels stop after, Reads packet cursor labels stop after := by
  obtain ⟨hops, ended⟩ := ends
  induction hops generalizing cursor with
  | zero => cases ended
  | succ hops induction =>
      rw [trail_succ] at ended
      cases byte : packet[cursor]? with
      | none => exact ⟨_, _, _, .past byte⟩
      | some length =>
          by_cases zero : length = 0
          · exact ⟨_, _, _, .root (zero ▸ byte)⟩
          cases points : isPointer length with
          | true =>
              rw [hop_of_pointer byte zero points] at ended
              obtain ⟨labels, stop, after, reads⟩ := induction ended
              exact ⟨_, _, _, .pointer byte zero points reads⟩
          | false =>
              rw [hop_of_label byte zero points] at ended
              obtain ⟨labels, stop, after, reads⟩ := induction ended
              exact ⟨_, _, _, .label byte zero points reads⟩

theorem Reads.ends (reads : Reads packet cursor labels stop after) : Ends (hop packet) cursor := by
  induction reads with
  | past byte => exact ends_of_stop (by simp only [hop, byte])
  | root byte => exact ends_of_stop (by simp only [hop, byte, if_true])
  | pointer byte more points _ induction =>
      exact (ends_iff_of_hop (hop_of_pointer byte more points)).mpr induction
  | label byte more plain _ induction =>
      exact (ends_iff_of_hop (hop_of_label byte more plain)).mpr induction

/-- A trail that does not end keeps the loop running. -/
theorem readNameLoop_running (endless : ¬ Ends (hop packet) cursor) (fuel : ℕ)
    (before : List String) (pending : Option ℕ) :
    readNameLoop packet fuel before cursor pending = .running := by
  induction fuel generalizing cursor before pending with
  | zero => rfl
  | succ fuel induction =>
      cases byte : packet[cursor]? with
      | none => exact absurd (Reads.past byte).ends endless
      | some length =>
          by_cases zero : length = 0
          · exact absurd (Reads.root (zero ▸ byte)).ends endless
          simp only [readNameLoop, byte]
          rw [if_neg zero]
          cases points : isPointer length with
          | true =>
              rw [ends_iff_of_hop (hop_of_pointer byte zero points)] at endless
              exact induction endless _ _
          | false =>
              rw [ends_iff_of_hop (hop_of_label byte zero points)] at endless
              exact induction endless _ _

/-- A name ends unless its pointers lead round in a circle. -/
theorem ends_hop_iff : Ends (hop packet) cursor ↔ ¬ Circular (hop packet) cursor := by
  apply @ends_iff_not_circular _ _ _ (Finset.range packet.length)
  intro place next goes
  exact Finset.mem_range.mpr (lt_length_of_hop goes)

theorem exists_names_iff : (∃ name next, Names packet cursor name next) ↔
    ¬ Circular (hop packet) cursor := by
  rw [← ends_hop_iff]
  constructor
  · rintro ⟨name, next, labels, stop, after, reads, -, -⟩
    exact reads.ends
  · intro ends
    obtain ⟨labels, stop, after, reads⟩ := exists_reads ends
    exact ⟨_, _, labels, stop, after, reads, rfl, rfl⟩

theorem yields_of_names {name : String} {next : ℕ} (names : Names packet cursor name next) :
    Yields (fun fuel => readName fuel packet cursor) (name, next) := by
  obtain ⟨labels, stop, after, reads, rfl, rfl⟩ := names
  obtain ⟨enough, returned⟩ := reads.settles
  refine ⟨enough, fun fuel le => ?_⟩
  change readNameLoop packet fuel [] cursor none = _
  rw [returned fuel le, List.nil_append, Option.or_none]

theorem settles_readName (packet : List UInt8) (cursor : ℕ) :
    ∃ outcome, Settles (fun fuel => readName fuel packet cursor) outcome := by
  by_cases ends : Ends (hop packet) cursor
  · obtain ⟨labels, stop, after, reads⟩ := exists_reads ends
    exact ⟨_, yields_of_names ⟨labels, stop, after, reads, rfl, rfl⟩⟩
  · exact ⟨.running, 0, fun fuel _ => readNameLoop_running ends fuel [] none⟩

theorem yields_readName_iff {name : String} {next : ℕ} :
    Yields (fun fuel => readName fuel packet cursor) (name, next) ↔
      Names packet cursor name next := by
  constructor
  · intro yields
    by_cases ends : Ends (hop packet) cursor
    · obtain ⟨labels, stop, after, reads⟩ := exists_reads ends
      have names : Names packet cursor _ _ := ⟨labels, stop, after, reads, rfl, rfl⟩
      have same := Settles.unique yields (yields_of_names names)
      cases same
      exact names
    · have runs : Settles (fun fuel => readName fuel packet cursor) .running :=
        ⟨0, fun fuel _ => readNameLoop_running ends fuel [] none⟩
      cases Settles.unique yields runs
  · exact yields_of_names

/-- The bytes determine the name. -/
theorem Names.unique {name name' : String} {next next' : ℕ} (names : Names packet cursor name next)
    (names' : Names packet cursor name' next') : name = name' ∧ next = next' := by
  have same := Settles.unique (yields_of_names names) (yields_of_names names')
  cases same
  exact ⟨rfl, rfl⟩

end Discovery
end Port
end AqaraLanLink
