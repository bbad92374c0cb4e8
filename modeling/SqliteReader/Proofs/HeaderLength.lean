import Mathlib.Order.Bounds.Defs
import SqliteReader.Proofs.Varint
import SqliteReader.Record

/-!
# How long the header of a record is

The header of a record begins with its own length, so the writer of a record looks for a length that counts
itself: from the least one possible on, it counts anew until nothing changes. `Settles` is this loop with the
number of its updates. A count never falls and grows by one at most on the way (`recount_le_succ`), so two updates
are enough (`exists_settles`), and what the loop ends at is the least length that counts itself
(`header_length_settles`).
-/
namespace SqliteReader.Record

/-- The length that a header with `types` bytes of serial types has if it gives its length as `length`. -/
def recount (types length : Nat) : Nat := Varint.encodedLength (UInt64.ofNat length) + types

/-- The loop that looks for the length of a header, where it stands at `length`, ends at `last` after so many
updates. -/
inductive Settles (types : Nat) : (updates length last : Nat) → Prop
  | done {length : Nat} (counts : recount types length = length) : Settles types 0 length length
  | update {updates length last : Nat} (moves : recount types length ≠ length)
      (rest : Settles types updates (recount types length) last) : Settles types (updates + 1) length last

section
variable {types updates length last : Nat}

/-! ## Counts -/

theorem recount_eq (types length : Nat) :
    recount types length = (Varint.encode (UInt64.ofNat length)).size + types := by
  rw [recount, Varint.encodedLength_eq]

theorem lt_recount (types length : Nat) : types < recount types length := by
  have positive := Varint.size_encode_pos (UInt64.ofNat length)
  rw [recount_eq]
  omega

theorem recount_le (types length : Nat) : recount types length ≤ types + 9 := by
  have short := Varint.size_encode_le (UInt64.ofNat length)
  rw [recount_eq]
  omega

theorem recount_mono {other : Nat} (order : length ≤ other) (small : other < 2 ^ 64) :
    recount types length ≤ recount types other := by
  have longer := @Varint.size_encode_mono (UInt64.ofNat length) (UInt64.ofNat other) (by
    rwa [UInt64.toNat_ofNat_of_lt' (show length < 2 ^ 64 by omega), UInt64.toNat_ofNat_of_lt' small])
  rw [recount_eq, recount_eq]
  omega

theorem recount_le_succ {other : Nat} (near : other ≤ length + 8) (small : length + 8 < 2 ^ 64) :
    recount types other ≤ recount types length + 1 := by
  have longer := @Varint.size_encode_le_succ (UInt64.ofNat length) (UInt64.ofNat other) (by
    rwa [UInt64.toNat_ofNat_of_lt' (show length < 2 ^ 64 by omega),
      UInt64.toNat_ofNat_of_lt' (show other < 2 ^ 64 by omega)])
  rw [recount_eq, recount_eq]
  omega

/-- A count is within `count` bytes of the serial types if such a length has a varint of `count` bytes. -/
theorem recount_le_of_lt {count : Nat} (positive : 0 < count) (few : count ≤ 8) (fits : types + count < 128 ^ count)
    (order : length ≤ types + count) : recount types length ≤ types + count := by
  have wide : 128 ^ count ≤ 128 ^ 8 := Nat.pow_le_pow_right (by decide) few
  have short := (Varint.size_encode_le_iff (UInt64.ofNat length) count positive few).2 (by
    rw [UInt64.toNat_ofNat_of_lt' (show length < 2 ^ 64 by omega)]
    omega)
  rw [recount_eq]
  omega

/-! ## The loop -/

namespace Settles

theorem counts (settles : Settles types updates length last) : recount types last = last := by
  induction settles with
  | done counts => exact counts
  | update _ _ ih => exact ih

/-- What holds of the first length and is kept by counting anew holds of the last one. -/
theorem keeps (settles : Settles types updates length last) (holds : Nat → Prop)
    (step : ∀ length, holds length → holds (recount types length)) (first : holds length) : holds last := by
  induction settles with
  | done _ => exact first
  | @update _ length _ _ _ ih => exact ih (step length first)

/-- The loop does not go past a length that counts itself. -/
theorem le_of_counts (room : types + 9 < 2 ^ 64) (settles : Settles types updates length last) {other : Nat}
    (counts : recount types other = other) (order : length ≤ other) : last ≤ other := by
  have most := recount_le types other
  refine settles.keeps (· ≤ other) ?_ order
  intro length order
  exact (recount_mono order (by omega)).trans counts.le

/-- Enough guesses carry the loop to its end. -/
theorem settleLength_eq (settles : Settles types updates length last) {left : Nat} (enough : updates ≤ left) :
    settleLength types left length = last := by
  induction settles generalizing left with
  | done counts =>
    cases left with
    | zero => rfl
    | succ left => exact if_pos counts
  | update moves _ ih =>
    cases left with
    | zero => omega
    | succ left => exact (if_neg moves).trans (ih (by omega))

end Settles

/-- From the least length that a header can have on, the loop ends after two updates at most. -/
theorem exists_settles (types : Nat) (room : types + 9 < 2 ^ 64) :
    ∃ updates ≤ 2, ∃ last, Settles types updates (types + 1) last := by
  have start := lt_recount types (types + 1)
  generalize first : recount types (types + 1) = second at start
  have most := recount_le types (types + 1)
  have rises : recount types (types + 1) ≤ recount types second := recount_mono start (by omega)
  have near : recount types second ≤ recount types (types + 1) + 1 := recount_le_succ (by omega) (by omega)
  by_cases still : second = types + 1
  · exact ⟨0, by omega, _, .done (first.trans still)⟩
  by_cases again : recount types second = second
  · refine ⟨1, by omega, second, .update (first ▸ still) ?_⟩
    rw [first]
    exact .done again
  -- The varint has grown by a byte, and it grows by one only from the first guess to the last.
  have third : recount types (recount types second) = recount types second := by
    have most := recount_le types second
    have rises := @recount_mono types second (recount types second) (by omega) (by omega)
    have near := @recount_le_succ types (types + 1) (recount types second) (by omega) (by omega)
    omega
  refine ⟨2, by omega, recount types second, .update (first ▸ still) ?_⟩
  rw [first]
  exact .update again (.done third)

/-! ## The length found -/

theorem settles_headerLength (types : Nat) (room : types + 9 < 2 ^ 64) :
    ∃ updates ≤ 2, Settles types updates (types + 1) (headerLength types) := by
  obtain ⟨updates, few, last, settles⟩ := exists_settles types room
  have found : headerLength types = last := settles.settleLength_eq (few.trans (by decide))
  exact ⟨updates, few, found ▸ settles⟩

theorem recount_headerLength (types : Nat) (room : types + 9 < 2 ^ 64) :
    recount types (headerLength types) = headerLength types := by
  obtain ⟨_, -, settles⟩ := settles_headerLength types room
  exact settles.counts

/-- The length of a header counts the varint that gives it and the serial types behind that. -/
theorem headerLength_eq (types : Nat) (room : types + 9 < 2 ^ 64) :
    (Varint.encode (UInt64.ofNat (headerLength types))).size + types = headerLength types := by
  rw [← recount_eq, recount_headerLength types room]

theorem headerLength_le (types : Nat) (room : types + 9 < 2 ^ 64) : headerLength types ≤ types + 9 := by
  have most := recount_le types (headerLength types)
  rwa [recount_headerLength types room] at most

/-- The least length that counts itself is the one found. -/
theorem isLeast_headerLength (types : Nat) (room : types + 9 < 2 ^ 64) :
    IsLeast {length | recount types length = length} (headerLength types) := by
  obtain ⟨_, -, settles⟩ := settles_headerLength types room
  refine ⟨settles.counts, ?_⟩
  intro length counts
  have start := lt_recount types length
  exact settles.le_of_counts room counts (counts ▸ start)

/-- The varint of the length has `count` bytes at most just when the length of a header with one of `count` bytes
fits into it. -/
theorem encodedLength_headerLength_le_iff (types : Nat) (room : types + 9 < 2 ^ 64) {count : Nat}
    (positive : 0 < count) (few : count ≤ 8) :
    Varint.encodedLength (UInt64.ofNat (headerLength types)) ≤ count ↔ types + count < 128 ^ count := by
  have length := headerLength_eq types room
  have most := headerLength_le types room
  have own := Varint.size_encode_pos (UInt64.ofNat (headerLength types))
  have read : (UInt64.ofNat (headerLength types)).toNat = headerLength types :=
    UInt64.toNat_ofNat_of_lt' (show _ < 2 ^ 64 by omega)
  rw [Varint.encodedLength_eq]
  constructor
  · intro short
    have below := (Varint.size_encode_le_iff (UInt64.ofNat (headerLength types)) _ own (by omega)).1 (Nat.le_refl _)
    rw [read] at below
    obtain same | shorter := Nat.eq_or_lt_of_le short
    · rw [same] at below length
      omega
    · have wide : 128 ^ ((Varint.encode (UInt64.ofNat (headerLength types))).size + 1) ≤ 128 ^ count :=
        Nat.pow_le_pow_right (by decide) shorter
      rw [Nat.pow_succ'] at wide
      omega
  · intro fits
    obtain ⟨_, -, settles⟩ := settles_headerLength types room
    have within := settles.keeps (· ≤ types + count) (fun _ => recount_le_of_lt positive few fits) (by omega)
    omega

end

/-- The loop for the length of a header ends after two updates at most, whatever the number of bytes that serial
types take, at the least length that counts itself. Its varint has `count` bytes at most just when the types leave
room for such a length below the first one of `count + 1` bytes. So the varint in front of a written record reads
as its own length and that of the serial types behind it. -/
theorem header_length_settles (types : Nat) (room : types + 9 < 2 ^ 64) :
    (∃ updates ≤ 2, Settles types updates (types + 1) (headerLength types)) ∧
      IsLeast {length | Varint.encodedLength (UInt64.ofNat length) + types = length} (headerLength types) ∧
      (∀ count, 0 < count → count ≤ 8 →
        (Varint.encodedLength (UInt64.ofNat (headerLength types)) ≤ count ↔ types + count < 128 ^ count)) ∧
      ∀ values, (typeBytes values).size = types →
        ∃ own, Varint.decode (encode values) 0 = .ok (UInt64.ofNat (headerLength types), own) ∧
          own + types = headerLength types ∧ (encode values).Holds own (typeBytes values) := by
  refine ⟨settles_headerLength types room, isLeast_headerLength types room, ?_, ?_⟩
  · intro count positive few
    exact encodedLength_headerLength_le_iff types room positive few
  · rintro values rfl
    refine ⟨_, Varint.decode_of_holds ?_, headerLength_eq _ room, Bytes.holds_middle _ _ _⟩
    exact ((Bytes.holds_self _).append_right _).append_right _

/-- The first guess takes two bytes and is one too small, and the next one is the first number that takes three. -/
theorem header_length_settles_twice :
    (16382 + 9 < 2 ^ 64) ∧ headerLength 16382 = 16385 ∧
      (∃ updates ≤ 2, Settles 16382 updates 16383 16385) ∧
      IsLeast {length | Varint.encodedLength (UInt64.ofNat length) + 16382 = length} 16385 ∧
      ¬ Varint.encodedLength (UInt64.ofNat 16385) ≤ 2 := by
  have found : headerLength 16382 = 16385 := by decide +kernel
  obtain ⟨settles, least, bytes, -⟩ := header_length_settles 16382 (by decide)
  rw [found] at settles least bytes
  have long := (bytes 2 (by decide) (by decide)).not.2 (by decide)
  exact ⟨by decide, found, settles, least, long⟩

end SqliteReader.Record
