import Mathlib.Algebra.Order.Ring.Nat
import Mathlib.Tactic.Linarith
import Mathlib.Tactic.Ring
import SqliteReader.Bytes

/-!
# Runs of bytes and the numbers they write

`Holds bytes offset run` says that `run` stands in `bytes` at `offset`; runs that stand one behind the other
are one run (`holds_append`). Numbers written big-endian read back modulo their width (`natBE_ofNatBE`,
`signedBE_ofIntBE`).
-/
namespace SqliteReader.Bytes

/-! ## Runs -/

theorem slice?_eq_some_iff {bytes run : Bytes} {offset stop : Nat} : bytes.slice? offset stop = some run ↔
    offset ≤ stop ∧ stop ≤ bytes.size ∧ run = bytes.extract offset stop := by
  unfold slice?
  split
  · rename_i inside
    simp [inside, eq_comm]
  · rename_i outside
    simp only [reduceCtorEq, false_iff]
    rintro ⟨order, ends, -⟩
    exact outside ⟨order, ends⟩

/-- `run` stands in `bytes` at `offset`. -/
def Holds (bytes : Bytes) (offset : Nat) (run : Bytes) : Prop :=
  bytes.slice? offset (offset + run.size) = some run

theorem holds_iff {bytes : Bytes} {offset : Nat} {run : Bytes} :
    bytes.Holds offset run ↔ offset + run.size ≤ bytes.size ∧ ∀ i < run.size, bytes[offset + i]? = run[i]? := by
  unfold Holds slice?
  by_cases inside : offset + run.size ≤ bytes.size
  · simp only [inside, and_true, Nat.le_add_right, if_true, Option.some.injEq, true_and]
    have cut (i : Nat) (below : i < run.size) :
        (bytes.extract offset (offset + run.size))[i]? = bytes[offset + i]? := by
      rw [Array.getElem?_extract, if_pos (by omega)]
    constructor
    · intro same i below
      rw [← cut i below, same]
    · intro same
      apply Array.ext_getElem?
      intro i
      by_cases below : i < run.size
      · rw [cut i below, same i below]
      · rw [Array.getElem?_eq_none (by simp; omega), Array.getElem?_eq_none (by omega)]
  · simp [inside]

theorem Holds.le_size {bytes : Bytes} {offset : Nat} {run : Bytes} (held : bytes.Holds offset run) :
    offset + run.size ≤ bytes.size := (holds_iff.1 held).1

theorem Holds.getElem? {bytes : Bytes} {offset : Nat} {run : Bytes} (held : bytes.Holds offset run) {i : Nat}
    (below : i < run.size) : bytes[offset + i]? = run[i]? := (holds_iff.1 held).2 i below

theorem Holds.extract_eq {bytes : Bytes} {offset : Nat} {run : Bytes} (held : bytes.Holds offset run) :
    bytes.extract offset (offset + run.size) = run := by
  unfold Holds slice? at held
  split at held
  · exact Option.some.inj held
  · cases held

theorem Holds.natAt {bytes : Bytes} {offset : Nat} {run : Bytes} (held : bytes.Holds offset run) :
    bytes.natAt offset run.size = run.natBE := by
  rw [Bytes.natAt, held.extract_eq]

theorem holds_extract {bytes : Bytes} {offset stop : Nat} (order : offset ≤ stop) (inside : stop ≤ bytes.size) :
    bytes.Holds offset (bytes.extract offset stop) := by
  have size : offset + (bytes.extract offset stop).size = stop := by
    rw [Array.size_extract]
    omega
  rw [Holds, size, slice?, if_pos ⟨order, inside⟩]

/-- As many bytes as asked for are cut where they stand. -/
theorem slice?_add_eq_some_iff {bytes run : Bytes} {offset n : Nat} :
    bytes.slice? offset (offset + n) = some run ↔ run.size = n ∧ bytes.Holds offset run := by
  constructor
  · intro cut
    obtain ⟨order, inside, rfl⟩ := slice?_eq_some_iff.1 cut
    refine ⟨?_, holds_extract order inside⟩
    rw [Array.size_extract]
    omega
  · rintro ⟨rfl, held⟩
    exact held

/-- A number that lies in a run is read from it. -/
theorem natAt_extract {bytes : Bytes} {start offset width stop : Nat} (inside : start + offset + width ≤ stop) :
    natAt (bytes.extract start stop) offset width = natAt bytes (start + offset) width := by
  rw [Bytes.natAt, Bytes.natAt, Array.extract_extract, ← Nat.add_assoc, Nat.min_eq_left inside]

/-- Runs that stand one behind the other are one run. -/
theorem extract_append_extract {bytes : Bytes} {i j k : Nat} (order : i ≤ j ∧ j ≤ k) :
    bytes.extract i j ++ bytes.extract j k = bytes.extract i k := by
  rw [Array.extract_append_extract, Nat.min_eq_left order.1, Nat.max_eq_right order.2]

theorem holds_append {bytes : Bytes} {offset : Nat} {first second : Bytes} :
    bytes.Holds offset (first ++ second) ↔ bytes.Holds offset first ∧ bytes.Holds (offset + first.size) second := by
  simp only [holds_iff, Array.size_append]
  constructor
  · rintro ⟨inside, same⟩
    refine ⟨⟨by omega, fun i below => ?_⟩, by omega, fun i below => ?_⟩
    · rw [same i (by omega), Array.getElem?_append_left below]
    · rw [Nat.add_assoc, same (first.size + i) (by omega), Array.getElem?_append_right (by omega),
        Nat.add_sub_cancel_left]
  · rintro ⟨⟨-, same⟩, inside, same'⟩
    refine ⟨by omega, fun i below => ?_⟩
    by_cases early : i < first.size
    · rw [same i early, Array.getElem?_append_left early]
    · have later := same' (i - first.size) (by omega)
      rw [Array.getElem?_append_right (by omega), ← later]
      congr 1
      omega

theorem holds_self (bytes : Bytes) : bytes.Holds 0 bytes := by
  rw [holds_iff]
  exact ⟨by omega, fun i _ => by rw [Nat.zero_add]⟩

theorem Holds.append_right {bytes : Bytes} {offset : Nat} {run : Bytes} (held : bytes.Holds offset run)
    (back : Bytes) : (bytes ++ back).Holds offset run := by
  obtain ⟨inside, same⟩ := holds_iff.1 held
  refine holds_iff.2 ⟨by rw [Array.size_append]; omega, fun i below => ?_⟩
  rw [Array.getElem?_append_left (by omega), same i below]

theorem Holds.append_left {bytes : Bytes} {offset : Nat} {run : Bytes} (held : bytes.Holds offset run)
    (front : Bytes) : (front ++ bytes).Holds (front.size + offset) run := by
  obtain ⟨inside, same⟩ := holds_iff.1 held
  refine holds_iff.2 ⟨by rw [Array.size_append]; omega, fun i below => ?_⟩
  rw [Array.getElem?_append_right (by omega), ← same i below]
  congr 1
  omega

/-- A run stands behind what comes before it. -/
theorem holds_middle (front run back : Bytes) : (front ++ run ++ back).Holds front.size run := by
  have held := ((holds_self run).append_left front).append_right back
  rwa [Nat.add_zero] at held

/-- The runs that stand in a front part are those of the whole that end in it. -/
theorem holds_extract_iff {bytes run : Bytes} {offset stop : Nat} (inside : stop ≤ bytes.size) :
    Holds (bytes.extract 0 stop) offset run ↔ bytes.Holds offset run ∧ offset + run.size ≤ stop := by
  have size : (bytes.extract 0 stop).size = stop := by
    rw [Array.size_extract]
    omega
  have same (i : Nat) (below : i < stop) : (bytes.extract 0 stop)[i]? = bytes[i]? := by
    rw [Array.getElem?_extract, if_pos (by omega), Nat.zero_add]
  simp only [holds_iff, size]
  constructor
  · rintro ⟨ends, alike⟩
    refine ⟨⟨by omega, fun i below => ?_⟩, ends⟩
    rw [← same _ (by omega), alike i below]
  · rintro ⟨⟨-, alike⟩, ends⟩
    refine ⟨ends, fun i below => ?_⟩
    rw [same _ (by omega), alike i below]

/-- A run is the same in byte strings of one size that agree on its bytes. -/
theorem extract_congr {bytes bytes' : Bytes} {offset stop : Nat} (size : bytes'.size = bytes.size)
    (same : ∀ i, offset ≤ i → i < stop → bytes'[i]? = bytes[i]?) :
    bytes'.extract offset stop = bytes.extract offset stop := by
  apply Array.ext_getElem?
  intro i
  simp only [Array.getElem?_extract, size]
  split
  · exact same (offset + i) (by omega) (by omega)
  · rfl

theorem slice?_congr {bytes bytes' : Bytes} {offset stop : Nat} (size : bytes'.size = bytes.size)
    (same : ∀ i, offset ≤ i → i < stop → bytes'[i]? = bytes[i]?) :
    bytes'.slice? offset stop = bytes.slice? offset stop := by
  rw [slice?, slice?, size, extract_congr size same]

theorem size_overwrite {bytes patch : Bytes} {offset : Nat} (inside : offset + patch.size ≤ bytes.size) :
    (bytes.overwrite offset patch).size = bytes.size := by
  simp only [overwrite, Array.size_append, Array.size_extract]
  omega

/-- Overwriting leaves the bytes in front of the patch and behind it. -/
theorem getElem?_overwrite {bytes patch : Bytes} {offset i : Nat} (inside : offset + patch.size ≤ bytes.size)
    (outside : i < offset ∨ offset + patch.size ≤ i) : (bytes.overwrite offset patch)[i]? = bytes[i]? := by
  have front : (bytes.extract 0 offset).size = offset := by
    rw [Array.size_extract]
    omega
  rcases outside with before | behind
  · rw [overwrite, Array.append_assoc, Array.getElem?_append_left (by omega), Array.getElem?_extract, if_pos (by omega),
      Nat.zero_add]
  · rw [overwrite, Array.getElem?_append_right (by rw [Array.size_append]; omega), Array.getElem?_extract, Array.size_append,
      front]
    split
    · congr 1
      omega
    · rw [Array.getElem?_eq_none (by omega)]

/-! ## Runs one behind the other -/

theorem foldl_append (front : Bytes) (runs : List Bytes) :
    runs.foldl (· ++ ·) front = front ++ concat runs := by
  unfold concat
  induction runs generalizing front with
  | nil => simp
  | cons run runs ih => rw [List.foldl_cons, List.foldl_cons, ih, ih (#[] ++ run), Array.empty_append, Array.append_assoc]

@[simp] theorem concat_nil : concat [] = #[] := rfl

@[simp] theorem concat_cons (run : Bytes) (runs : List Bytes) : concat (run :: runs) = run ++ concat runs := by
  rw [concat, List.foldl_cons, foldl_append, Array.empty_append]

theorem concat_append (first second : List Bytes) : concat (first ++ second) = concat first ++ concat second := by
  rw [concat, List.foldl_append, foldl_append, ← concat]

theorem size_concat (runs : List Bytes) : (concat runs).size = (runs.map Array.size).sum := by
  induction runs with
  | nil => rfl
  | cons run runs ih => rw [concat_cons, Array.size_append, ih, List.map_cons, List.sum_cons]

/-- Of runs of one size, each stands at its multiple of that size. -/
theorem Holds.getElem?_concat {bytes : Bytes} {offset size : Nat} {runs : List Bytes}
    (held : bytes.Holds offset (concat runs)) (sized : ∀ run ∈ runs, run.size = size) {i : Nat} {run : Bytes}
    (there : runs[i]? = some run) : bytes.Holds (offset + i * size) run := by
  induction runs generalizing offset i with
  | nil => simp at there
  | cons first rest ih =>
    rw [concat_cons, holds_append, sized first List.mem_cons_self] at held
    cases i with
    | zero =>
      cases there
      simpa using held.1
    | succ i =>
      have later := ih held.2 (fun run inside => sized run (List.mem_cons_of_mem _ inside)) there
      rwa [Nat.add_assoc, Nat.add_comm size, ← Nat.succ_mul] at later

theorem size_concat_of_size {size : Nat} {runs : List Bytes} (sized : ∀ run ∈ runs, run.size = size) :
    (concat runs).size = runs.length * size := by
  induction runs with
  | nil => simp
  | cons run runs ih =>
    rw [concat_cons, Array.size_append, sized run List.mem_cons_self,
      ih fun other inside => sized other (List.mem_cons_of_mem _ inside), List.length_cons, Nat.succ_mul, Nat.add_comm]

@[simp] theorem size_zeros (n : Nat) : (zeros n).size = n := Array.size_replicate

/-! ## Numbers -/

theorem natBE_push (bytes : Bytes) (byte : UInt8) : natBE (bytes.push byte) = natBE bytes * 256 + byte.toNat := by
  simp [natBE]

@[simp] theorem natAt_zero (bytes : Bytes) (offset : Nat) : natAt bytes offset 0 = 0 := by
  rw [natAt, Nat.add_zero, Array.extract_empty_of_stop_le_start (Nat.le_refl _)]
  rfl

theorem natAt_succ {bytes : Bytes} {offset width : Nat} (inside : offset + width < bytes.size) :
    natAt bytes offset (width + 1) = natAt bytes offset width * 256 + bytes[offset + width].toNat := by
  rw [Bytes.natAt, Bytes.natAt, ← natBE_push, Array.push_extract_getElem, Nat.min_eq_left (Nat.le_add_right _ _),
    Nat.add_assoc]

theorem natAt_one {bytes : Bytes} {offset : Nat} (inside : offset < bytes.size) :
    natAt bytes offset 1 = bytes[offset].toNat := by
  simpa using @natAt_succ bytes offset 0 inside

theorem natBE_cons (byte : UInt8) (rest : List UInt8) :
    natBE (byte :: rest).toArray = byte.toNat * 256 ^ rest.length + natBE rest.toArray := by
  -- Behind a number already read, every further byte multiplies it by 256.
  have above (n : Nat) : rest.foldl (fun n byte => n * 256 + byte.toNat) n =
      n * 256 ^ rest.length + natBE rest.toArray := by
    induction rest generalizing n with
    | nil => simp [natBE]
    | cons byte rest ih =>
      have head := ih (0 * 256 + byte.toNat)
      simp only [natBE, List.foldl_toArray, List.foldl_cons] at ih head ⊢
      rw [ih, head, List.length_cons, pow_succ]
      ring
  have whole := above (0 * 256 + byte.toNat)
  rw [Nat.zero_mul, Nat.zero_add] at whole
  rw [← whole]
  simp [natBE]

theorem natBE_lt (bytes : Bytes) : natBE bytes < 256 ^ bytes.size := by
  obtain ⟨bytes⟩ := bytes
  induction bytes with
  | nil => decide
  | cons byte rest ih =>
    have small : byte.toNat + 1 ≤ 256 := byte.toNat_lt
    have room := Nat.mul_le_mul_right (256 ^ rest.length) small
    rw [List.size_toArray] at ih
    rw [natBE_cons, List.size_toArray, List.length_cons, Nat.pow_succ']
    linarith

@[simp] theorem size_ofNatBE (width n : Nat) : (ofNatBE width n).size = width := by
  induction width generalizing n with
  | zero => rfl
  | succ width ih => simp [ofNatBE, ih]

/-- A number reads back modulo the width it is written in. -/
theorem natBE_ofNatBE (width n : Nat) : natBE (ofNatBE width n) = n % 256 ^ width := by
  induction width generalizing n with
  | zero => simp [ofNatBE, natBE, Nat.mod_one]
  | succ width ih =>
    have wide : 256 ^ (width + 1) = 256 * 256 ^ width := Nat.pow_succ'
    rw [ofNatBE, natBE_push, ih, UInt8.toNat_ofNat', wide, Nat.mod_mul]
    omega

theorem natBE_ofNatBE_of_lt {width n : Nat} (fits : n < 256 ^ width) : natBE (ofNatBE width n) = n := by
  rw [natBE_ofNatBE, Nat.mod_eq_of_lt fits]

/-- A number that was read is written with the same bytes. -/
theorem ofNatBE_natBE (bytes : Bytes) : ofNatBE bytes.size (natBE bytes) = bytes := by
  generalize wide : bytes.size = width
  induction width generalizing bytes with
  | zero => rw [Array.eq_empty_of_size_eq_zero wide]; rfl
  | succ width ih =>
    obtain ⟨front, byte, rfl⟩ := Array.exists_push_of_size_eq_add_one wide
    have small := byte.toNat_lt
    have quotient : (natBE front * 256 + byte.toNat) / 256 = natBE front := by omega
    have last : UInt8.ofNat (natBE front * 256 + byte.toNat) = byte := by
      apply UInt8.toNat_inj.1
      rw [UInt8.toNat_ofNat']
      omega
    rw [natBE_push, ofNatBE, quotient, last, ih front (by simpa using wide)]

theorem ofNatBE_natAt {bytes : Bytes} {offset width : Nat} (inside : offset + width ≤ bytes.size) :
    ofNatBE width (natAt bytes offset width) = bytes.extract offset (offset + width) := by
  have wide : (bytes.extract offset (offset + width)).size = width := by
    rw [Array.size_extract]
    omega
  have written := ofNatBE_natBE (bytes.extract offset (offset + width))
  rwa [wide] at written

theorem natAt_lt (bytes : Bytes) (offset width : Nat) : natAt bytes offset width < 256 ^ width := by
  refine Nat.lt_of_lt_of_le (natBE_lt _) (Nat.pow_le_pow_right (by decide) ?_)
  rw [Array.size_extract]
  omega

/-- The sign that the top bit gives makes the number the balanced remainder of the one without a sign. -/
theorem signedBE_eq_bmod (bytes : Bytes) : signedBE bytes = Int.bmod (natBE bytes) (256 ^ bytes.size) := by
  obtain ⟨bytes⟩ := bytes
  cases bytes with
  | nil => decide
  | cons byte rest =>
    have below := natBE_lt rest.toArray
    have small := byte.toNat_lt
    have whole := natBE_cons byte rest
    have wide : 256 ^ (rest.length + 1) = 256 * 256 ^ rest.length := Nat.pow_succ'
    rw [List.size_toArray] at below
    simp only [signedBE, List.getElem?_toArray, List.getElem?_cons_zero, Option.getD_some, List.size_toArray,
      List.length_cons, Nat.pow_eq]
    generalize natBE rest.toArray = low at *
    generalize natBE (byte :: rest).toArray = n at *
    by_cases positive : byte.toNat < 128
    · have room : byte.toNat * 256 ^ rest.length ≤ 127 * 256 ^ rest.length := Nat.mul_le_mul_right _ (by omega)
      rw [if_pos positive, Int.bmod_eq_of_le (by omega) (by omega)]
    · have room : 128 * 256 ^ rest.length ≤ byte.toNat * 256 ^ rest.length := Nat.mul_le_mul_right _ (by omega)
      have room' : byte.toNat * 256 ^ rest.length ≤ 255 * 256 ^ rest.length := Nat.mul_le_mul_right _ (by omega)
      rw [if_neg positive, Int.bmod_def, Int.emod_eq_of_lt (by omega) (by omega), if_neg (by omega)]

@[simp] theorem size_ofIntBE (width : Nat) (n : Int) : (ofIntBE width n).size = width := size_ofNatBE _ _

/-- A signed number reads back modulo the width it is written in. -/
theorem signedBE_ofIntBE (width : Nat) (n : Int) : signedBE (ofIntBE width n) = n.bmod (256 ^ width) := by
  have wide : (0 : Int) < ((256 ^ width : Nat) : Int) := by exact_mod_cast Nat.pow_pos (by decide)
  have below := Int.emod_lt_of_pos n wide
  have least := Int.emod_nonneg n (Int.ne_of_gt wide)
  rw [signedBE_eq_bmod, size_ofIntBE, ofIntBE, Nat.pow_eq, natBE_ofNatBE_of_lt (by omega), Int.toNat_of_nonneg least,
    Int.emod_bmod]

end SqliteReader.Bytes
