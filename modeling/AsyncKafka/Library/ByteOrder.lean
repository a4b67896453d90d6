import Mathlib.Tactic

/-!
# Network byte order

Fixed-width integers as sequences of bytes, most significant byte first, and
the two's complement reading of such a sequence.  The truncation lemmas say
what is read when only the leading bytes of an integer are present and the
missing ones are zero.  Last comes the checksum of IEEE 802.3 in its reflected
form, bit by bit.
-/

namespace ByteOrder

/-- The `width` lowest bytes of a number, most significant first. -/
def toBigEndian : Nat → Nat → List UInt8
  | 0, _ => []
  | width + 1, value =>
      UInt8.ofNat (value / 256 ^ width) :: toBigEndian width value

/-- The number spelled by a byte sequence, most significant byte first. -/
def ofBigEndian : List UInt8 → Nat
  | [] => 0
  | byte :: bytes => byte.toNat * 256 ^ bytes.length + ofBigEndian bytes

@[simp] theorem length_toBigEndian (width value : Nat) :
    (toBigEndian width value).length = width := by
  induction width with
  | zero => rfl
  | succ width inductionHypothesis => simp [toBigEndian, inductionHypothesis]

@[simp] theorem ofBigEndian_nil : ofBigEndian [] = 0 := rfl

theorem ofBigEndian_append (first second : List UInt8) :
    ofBigEndian (first ++ second) =
      ofBigEndian first * 256 ^ second.length + ofBigEndian second := by
  induction first with
  | nil => simp
  | cons byte bytes inductionHypothesis =>
      simp only [List.cons_append, ofBigEndian, inductionHypothesis,
        List.length_append, Nat.pow_add]
      ring

@[simp] theorem ofBigEndian_replicate_zero (count : Nat) :
    ofBigEndian (List.replicate count 0) = 0 := by
  induction count with
  | zero => rfl
  | succ count inductionHypothesis =>
      simp [List.replicate_succ, ofBigEndian, inductionHypothesis]

/-- Reading back the low bytes of a number gives it modulo their range. -/
theorem ofBigEndian_toBigEndian (width value : Nat) :
    ofBigEndian (toBigEndian width value) = value % 256 ^ width := by
  induction width with
  | zero => simp [toBigEndian, Nat.mod_one]
  | succ width inductionHypothesis =>
      have byteValue :
          (UInt8.ofNat (value / 256 ^ width)).toNat =
            value / 256 ^ width % 256 := UInt8.toNat_ofNat'
      rw [toBigEndian, ofBigEndian, length_toBigEndian, byteValue,
        inductionHypothesis, Nat.pow_succ, Nat.mod_mul]
      ring

/-- The leading bytes of a number spell its quotient. -/
theorem take_toBigEndian
    {present width : Nat}
    (within : present ≤ width)
    (value : Nat) :
    (toBigEndian width value).take present =
      toBigEndian present (value / 256 ^ (width - present)) := by
  induction present generalizing width with
  | zero => simp [toBigEndian]
  | succ present inductionHypothesis =>
      obtain ⟨width, rfl⟩ : ∃ smaller, width = smaller + 1 :=
        ⟨width - 1, by omega⟩
      have smaller : present ≤ width := by omega
      have tail := inductionHypothesis smaller
      have exponent :
          256 ^ (width - present) * 256 ^ present = 256 ^ width := by
        rw [← Nat.pow_add]
        congr 1
        omega
      simp only [toBigEndian, List.take_succ_cons, tail,
        Nat.add_sub_add_right, Nat.div_div_eq_div_mul, exponent]

/-- Reduce an integer to the representable range of a signed `bits`-wide
integer, as a conversion to that type does. -/
def wrap (bits : Nat) (value : Int) : Int :=
  (value + 2 ^ (bits - 1)) % 2 ^ bits - 2 ^ (bits - 1)

theorem two_pow_eq_add {bits : Nat} (positive : 0 < bits) :
    (2 : Int) ^ bits = 2 ^ (bits - 1) + 2 ^ (bits - 1) := by
  obtain ⟨rest, rfl⟩ : ∃ rest, bits = rest + 1 := ⟨bits - 1, by omega⟩
  rw [Nat.add_sub_cancel, pow_succ]
  ring

theorem wrap_of_range
    {bits : Nat}
    {value : Int}
    (positive : 0 < bits)
    (lower : -(2 ^ (bits - 1)) ≤ value)
    (upper : value < 2 ^ (bits - 1)) :
    wrap bits value = value := by
  have double := two_pow_eq_add positive
  unfold wrap
  rw [Int.emod_eq_of_lt (by omega) (by omega)]
  omega

/-- A wrapped integer is not below its range. -/
theorem le_wrap (bits : Nat) (value : Int) :
    -(2 ^ (bits - 1)) ≤ wrap bits value := by
  have modulusPositive : (0 : Int) < 2 ^ bits := by positivity
  have residue :=
    Int.emod_nonneg (value + 2 ^ (bits - 1)) modulusPositive.ne'
  unfold wrap
  omega

/-- A wrapped integer is not above its range. -/
theorem wrap_lt {bits : Nat} (positive : 0 < bits) (value : Int) :
    wrap bits value < 2 ^ (bits - 1) := by
  have double := two_pow_eq_add positive
  have residue := Int.emod_lt_of_pos (value + 2 ^ (bits - 1))
    (show (0 : Int) < 2 ^ bits by positivity)
  unfold wrap
  omega

/-- Exactly the integers of the range are left as they are. -/
theorem wrap_eq_self_iff {bits : Nat} (positive : 0 < bits) (value : Int) :
    wrap bits value = value ↔
      -(2 ^ (bits - 1)) ≤ value ∧ value < 2 ^ (bits - 1) := by
  constructor
  · intro same
    rw [← same]
    exact ⟨le_wrap bits value, wrap_lt positive value⟩
  · rintro ⟨lower, upper⟩
    exact wrap_of_range positive lower upper

/-- The `width` bytes of a signed integer in two's complement. -/
def writeSigned (width : Nat) (value : Int) : List UInt8 :=
  toBigEndian width (value % 256 ^ width).toNat

/-- The signed integer spelled by a byte sequence in two's complement. -/
def readSigned (bytes : List UInt8) : Int :=
  wrap (8 * bytes.length) (ofBigEndian bytes)

@[simp] theorem length_writeSigned (width : Nat) (value : Int) :
    (writeSigned width value).length = width := by
  simp [writeSigned]

/-- Zeros spell zero. -/
theorem readSigned_replicate_zero {width : Nat} (positive : 0 < width) :
    readSigned (List.replicate width 0) = 0 := by
  have powPositive : (0 : Int) < 2 ^ (8 * width - 1) := by positivity
  rw [readSigned, ofBigEndian_replicate_zero, List.length_replicate]
  exact wrap_of_range (by omega) (by omega) powPositive

/-- Wrapping only depends on the residue of its argument. -/
theorem wrap_eq_of_emod_eq
    {bits : Nat}
    {first second : Int}
    (congruent : first % 2 ^ bits = second % 2 ^ bits) :
    wrap bits first = wrap bits second := by
  unfold wrap
  rw [Int.add_emod, congruent, ← Int.add_emod]

theorem pow_256_eq_two_pow (width : Nat) :
    (256 : Int) ^ width = 2 ^ (8 * width) := by
  rw [pow_mul]
  norm_num

theorem ofBigEndian_writeSigned (width : Nat) (value : Int) :
    (ofBigEndian (writeSigned width value) : Int) = value % 256 ^ width := by
  have positive : (0 : Int) < 256 ^ width := by positivity
  have nonnegative := Int.emod_nonneg value positive.ne'
  have bounded := Int.emod_lt_of_pos value positive
  have toNatBound : (value % 256 ^ width).toNat < 256 ^ width := by
    zify
    rwa [Int.toNat_of_nonneg nonnegative]
  rw [writeSigned, ofBigEndian_toBigEndian, Nat.mod_eq_of_lt toNatBound,
    Int.toNat_of_nonneg nonnegative]

/-- A signed integer in range survives being written and read. -/
theorem readSigned_writeSigned
    {width : Nat}
    {value : Int}
    (positive : 0 < width)
    (lower : -(2 ^ (8 * width - 1)) ≤ value)
    (upper : value < 2 ^ (8 * width - 1)) :
    readSigned (writeSigned width value) = value := by
  rw [readSigned, length_writeSigned, ofBigEndian_writeSigned,
    pow_256_eq_two_pow]
  rw [wrap_eq_of_emod_eq (Int.emod_emod_of_dvd value dvd_rfl)]
  exact wrap_of_range (by omega) lower upper

/-- Rounding down to a multiple of a divisor of the modulus commutes with
reduction, up to the modulus. -/
theorem emod_ediv_mul_emod
    {modulus step : Int}
    (stepPositive : 0 < step)
    (divides : step ∣ modulus)
    (value : Int) :
    value % modulus / step * step % modulus = value / step * step % modulus := by
  obtain ⟨ratio, rfl⟩ := divides
  have split : value / step = value % (step * ratio) / step +
      value / (step * ratio) * ratio := by
    conv_lhs => rw [← Int.emod_add_mul_ediv value (step * ratio)]
    rw [Int.mul_assoc, Int.add_mul_ediv_left _ _ stepPositive.ne']
    ring
  rw [split, Int.add_mul, Int.mul_assoc (value / (step * ratio)),
    Int.mul_comm ratio step, Int.add_mul_emod_self_right]

/-- When only the leading bytes of a signed integer are present and zeros
stand for the rest, what is read is the integer rounded down. -/
theorem readSigned_truncated
    {present width : Nat}
    {value : Int}
    (some : 0 < present)
    (within : present ≤ width)
    (lower : -(2 ^ (8 * width - 1)) ≤ value)
    (upper : value < 2 ^ (8 * width - 1)) :
    readSigned ((writeSigned width value).take present ++
        List.replicate (width - present) 0) =
      value / 256 ^ (width - present) * 256 ^ (width - present) := by
  set missing := width - present with missingEq
  have powPositive : (0 : Int) < 256 ^ missing := by positivity
  have modulusPositive : (0 : Int) < 256 ^ width := by positivity
  have residueNonnegative := Int.emod_nonneg value modulusPositive.ne'
  have residueBound := Int.emod_lt_of_pos value modulusPositive
  have widthSplit : (256 : Int) ^ width = 256 ^ present * 256 ^ missing := by
    rw [← pow_add]
    congr 1
    omega
  -- The bytes present spell the quotient of the residue.
  have spelled : (ofBigEndian ((writeSigned width value).take present ++
      List.replicate missing 0) : Int) =
        value % 256 ^ width / 256 ^ missing * 256 ^ missing := by
    have quotientBound :
        (value % 256 ^ width).toNat / 256 ^ missing < 256 ^ present := by
      apply Nat.div_lt_of_lt_mul
      zify
      rw [Int.toNat_of_nonneg residueNonnegative, mul_comm, ← widthSplit]
      exact residueBound
    rw [ofBigEndian_append, ofBigEndian_replicate_zero, List.length_replicate,
      writeSigned, take_toBigEndian within, ← missingEq,
      ofBigEndian_toBigEndian, Nat.mod_eq_of_lt quotientBound]
    push_cast
    rw [Int.toNat_of_nonneg residueNonnegative, add_zero]
  -- The lower end of the range is itself a multiple of the rounding step.
  have lowest : -(2 ^ (8 * width - 1)) ≤
      value / 256 ^ missing * 256 ^ missing := by
    have factor : (2 : Int) ^ (8 * width - 1) =
        2 ^ (8 * present - 1) * 256 ^ missing := by
      rw [pow_256_eq_two_pow, ← pow_add]
      congr 1
      omega
    have quotientLower : -(2 ^ (8 * present - 1)) ≤ value / 256 ^ missing := by
      apply Int.le_ediv_of_mul_le powPositive
      rw [Int.neg_mul, ← factor]
      exact lower
    rw [factor, ← Int.neg_mul]
    exact Int.mul_le_mul_of_nonneg_right quotientLower powPositive.le
  have highest : value / 256 ^ missing * 256 ^ missing < 2 ^ (8 * width - 1) :=
    lt_of_le_of_lt (Int.ediv_mul_le value powPositive.ne') upper
  have lengthEq : ((writeSigned width value).take present ++
      List.replicate missing 0).length = width := by
    simp only [List.length_append, List.length_take, length_writeSigned,
      List.length_replicate]
    omega
  rw [readSigned, lengthEq, spelled]
  have congruent := emod_ediv_mul_emod powPositive
    (Dvd.intro_left (256 ^ present) widthSplit.symm) value
  rw [pow_256_eq_two_pow width] at congruent ⊢
  rw [wrap_eq_of_emod_eq congruent]
  exact wrap_of_range (by omega) lowest highest

end ByteOrder

namespace Crc32

/-- Shift one bit out of the register. -/
def shift (register : UInt32) : UInt32 :=
  if register &&& 1 = 1 then (register >>> 1) ^^^ 0xEDB88320
  else register >>> 1

/-- Feed one byte to the register. -/
def feed (register : UInt32) (byte : UInt8) : UInt32 :=
  shift^[8] (register ^^^ byte.toUInt32)

/-- The checksum of a byte sequence. -/
def checksum (bytes : List UInt8) : UInt32 :=
  bytes.foldl feed 0xFFFFFFFF ^^^ 0xFFFFFFFF

/-- The check value of the standard, the checksum of `123456789`. -/
example : checksum [49, 50, 51, 52, 53, 54, 55, 56, 57] = 0xCBF43926 := by
  decide +kernel

end Crc32
