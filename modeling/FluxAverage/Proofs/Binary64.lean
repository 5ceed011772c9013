-- Binary64 arithmetic as the logical model of `Float` computes it: a valid packed value is its
-- unpacked form packed again. From that follow the identities an exact conversion on one species
-- needs: `x * 1 = x`, `x / x = 1`, `x - 0 = x`, and `0 + x = x` unless `x` is `-0`.
import Mathlib
import FluxAverage.Ledger.KahanSum

open Float.Model (Format totalExponent UnpackedFloat)
open Float.Model.UnpackedFloat

namespace FluxAverage

namespace Binary64

/-! ## The three fields of a packed value -/

theorem toNat_append_add {m n : Nat} (x : BitVec m) (y : BitVec n) :
    (x ++ y).toNat = x.toNat * 2 ^ n + y.toNat := by
  rw [BitVec.toNat_append, ← Nat.shiftLeft_add_eq_or_of_lt y.isLt, Nat.shiftLeft_eq]

@[simp] theorem ofBitVec_toBitVec (s : Sign) : Sign.ofBitVec s.toBitVec = s := by
  cases s <;> rfl

theorem toBitVec_ofBitVec (s : BitVec 1) : (Sign.ofBitVec s).toBitVec = s := by
  have hs : s = 0#1 ∨ s = 1#1 := by
    obtain ⟨n, hn⟩ := s
    have : n = 0 ∨ n = 1 := by omega
    rcases this with rfl | rfl <;> simp
  rcases hs with rfl | rfl <;> rfl

@[simp] theorem unpackSign_packComponents (s : Sign) (E : BitVec 11) (M : BitVec 52) :
    unpackSign (packComponents Format.binary64 s E M) = s.toBitVec := by
  apply BitVec.eq_of_toNat_eq
  have hE : E.toNat < 2048 := E.isLt
  have hM : M.toNat < 4503599627370496 := M.isLt
  have hs : s.toBitVec.toNat < 2 := s.toBitVec.isLt
  simp only [unpackSign, packComponents, toNat_append_add, BitVec.toNat_cast,
    BitVec.extractLsb_toNat, Nat.shiftRight_eq_div_pow]
  simp
  omega

theorem packComponents_fields (b : BitVec Format.binary64.numBits) :
    packComponents Format.binary64 (Sign.ofBitVec (unpackSign b)) (unpackExponent b)
      (unpackMantissa b) = b := by
  apply BitVec.eq_of_toNat_eq
  simp only [packComponents, toBitVec_ofBitVec, toNat_append_add, unpackSign, unpackExponent,
    unpackMantissa, BitVec.toNat_cast, BitVec.extractLsb_toNat, Nat.shiftRight_eq_div_pow]
  have hb : b.toNat < 18446744073709551616 := b.isLt
  simp
  omega

theorem packComponents_of_fields {b : BitVec Format.binary64.numBits} {E : BitVec 11}
    {M : BitVec 52} (hE : unpackExponent b = E) (hM : unpackMantissa b = M) :
    packComponents Format.binary64 (Sign.ofBitVec (unpackSign b)) E M = b := by
  subst hE hM
  exact packComponents_fields b

section Unpack

variable {b : BitVec Format.binary64.numBits}

theorem unpack_infinity (hE : unpackExponent b = -1#11) (hM : unpackMantissa b = 0#52) :
    unpack Format.binary64 b = .infinity (Sign.ofBitVec (unpackSign b)) := by
  simp [unpack, hE, hM]

theorem unpack_notANumber (hE : unpackExponent b = -1#11) (hM : unpackMantissa b ≠ 0#52) :
    unpack Format.binary64 b = .notANumber := by
  simp [unpack, hE, hM]

theorem unpack_zero (hE : unpackExponent b = 0#11) (hM : unpackMantissa b = 0#52) :
    unpack Format.binary64 b = .zero (Sign.ofBitVec (unpackSign b)) := by
  simp [unpack, hE, hM]

theorem unpack_subnormal (hE : unpackExponent b = 0#11) (hM : 0 < (unpackMantissa b).toNat) :
    unpack Format.binary64 b =
      .finite (Sign.ofBitVec (unpackSign b)) (unpackMantissa b).toNat (-1074) hM := by
  have hM' : unpackMantissa b ≠ 0#52 := by
    intro h
    rw [h] at hM
    simp at hM
  simp [unpack, hE, hM', Format.exponentBias]

theorem unpack_normal (h1 : unpackExponent b ≠ -1#11) (h0 : unpackExponent b ≠ 0#11) :
    unpack Format.binary64 b =
      .finite (Sign.ofBitVec (unpackSign b)) (2 ^ 52 + (unpackMantissa b).toNat)
        ((unpackExponent b).toNat - 1075) (by omega) := by
  simp only [unpack, h1, h0, ↓reduceIte, Format.exponentBias]
  congr 1
  rw [toNat_append_add]
  simp

/-- The five kinds of packed value, by their exponent and mantissa fields: infinity,
not-a-number, zero, subnormal and normal. -/
theorem fields_cases (b : BitVec Format.binary64.numBits) :
    (unpackExponent b = -1#11 ∧ unpackMantissa b = 0#52) ∨
      (unpackExponent b = -1#11 ∧ unpackMantissa b ≠ 0#52) ∨
      (unpackExponent b = 0#11 ∧ unpackMantissa b = 0#52) ∨
      (unpackExponent b = 0#11 ∧ 0 < (unpackMantissa b).toNat) ∨
      (unpackExponent b ≠ -1#11 ∧ unpackExponent b ≠ 0#11) := by
  by_cases hE1 : unpackExponent b = -1#11
  · by_cases hM : unpackMantissa b = 0#52
    · exact .inl ⟨hE1, hM⟩
    · exact .inr (.inl ⟨hE1, hM⟩)
  by_cases hE0 : unpackExponent b = 0#11
  · by_cases hM : unpackMantissa b = 0#52
    · exact .inr (.inr (.inl ⟨hE0, hM⟩))
    · refine .inr (.inr (.inr (.inl ⟨hE0, Nat.pos_iff_ne_zero.2 fun h => hM ?_⟩)))
      exact BitVec.eq_of_toNat_eq (by simpa using h)
  · exact .inr (.inr (.inr (.inr ⟨hE1, hE0⟩)))

end Unpack

/-! ## Packing the unpacked form again -/

theorem log2_eq_of_le_of_lt {m k : Nat} (h1 : 2 ^ k ≤ m) (h2 : m < 2 ^ (k + 1)) : m.log2 = k :=
  (Nat.log2_eq_iff (by have := Nat.two_pow_pos k; omega)).2 ⟨h1, h2⟩

theorem pack_subnormal (s : Sign) (M : BitVec 52) (hM : 0 < M.toNat) :
    pack Format.binary64 (.finite s M.toNat (-1074) hM) =
      packComponents Format.binary64 s 0#11 M := by
  have hlt : M.toNat < 2 ^ 52 := M.isLt
  have hlog : M.toNat.log2 < 52 := (Nat.log2_lt (by omega)).2 hlt
  have hbits : Format.binary64.mantissaBits = 53 := rfl
  simp only [pack]
  split
  · rename_i h
    exact absurd h (by decide)
  split
  · rename_i h
    omega
  · congr
    exact BitVec.eq_of_toNat_eq (by simp)

theorem pack_normal (s : Sign) (E : BitVec 11) (M : BitVec 52) (h1 : E ≠ -1#11)
    (h0 : E ≠ 0#11) :
    pack Format.binary64 (.finite s (2 ^ 52 + M.toNat) (E.toNat - 1075) (by omega)) =
      packComponents Format.binary64 s E M := by
  have hM : M.toNat < 2 ^ 52 := M.isLt
  have hE : E.toNat < 2047 := by
    have := E.isLt
    have : E.toNat ≠ 2047 := fun h => h1 (BitVec.eq_of_toNat_eq (by simpa using h))
    omega
  have hE0 : E.toNat ≠ 0 := fun h => h0 (BitVec.eq_of_toNat_eq (by simpa using h))
  have hlog : (2 ^ 52 + M.toNat).log2 = 52 := log2_eq_of_le_of_lt (by omega) (by omega)
  have hb : ((E.toNat : Int) - 1075 + Format.binary64.exponentBias +
      Format.binary64.mantissaBitsWithoutImplicit).toNat = E.toNat := by
    simp only [Format.exponentBias]
    omega
  simp only [pack, hlog, hb]
  split
  · rename_i h
    simp at h
    omega
  split
  · congr 1
    · exact BitVec.eq_of_toNat_eq (by simp)
    · exact BitVec.eq_of_toNat_eq (by simp; omega)
  · rename_i _ h
    exact absurd rfl h

/-- Every valid packed value is packed back from its unpacked form unchanged. -/
theorem pack_unpack {b : BitVec Format.binary64.numBits} (hv : Format.binary64.Valid b) :
    pack Format.binary64 (unpack Format.binary64 b) = b := by
  rcases fields_cases b with ⟨hE, hM⟩ | ⟨hE, hM⟩ | ⟨hE, hM⟩ | ⟨hE, hM⟩ | ⟨hE1, hE0⟩
  · rw [unpack_infinity hE hM]
    exact packComponents_of_fields hE hM
  · rw [unpack_notANumber hE hM]
    exact (hv.eq_packedNaN hE hM).symm
  · rw [unpack_zero hE hM]
    exact packComponents_of_fields hE hM
  · rw [unpack_subnormal hE hM, pack_subnormal]
    exact packComponents_of_fields hE rfl
  · rw [unpack_normal hE1 hE0, pack_normal _ _ _ hE1 hE0]
    exact packComponents_fields b

@[simp] theorem pack_unpack_model (x : Float.Model) : Float.Model.pack x.unpack = x := by
  obtain ⟨bits, hv⟩ := x
  simp only [Float.Model.pack, Float.Model.unpack, pack_unpack hv]

theorem unpack_model_pack (u : UnpackedFloat) :
    (Float.Model.pack u).unpack = unpack Format.binary64 (pack Format.binary64 u) := by
  simp [Float.Model.pack, Float.Model.unpack]

/-! ## Unpacked values are canonical -/

section Finite

variable {b : BitVec Format.binary64.numBits} {s : Sign} {m : Nat} {e : Int} {hm : 0 < m}

/-- A finite value unpacks from a subnormal or a normal packed value, and reads its fields. -/
theorem unpack_eq_finite (h : unpack Format.binary64 b = .finite s m e hm) :
    (unpackExponent b = 0#11 ∧ m = (unpackMantissa b).toNat ∧ e = -1074) ∨
      (unpackExponent b ≠ -1#11 ∧ unpackExponent b ≠ 0#11 ∧
        m = 2 ^ 52 + (unpackMantissa b).toNat ∧ e = (unpackExponent b).toNat - 1075) := by
  rcases fields_cases b with ⟨hE, hM⟩ | ⟨hE, hM⟩ | ⟨hE, hM⟩ | ⟨hE, hM⟩ | ⟨hE1, hE0⟩
  · rw [unpack_infinity hE hM] at h; cases h
  · rw [unpack_notANumber hE hM] at h; cases h
  · rw [unpack_zero hE hM] at h; cases h
  · rw [unpack_subnormal hE hM] at h
    simp only [finite.injEq] at h
    exact .inl ⟨hE, h.2.1.symm, h.2.2.symm⟩
  · rw [unpack_normal hE1 hE0] at h
    simp only [finite.injEq] at h
    exact .inr ⟨hE1, hE0, h.2.1.symm, h.2.2.symm⟩

theorem unpack_finite_shape (h : unpack Format.binary64 b = .finite s m e hm) :
    (m < 2 ^ 52 ∧ e = -1074) ∨ (m.log2 = 52 ∧ -1074 ≤ e) := by
  rcases unpack_eq_finite h with ⟨-, rfl, rfl⟩ | ⟨-, hE0, rfl, rfl⟩
  · exact .inl ⟨(unpackMantissa b).isLt, rfl⟩
  · have hM : (unpackMantissa b).toNat < 2 ^ 52 := (unpackMantissa b).isLt
    have hE0' : (unpackExponent b).toNat ≠ 0 :=
      fun h => hE0 (BitVec.eq_of_toNat_eq (by simpa using h))
    exact .inr ⟨log2_eq_of_le_of_lt (by omega) (by omega), by omega⟩

theorem targetExponent_unpack (h : unpack Format.binary64 b = .finite s m e hm) :
    Format.binary64.targetExponent (totalExponent m e) = e := by
  simp only [Format.targetExponent, totalExponent, Format.mantissaBits, Format.minExponent]
  rcases unpack_finite_shape h with ⟨hlt, rfl⟩ | ⟨hlog, he⟩
  · have : m.log2 < 52 := (Nat.log2_lt (by omega)).2 hlt
    simp
    omega
  · simp [hlog]
    omega

theorem unpack_pack_of_unpack (h : unpack Format.binary64 b = .finite s m e hm) (s' : Sign) :
    unpack Format.binary64 (pack Format.binary64 (.finite s' m e hm)) = .finite s' m e hm := by
  rcases unpack_eq_finite h with ⟨-, rfl, rfl⟩ | ⟨hE1, hE0, rfl, rfl⟩
  · rw [pack_subnormal, unpack_subnormal (by simp) (by simpa using hm)]
    simp
  · rw [pack_normal _ _ _ hE1 hE0, unpack_normal (by simpa using hE1) (by simpa using hE0)]
    simp

end Finite

theorem unpack_abs (x : Float.Model) : x.abs.unpack = x.unpack.abs := by
  rw [Float.Model.abs]
  cases h : x.unpack with
  | notANumber => rfl
  | infinity s => simp only [UnpackedFloat.abs]; rfl
  | zero s => simp only [UnpackedFloat.abs]; rfl
  | finite s m e hm => rw [UnpackedFloat.abs, unpack_model_pack, unpack_pack_of_unpack h]

/-! ## Exact rounding -/

theorem log2_mul_two_pow {m : Nat} (hm : 0 < m) (k : Nat) : (m * 2 ^ k).log2 = m.log2 + k := by
  have h1 := Nat.log2_self_le (Nat.pos_iff_ne_zero.1 hm)
  have h2 := Nat.lt_log2_self (n := m)
  apply log2_eq_of_le_of_lt
  · rw [Nat.pow_add]
    exact Nat.mul_le_mul_right _ h1
  · have hpow : 2 ^ (m.log2 + k + 1) = 2 ^ (m.log2 + 1) * 2 ^ k := by
      rw [← Nat.pow_add, Nat.add_right_comm]
    rw [hpow]
    exact Nat.mul_lt_mul_of_pos_right h2 (Nat.two_pow_pos k)

theorem shiftRight_mul_two_pow (m k : Nat) :
    (⟨m * 2 ^ k, false, false⟩ : ExtendedMantissa) >>> k = ⟨m, false, false⟩ := by
  induction k generalizing m with
  | zero => simp; rfl
  | succ k ih =>
    have hsplit : m * 2 ^ (k + 1) = 2 * m * 2 ^ k := by
      rw [Nat.pow_succ]
      ac_rfl
    show ExtendedMantissa.shiftRightOne (Nat.repeat ExtendedMantissa.shiftRightOne k _) = _
    rw [hsplit]
    change ExtendedMantissa.shiftRightOne
      ((⟨2 * m * 2 ^ k, false, false⟩ : ExtendedMantissa) >>> k) = _
    rw [ih]
    simp [ExtendedMantissa.shiftRightOne]

/-- A canonical value written with `k` more mantissa bits rounds back to itself exactly. -/
theorem roundWithAccuracy_exact (spec : Format) (s : Sign) {m : Nat} (hm : 0 < m) (k : Nat)
    {e : Int} (hc : spec.targetExponent (totalExponent m e) = e) :
    roundWithAccuracy spec s (m * 2 ^ k) (e - k) .exact = .finite s m e hm := by
  have htotal : totalExponent (m * 2 ^ k) (e - k) = totalExponent m e := by
    simp only [totalExponent, log2_mul_two_pow hm]
    omega
  have hshift : (e - (e - k)).toNat = k := by omega
  have hzero : ((⟨m, false, false⟩ : ExtendedMantissa) >>> (0 : Nat)) = ⟨m, false, false⟩ := rfl
  simp only [roundWithAccuracy, shiftToTargetExponent, shiftToExponent, htotal, hc, hshift,
    ExtendedMantissa.ofMantissaAndAccuracy, shiftRight_mul_two_pow, Int.sub_add_cancel,
    ExtendedMantissa.roundedMantissa, ExtendedMantissa.accuracy, Accuracy.roundToNearestEven,
    Int.sub_self]
  simp [hzero, Nat.pos_iff_ne_zero.1 hm]

/-! ## The identities, unpacked -/

@[simp] theorem Sign.mul_positive (s : Sign) : s * .positive = s := by cases s <;> rfl

@[simp] theorem Sign.div_self (s : Sign) : s / s = .positive := by cases s <;> rfl

theorem targetExponent_one :
    Format.binary64.targetExponent (totalExponent (2 ^ 52) (-52)) = -52 := by
  simp only [Format.targetExponent, totalExponent, Nat.log2_two_pow, Format.mantissaBits,
    Format.minExponent]
  decide

/-- Multiplying by one, whose unpacked form is `2 ^ 52` at exponent `-52`, changes no value. -/
theorem mul_unpackedOne (b : BitVec Format.binary64.numBits) :
    mul Format.binary64 (unpack Format.binary64 b) (.finite .positive (2 ^ 52) (-52) (by decide)) =
      unpack Format.binary64 b := by
  cases h : unpack Format.binary64 b with
  | notANumber => rfl
  | infinity s => simp [mul]
  | zero s => simp [mul]
  | finite s m e hm =>
    have he : e + -52 = e - ((52 : Nat) : Int) := by omega
    simp only [mul, Sign.mul_positive, he]
    exact roundWithAccuracy_exact _ _ hm 52 (targetExponent_unpack h)

/-- A finite nonzero value divided by itself is one: the quotient `2 ^ 53` is exact. -/
theorem div_self_finite (s : Sign) {m : Nat} (hm : 0 < m) (e : Int) :
    div Format.binary64 (.finite s m e hm) (.finite s m e hm) =
      .finite .positive (2 ^ 52) (-52) (by decide) := by
  have ht : min 0 (Format.binary64.targetExponent 0) = -53 := by decide
  have hq : m <<< 53 / m = 2 ^ 52 * 2 ^ 1 := by
    rw [Nat.shiftLeft_eq, Nat.mul_div_cancel_left _ hm, ← Nat.pow_add]
  have hr : m <<< 53 % m = 0 := by
    rw [Nat.shiftLeft_eq, Nat.mul_mod_right]
  simp only [div, divCore, accuracyOfFraction, Int.sub_self, Sign.div_self, ht]
  simp only [show (0 - -53 : Int).toNat = 53 from rfl, hq, hr, if_pos]
  rw [show (-53 : Int) = -52 - ((1 : Nat) : Int) from rfl]
  exact roundWithAccuracy_exact _ _ _ 1 targetExponent_one

theorem sub_positiveZero (spec : Format) (u : UnpackedFloat) :
    sub spec u (.zero .positive) = u := by
  cases u with
  | zero s => cases s <;> rfl
  | _ => rfl

theorem positiveZero_add (spec : Format) {u : UnpackedFloat} (h : u ≠ .zero .negative) :
    add spec (.zero .positive) u = u := by
  cases u with
  | zero s => cases s <;> simp_all [add]
  | _ => rfl

/-! ## Signs -/

/-- The sign a value is packed with; not-a-number is packed with a clear sign bit. -/
def sign : UnpackedFloat → Sign
  | .infinity s => s
  | .zero s => s
  | .finite s _ _ _ => s
  | .notANumber => .positive

@[simp] theorem sign_infinity (s : Sign) : sign (.infinity s) = s := rfl
@[simp] theorem sign_zero (s : Sign) : sign (.zero s) = s := rfl
@[simp] theorem sign_finite (s : Sign) (m : Nat) (e : Int) (hm : 0 < m) :
    sign (.finite s m e hm) = s := rfl
@[simp] theorem sign_notANumber : sign .notANumber = .positive := rfl

@[simp] theorem unpackSign_pack (u : UnpackedFloat) :
    unpackSign (pack Format.binary64 u) = (sign u).toBitVec := by
  cases u with
  | notANumber => rfl
  | infinity s => simp [pack, packedInfinity]
  | zero s => simp [pack, packedZero]
  | finite s m e hm =>
    simp only [pack]
    split
    · simp [packedInfinity]
    split <;> simp

theorem sign_unpack {b : BitVec Format.binary64.numBits} (hv : Format.binary64.Valid b) :
    sign (unpack Format.binary64 b) = Sign.ofBitVec (unpackSign b) := by
  rcases fields_cases b with ⟨hE, hM⟩ | ⟨hE, hM⟩ | ⟨hE, hM⟩ | ⟨hE, hM⟩ | ⟨hE1, hE0⟩
  · rw [unpack_infinity hE hM]; rfl
  · rw [unpack_notANumber hE hM, hv.eq_packedNaN hE hM]; rfl
  · rw [unpack_zero hE hM]; rfl
  · rw [unpack_subnormal hE hM]; rfl
  · rw [unpack_normal hE1 hE0]; rfl

@[simp] theorem sign_unpack_pack (u : UnpackedFloat) :
    sign (Float.Model.pack u).unpack = sign u := by
  rw [Float.Model.unpack, sign_unpack (Float.Model.pack u).valid]
  simp [Float.Model.pack]

theorem sign_roundWithAccuracy (spec : Format) (s : Sign) (m : Nat) (e : Int) (a : Accuracy) :
    sign (roundWithAccuracy spec s m e a) = s := by
  simp only [roundWithAccuracy]
  split <;> rfl

theorem sign_mul {spec : Format} {u v : UnpackedFloat} (hu : sign u = .positive)
    (hv : sign v = .positive) : sign (mul spec u v) = .positive := by
  cases u <;> cases v <;> simp_all [mul, sign_roundWithAccuracy]

theorem sign_div {spec : Format} {u v : UnpackedFloat} (hu : sign u = .positive)
    (hv : sign v = .positive) : sign (div spec u v) = .positive := by
  cases u <;> cases v <;> simp_all [div, sign_roundWithAccuracy]

theorem sign_normalize (spec : Format) (n : Nat) (e : Int) :
    sign (UnpackedFloat.normalize spec n e .positive) = .positive := by
  simp only [UnpackedFloat.normalize]
  split
  · rename_i h
    simp [Int.compare_eq_lt] at h
    omega
  · rfl
  · exact sign_roundWithAccuracy ..

theorem sign_ofScientific (spec : Format) (m : Nat) (e : Int) :
    sign (ofScientific spec m e) = .positive := by
  simp only [ofScientific]
  split
  · rfl
  split
  · rfl
  split
  · rfl
  split
  · exact sign_mul rfl rfl
  · exact sign_div rfl rfl

/-! ## The identities on `Float` -/

theorem float_unpack_zero : (Scalar.zero : Float).toModel.unpack = .zero .positive := by
  have h : (Float.ofNat 0).toModel = Float.Model.pack (.zero .positive) := by decide +kernel
  show (Float.ofNat 0).toModel.unpack = _
  rw [h]
  rfl

theorem float_one_eq :
    (Scalar.one : Float) = ⟨Float.Model.pack (.finite .positive (2 ^ 52) (-52) (by decide))⟩ := by
  show Float.ofNat 1 = _
  decide +kernel

theorem float_unpack_one :
    (Scalar.one : Float).toModel.unpack = .finite .positive (2 ^ 52) (-52) (by decide) := by
  rw [float_one_eq]
  rfl

theorem float_add_eq (x y : Float) :
    x + y = ⟨Float.Model.pack (add Format.binary64 x.toModel.unpack y.toModel.unpack)⟩ := rfl

theorem float_sub_eq (x y : Float) :
    x - y = ⟨Float.Model.pack (sub Format.binary64 x.toModel.unpack y.toModel.unpack)⟩ := rfl

theorem float_sub_zero (x : Float) : x - Scalar.zero = x := by
  rw [float_sub_eq, float_unpack_zero, sub_positiveZero, pack_unpack_model]

theorem float_zero_add {x : Float} (h : x.toModel.unpack ≠ .zero .negative) :
    Scalar.zero + x = x := by
  rw [float_add_eq, float_unpack_zero, positiveZero_add _ h, pack_unpack_model]

theorem float_mul_one (x : Float) : x * Scalar.one = x := by
  show Float.ofModel (Float.Model.pack (mul Format.binary64 x.toModel.unpack
    (Scalar.one : Float).toModel.unpack)) = x
  rw [float_unpack_one, Float.Model.unpack, mul_unpackedOne, ← Float.Model.unpack,
    pack_unpack_model]

theorem float_unpack_finite {x : Float} (hf : x.isFinite = true) (hz : (x == 0) = false) :
    ∃ s m e hm, x.toModel.unpack = .finite s m e hm := by
  cases h : x.toModel.unpack with
  | finite s m e hm => exact ⟨s, m, e, hm, rfl⟩
  | notANumber => simp [Float.isFinite, Float.Model.isFinite, h, isFinite] at hf
  | infinity s => simp [Float.isFinite, Float.Model.isFinite, h, isFinite] at hf
  | zero s =>
    have h0 : (0 : Float).toModel.unpack = .zero .positive := float_unpack_zero
    simp [BEq.beq, Float.beq, Float.Model.beq, h, h0, UnpackedFloat.beq,
      UnpackedFloat.compare] at hz
    exact absurd hz (by decide)

theorem float_div_self {x : Float} (hf : x.isFinite = true) (hz : (x == 0) = false) :
    x / x = Scalar.one := by
  obtain ⟨s, m, e, hm, h⟩ := float_unpack_finite hf hz
  show Float.ofModel (Float.Model.pack (div Format.binary64 x.toModel.unpack x.toModel.unpack)) = _
  rw [h, div_self_finite, float_one_eq]

theorem float_abs_le_zero {x : Float} (hf : x.isFinite = true) (hz : (x == 0) = false) :
    Scalar.le (Scalar.abs x) (Scalar.zero : Float) = false := by
  obtain ⟨s, m, e, hm, h⟩ := float_unpack_finite hf hz
  have habs : (Float.abs x).toModel = x.toModel.abs := rfl
  show decide (Float.abs x ≤ Scalar.zero) = false
  simp only [LE.le, Float.le, Float.Model.le, habs, unpack_abs, h, float_unpack_zero]
  rfl

theorem float_sign_mul {x y : Float} (hx : sign x.toModel.unpack = .positive)
    (hy : sign y.toModel.unpack = .positive) : sign (x * y).toModel.unpack = .positive := by
  show sign (Float.Model.pack (mul Format.binary64 x.toModel.unpack y.toModel.unpack)).unpack = _
  rw [sign_unpack_pack]
  exact sign_mul hx hy

theorem float_sign_div {x y : Float} (hx : sign x.toModel.unpack = .positive)
    (hy : sign y.toModel.unpack = .positive) : sign (x / y).toModel.unpack = .positive := by
  show sign (Float.Model.pack (div Format.binary64 x.toModel.unpack y.toModel.unpack)).unpack = _
  rw [sign_unpack_pack]
  exact sign_div hx hy

theorem float_sign_powersOfTen (i : Nat) (h : i < Float.exactlyRepresentablePowersOfTen.size) :
    sign (Float.exactlyRepresentablePowersOfTen[i]).toModel.unpack = .positive := by
  have hall : Float.exactlyRepresentablePowersOfTen.all
      (fun x => @unpackSign Format.binary64 x.toModel.toBits.toBitVec == 0#1) = true := by
    decide +kernel
  have hi := Array.all_eq_true.1 hall i h
  rw [Float.Model.unpack, sign_unpack (Float.exactlyRepresentablePowersOfTen[i]).toModel.valid]
  simp only [beq_iff_eq] at hi
  rw [hi]
  rfl

/-- Every decimal literal has a clear sign bit, on the fast path and the exact one alike. -/
theorem float_sign_ofScientific (m : Nat) (s : Bool) (e : Nat) :
    sign (OfScientific.ofScientific m s e : Float).toModel.unpack = .positive := by
  show sign (Float.ofScientific m s e).toModel.unpack = _
  unfold Float.ofScientific
  split
  · have ht : sign m.toUInt64.toFloat.toModel.unpack = .positive := by
      show sign (Float.Model.pack (ofUInt64 Format.binary64 m.toUInt64)).unpack = _
      rw [sign_unpack_pack]
      exact sign_normalize _ _ _
    split
    · exact float_sign_div ht (float_sign_powersOfTen _ _)
    · exact float_sign_mul ht (float_sign_powersOfTen _ _)
  · show sign (Float.Model.pack (ofScientific Format.binary64 m _)).unpack = _
    rw [sign_unpack_pack]
    exact sign_ofScientific _ _ _

theorem float_sign_ofNat (n : Nat) : sign (Scalar.ofNat n : Float).toModel.unpack = .positive :=
  float_sign_ofScientific n false 0

/-- One term added to the empty compensated sum is the sum, unless it is `-0`. -/
theorem float_value_add_empty {x : Float} (hx : sign x.toModel.unpack = .positive) :
    (KahanSum.empty.add x).value = x := by
  have hne : x.toModel.unpack ≠ .zero .negative := fun h => by
    rw [h] at hx
    cases hx
  show Scalar.zero + (x - Scalar.zero) = x
  rw [float_sub_zero, float_zero_add hne]

end Binary64

end FluxAverage
