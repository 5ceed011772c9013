-- Whole numbers in binary64. Below `2 ^ 53` the decimal reader builds them exactly, and two of
-- them add and subtract to the exact result while it stays below `2 ^ 53`; so a compensated sum
-- of ones counts exactly, its correction staying zero.
import FluxAverage.Proofs.Binary64
import FluxAverage.Proofs.Ledger

open Float.Model (Format totalExponent UnpackedFloat)
open Float.Model.UnpackedFloat

namespace FluxAverage

namespace Binary64

/-! ## Exact rounding of whole values -/

theorem targetExponent_mul_two_pow (spec : Format) {m : Nat} (hm : 0 < m) (j : Nat) (e : Int) :
    spec.targetExponent (totalExponent (m * 2 ^ j) (e - j)) =
      spec.targetExponent (totalExponent m e) := by
  simp only [totalExponent, log2_mul_two_pow hm]
  congr 1
  omega

theorem round_eq_finite (spec : Format) (s : Sign) {m : Nat} (hm : 0 < m) (j : Nat) {e : Int}
    (hT : spec.targetExponent (totalExponent m e) ≤ e) :
    UnpackedFloat.round spec s (m * 2 ^ j) (e - j) =
      .finite s (m * 2 ^ (e - spec.targetExponent (totalExponent m e)).toNat)
        (spec.targetExponent (totalExponent m e)) (Nat.mul_pos hm (Nat.two_pow_pos _)) := by
  set T := spec.targetExponent (totalExponent m e) with hTdef
  set d := (e - T).toNat with hd
  have hM : 0 < m * 2 ^ d := Nat.mul_pos hm (Nat.two_pow_pos _)
  have hc : spec.targetExponent (totalExponent (m * 2 ^ d) T) = T := by
    have := targetExponent_mul_two_pow spec hm d e
    rwa [show e - (d : Int) = T by omega] at this
  simp only [UnpackedFloat.round, decreaseExponent, targetExponent_mul_two_pow spec hm j e, ← hTdef]
  by_cases hj : (j : Int) ≤ e - T
  · have hshift : (m * 2 ^ j) <<< (e - j - T).toNat = (m * 2 ^ d) * 2 ^ 0 := by
      rw [Nat.shiftLeft_eq, Nat.mul_assoc, ← Nat.pow_add, pow_zero, Nat.mul_one]
      congr 2
      omega
    rw [hshift, show e - j - ((e - j - T).toNat : Int) = T - ((0 : Nat) : Int) by omega]
    exact roundWithAccuracy_exact spec s hM 0 hc
  · -- the exponent is already below the target, and rounding shifts exact zeros out
    have hshift : (m * 2 ^ j) <<< (e - j - T).toNat = (m * 2 ^ d) * 2 ^ (j - d) := by
      rw [show (e - j - T).toNat = 0 by omega, Nat.shiftLeft_zero, Nat.mul_assoc, ← Nat.pow_add]
      congr 2
      omega
    rw [hshift, show e - j - ((e - j - T).toNat : Int) = T - ((j - d : Nat) : Int) by omega]
    exact roundWithAccuracy_exact spec s hM (j - d) hc

/-- Trailing zero bits of the mantissa do not change the rounded value. -/
theorem round_mul_two_pow (spec : Format) (s : Sign) {m : Nat} (hm : 0 < m) (j : Nat) {e : Int}
    (hT : spec.targetExponent (totalExponent m e) ≤ e) :
    UnpackedFloat.round spec s (m * 2 ^ j) (e - j) = UnpackedFloat.round spec s m e := by
  have h0 := round_eq_finite spec s hm 0 hT
  simp only [pow_zero, Nat.mul_one, Nat.cast_zero, Int.sub_zero] at h0
  rw [round_eq_finite spec s hm j hT, h0]

/-! ## Whole numbers -/

theorem log2_le_of_lt {n : Nat} (hn : n < 2 ^ 53) : n.log2 ≤ 52 := by
  rcases Nat.eq_zero_or_pos n with rfl | hn0
  · simp
  · exact Nat.le_of_lt_succ ((Nat.log2_lt (by omega)).2 hn)

theorem targetExponent_nat (n : Nat) :
    Format.binary64.targetExponent (totalExponent n 0) = n.log2 - 52 := by
  simp only [Format.targetExponent, totalExponent, Format.mantissaBits, Format.minExponent]
  simp
  omega

theorem normalize_natCast (spec : Format) {m : Nat} (hm : 0 < m) (e : Int) (z : Sign) :
    UnpackedFloat.normalize spec (m : Int) e z = UnpackedFloat.round spec .positive m e := by
  have hc : compare (m : Int) 0 = .gt := by
    rw [Int.compare_eq_gt]; omega
  simp only [UnpackedFloat.normalize, hc, Int.toNat_natCast]

theorem ofNat_eq_round {n : Nat} (hn : 0 < n) :
    UnpackedFloat.ofNat Format.binary64 n = UnpackedFloat.round Format.binary64 .positive n 0 :=
  normalize_natCast _ hn 0 _

/-- A whole number below `2 ^ 53` is its 53-bit mantissa at an exponent between `-52` and `0`. -/
theorem ofNat_eq_finite {n : Nat} (hn0 : 0 < n) (hn : n < 2 ^ 53) :
    UnpackedFloat.ofNat Format.binary64 n =
      .finite .positive (n * 2 ^ (52 - n.log2)) (n.log2 - 52) (Nat.mul_pos hn0 (Nat.two_pow_pos _)) := by
  have hlog := log2_le_of_lt hn
  have hT := targetExponent_nat n
  have h := round_eq_finite Format.binary64 .positive hn0 0 (e := 0) (by omega)
  simp only [pow_zero, Nat.mul_one, Nat.cast_zero, Int.sub_zero, hT,
    show (0 - ((n.log2 : Int) - 52)).toNat = 52 - n.log2 by omega] at h
  rw [ofNat_eq_round hn0, h]

/-! ## Sums and differences of whole numbers -/

theorem add_finite_positive (spec : Format) {m₁ m₂ : Nat} {e₁ e₂ : Int} (h₁ : 0 < m₁)
    (h₂ : 0 < m₂) :
    add spec (.finite .positive m₁ e₁ h₁) (.finite .positive m₂ e₂ h₂) =
      UnpackedFloat.normalize spec ((m₁ * 2 ^ (e₁ - min e₁ e₂).toNat +
        m₂ * 2 ^ (e₂ - min e₁ e₂).toNat : Nat) : Int) (min e₁ e₂) .positive := by
  simp [UnpackedFloat.add, decreaseExponent, Sign.apply, Nat.shiftLeft_eq]

theorem sub_finite_positive (spec : Format) {m₁ m₂ : Nat} {e₁ e₂ : Int} (h₁ : 0 < m₁)
    (h₂ : 0 < m₂) :
    sub spec (.finite .positive m₁ e₁ h₁) (.finite .positive m₂ e₂ h₂) =
      UnpackedFloat.normalize spec (((m₁ * 2 ^ (e₁ - min e₁ e₂).toNat : Nat) : Int) -
        ((m₂ * 2 ^ (e₂ - min e₁ e₂).toNat : Nat) : Int)) (min e₁ e₂) .positive := by
  simp [UnpackedFloat.sub, decreaseExponent, Sign.apply, Nat.shiftLeft_eq]

/-- A whole number brought down to the exponent of a smaller one. -/
theorem canonical_at {n μ : Nat} (hμ : μ ≤ n.log2) (hl : n.log2 ≤ 52) :
    n * 2 ^ (52 - n.log2) * 2 ^ ((n.log2 : Int) - 52 - ((μ : Int) - 52)).toNat =
      n * 2 ^ (52 - μ) := by
  rw [show ((n.log2 : Int) - 52 - ((μ : Int) - 52)).toNat = n.log2 - μ by omega, Nat.mul_assoc,
    ← Nat.pow_add]
  congr 2
  omega

/-- A whole number written at a lower exponent rounds to the whole number. -/
theorem normalize_whole {n μ : Nat} (hn : 0 < n) (hn' : n < 2 ^ 53) (hμ : μ ≤ 52) :
    UnpackedFloat.normalize Format.binary64 ((n * 2 ^ (52 - μ) : Nat) : Int) ((μ : Int) - 52)
      .positive = UnpackedFloat.ofNat Format.binary64 n := by
  rw [normalize_natCast _ (Nat.mul_pos hn (Nat.two_pow_pos _)),
    show (μ : Int) - 52 = 0 - ((52 - μ : Nat) : Int) by omega,
    round_mul_two_pow _ _ hn _ (by rw [targetExponent_nat]; have := log2_le_of_lt hn'; omega),
    ← ofNat_eq_round hn]

theorem add_ofNat {a b : Nat} (ha : 0 < a) (hb : 0 < b) (hab : a + b < 2 ^ 53) :
    add Format.binary64 (UnpackedFloat.ofNat Format.binary64 a)
      (UnpackedFloat.ofNat Format.binary64 b) = UnpackedFloat.ofNat Format.binary64 (a + b) := by
  have hla := log2_le_of_lt (n := a) (by omega)
  have hlb := log2_le_of_lt (n := b) (by omega)
  rw [ofNat_eq_finite ha (by omega), ofNat_eq_finite hb (by omega), add_finite_positive,
    show min ((a.log2 : Int) - 52) ((b.log2 : Int) - 52) = ((min a.log2 b.log2 : Nat) : Int) - 52
      by omega,
    canonical_at (Nat.min_le_left _ _) hla, canonical_at (Nat.min_le_right _ _) hlb, ← Nat.add_mul,
    normalize_whole (by omega) hab (by omega)]

theorem sub_ofNat {a b : Nat} (hb : 0 < b) (hab : b < a) (ha : a < 2 ^ 53) :
    sub Format.binary64 (UnpackedFloat.ofNat Format.binary64 a)
      (UnpackedFloat.ofNat Format.binary64 b) = UnpackedFloat.ofNat Format.binary64 (a - b) := by
  have hla := log2_le_of_lt ha
  have hlb := log2_le_of_lt (n := b) (by omega)
  rw [ofNat_eq_finite (by omega) ha, ofNat_eq_finite hb (by omega), sub_finite_positive,
    show min ((a.log2 : Int) - 52) ((b.log2 : Int) - 52) = ((min a.log2 b.log2 : Nat) : Int) - 52
      by omega,
    canonical_at (Nat.min_le_left _ _) hla, canonical_at (Nat.min_le_right _ _) hlb,
    ← Nat.cast_sub (Nat.mul_le_mul_right _ hab.le), ← Nat.sub_mul,
    normalize_whole (by omega) (by omega) (by omega)]

theorem sub_ofNat_self {a : Nat} (ha0 : 0 < a) (ha : a < 2 ^ 53) :
    sub Format.binary64 (UnpackedFloat.ofNat Format.binary64 a)
      (UnpackedFloat.ofNat Format.binary64 a) = .zero .positive := by
  rw [ofNat_eq_finite ha0 ha, sub_finite_positive, Int.sub_self]
  rfl

/-! ## Whole numbers as `Float` values -/

theorem ofNat_zero : UnpackedFloat.ofNat Format.binary64 0 = .zero .positive := rfl

/-- A normal value, a 53-bit mantissa at an exponent of the normal range, packs and unpacks
back to itself. -/
theorem unpack_pack_normal (s : Sign) {m : Nat} (hm : m.log2 = 52) {e : Int} (he1 : -1074 ≤ e)
    (he2 : e ≤ 971) (hpos : 0 < m) :
    unpack Format.binary64 (pack Format.binary64 (.finite s m e hpos)) = .finite s m e hpos := by
  have hbits := (Nat.log2_eq_iff (Nat.pos_iff_ne_zero.1 hpos)).1 hm
  obtain ⟨M, rfl⟩ : ∃ M : BitVec 52, m = 2 ^ 52 + M.toNat :=
    ⟨BitVec.ofNat 52 (m - 2 ^ 52), by rw [BitVec.toNat_ofNat]; omega⟩
  have hE : ∀ k : Nat, k = 0 ∨ k = 2047 → (e + 1075).toNat % 2 ^ 11 ≠ k := by
    intro k hk
    omega
  obtain ⟨E, rfl, h1, h0⟩ : ∃ E : BitVec 11, e = E.toNat - 1075 ∧ E ≠ -1#11 ∧ E ≠ 0#11 := by
    refine ⟨BitVec.ofNat 11 (e + 1075).toNat, ?_, fun h => ?_, fun h => ?_⟩
    · rw [BitVec.toNat_ofNat]
      omega
    · have := congrArg BitVec.toNat h
      rw [BitVec.toNat_ofNat] at this
      exact hE 2047 (.inr rfl) (by simpa using this)
    · have := congrArg BitVec.toNat h
      rw [BitVec.toNat_ofNat] at this
      exact hE 0 (.inl rfl) (by simpa using this)
  rw [pack_normal s E M h1 h0, unpack_normal (by simpa using h1) (by simpa using h0)]
  simp

theorem powersOfTen_zero : Float.exactlyRepresentablePowersOfTen[0] = Scalar.one := by
  decide +kernel

/-- A whole number below `2 ^ 53` takes the fast path of the decimal reader, a product by one,
which leaves its rounded value as it is. -/
theorem toModel_ofNat {n : Nat} (hn : n < 2 ^ 53) :
    (Scalar.ofNat n : Float).toModel = Float.Model.pack (UnpackedFloat.ofNat Format.binary64 n) := by
  have hu : n.toUInt64.toNat = n := by
    rw [Nat.toUInt64, UInt64.toNat_ofNat']
    exact Nat.mod_eq_of_lt (by omega)
  show (Float.ofScientific n false 0).toModel = _
  rw [Float.ofScientific, dif_pos ⟨hn, by decide⟩]
  show (Float.Model.pack (mul Format.binary64
    (Float.Model.pack (UnpackedFloat.ofUInt64 Format.binary64 n.toUInt64)).unpack
    Float.exactlyRepresentablePowersOfTen[0].toModel.unpack)) = _
  rw [powersOfTen_zero, float_unpack_one, Float.Model.unpack, mul_unpackedOne, ← Float.Model.unpack,
    pack_unpack_model, ofUInt64, hu]

theorem float_unpack_ofNat {n : Nat} (hn : n < 2 ^ 53) :
    (Scalar.ofNat n : Float).toModel.unpack = UnpackedFloat.ofNat Format.binary64 n := by
  rcases Nat.eq_zero_or_pos n with rfl | hn0
  · exact float_unpack_zero
  have hl := log2_le_of_lt hn
  rw [toModel_ofNat hn, unpack_model_pack, ofNat_eq_finite hn0 hn,
    unpack_pack_normal _ (by rw [log2_mul_two_pow hn0]; omega) (by omega) (by omega)]

theorem float_ofNat_add {a b : Nat} (hb : 0 < b) (hab : a + b < 2 ^ 53) :
    (Scalar.ofNat a : Float) + Scalar.ofNat b = Scalar.ofNat (a + b) := by
  rw [float_add_eq, float_unpack_ofNat (by omega), float_unpack_ofNat (by omega)]
  rcases Nat.eq_zero_or_pos a with rfl | ha
  · rw [ofNat_zero, positiveZero_add _ (by rw [ofNat_eq_finite hb (by omega)]; simp),
      ← toModel_ofNat (by omega), Nat.zero_add]
  · rw [add_ofNat ha hb hab, ← toModel_ofNat hab]

theorem float_ofNat_sub {a b : Nat} (hab : b < a) (ha : a < 2 ^ 53) :
    (Scalar.ofNat a : Float) - Scalar.ofNat b = Scalar.ofNat (a - b) := by
  rw [float_sub_eq, float_unpack_ofNat ha, float_unpack_ofNat (by omega)]
  rcases Nat.eq_zero_or_pos b with rfl | hb
  · rw [ofNat_zero, sub_positiveZero, ← toModel_ofNat ha, Nat.sub_zero]
  · rw [sub_ofNat hb hab ha, ← toModel_ofNat (by omega)]

theorem float_ofNat_sub_self {a : Nat} (ha0 : 0 < a) (ha : a < 2 ^ 53) :
    (Scalar.ofNat a : Float) - Scalar.ofNat a = Scalar.zero := by
  rw [float_sub_eq, float_unpack_ofNat ha, sub_ofNat_self ha0 ha, ← ofNat_zero, ← toModel_ofNat (by omega)]
  rfl

/-! ## Counting by ones -/

/-- One more one in a compensated sum that holds a whole number below `2 ^ 53 - 1` and no
correction: the sum goes up by one and the correction stays zero. -/
theorem kahan_add_one {k : Nat} (hk : k + 1 < 2 ^ 53) :
    (⟨Scalar.ofNat k, Scalar.zero⟩ : KahanSum Float).add Scalar.one =
      ⟨Scalar.ofNat (k + 1), Scalar.zero⟩ := by
  have hstep : (Scalar.ofNat k : Float) + Scalar.one = Scalar.ofNat (k + 1) :=
    float_ofNat_add Nat.one_pos hk
  have hback : (Scalar.ofNat (k + 1) : Float) - Scalar.ofNat k = Scalar.one := by
    rw [float_ofNat_sub (by omega) hk, Nat.add_sub_cancel_left]
    rfl
  have hone : (Scalar.one : Float) - Scalar.one = Scalar.zero :=
    float_ofNat_sub_self Nat.one_pos (by decide)
  simp only [KahanSum.add, float_sub_zero, hstep, hback, hone]

theorem kahan_addAll_ones {k c : Nat} (h : k + c < 2 ^ 53) :
    (⟨Scalar.ofNat k, Scalar.zero⟩ : KahanSum Float).addAll (List.replicate c Scalar.one) =
      ⟨Scalar.ofNat (k + c), Scalar.zero⟩ := by
  induction c generalizing k with
  | zero => rfl
  | succ c ih =>
    rw [List.replicate_succ, KahanSum.addAll_cons, kahan_add_one (by omega), ih (by omega),
      Nat.add_right_comm, Nat.add_assoc]

/-- A compensated sum of fewer than `2 ^ 53` ones is their count, with no correction. -/
theorem kahan_ofList_ones {c : Nat} (h : c < 2 ^ 53) :
    KahanSum.ofList (List.replicate c (Scalar.one : Float)) = ⟨Scalar.ofNat c, Scalar.zero⟩ := by
  have h0 : (⟨Scalar.ofNat 0, Scalar.zero⟩ : KahanSum Float).addAll (List.replicate c Scalar.one) =
      ⟨Scalar.ofNat (0 + c), Scalar.zero⟩ := kahan_addAll_ones (by omega)
  rw [Nat.zero_add] at h0
  exact h0

end Binary64

end FluxAverage
