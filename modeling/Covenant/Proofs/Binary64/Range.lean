import Mathlib
import Covenant.Binary64.Round

/-!
# Which doubles are finite

A double is finite when its exponent field is not all ones, and `Float.ofBits` keeps that field
(`isFinite_ofFields`). Rounding `num / den` gives a finite double exactly when the quotient is
below `2^1024 - 2^970`, halfway between the largest finite double `(2^53 - 1) · 2^971` and
`2^1024`: from there on the tie goes to the even significand `2^53`, which carries out of the
exponent range (`isFinite_ofRat`). Reading a decimal `m · 10^e` has the same bound, the
shortcuts it takes on the digit count included (`isFinite_ofDecimal`).
-/

open Float.Model.UnpackedFloat

namespace Covenant.Binary64

/-! ## The exponent field -/

theorem unpackExponent_pack_unpack (x : BitVec Float.Model.Format.binary64.numBits) :
    unpackExponent (pack Float.Model.Format.binary64 (unpack Float.Model.Format.binary64 x)) =
      unpackExponent x := by
  have hbias : Float.Model.Format.binary64.exponentBias = 1023 := rfl
  have hbits : Float.Model.Format.binary64.mantissaBits = 53 := rfl
  have hE : (unpackExponent x).toNat < 2048 := (unpackExponent x).isLt
  have hM : (unpackMantissa x).toNat < 2 ^ 52 := (unpackMantissa x).isLt
  unfold unpack
  dsimp only
  split_ifs with hinf hnan hzero hsub
  · simp [pack, packedInfinity, hinf]
  · simp [pack, packedNaN, hinf]
  · simp [pack, packedZero, hzero]
  · -- a subnormal keeps the exponent field zero
    have h0 : (unpackExponent x).toNat = 0 := by simp [hzero]
    have hlog : (unpackMantissa x).toNat.log2 < 52 :=
      (Nat.log2_lt (by simpa [← BitVec.toNat_inj] using hsub)).2 hM
    simp only [pack, hbias, hbits, h0]
    rw [if_neg (by decide), if_neg (by omega), unpackExponent_packComponents, hzero]
  · -- a normal number: the implicit bit makes the significand `2^52 + fraction`
    have h1 : (unpackExponent x).toNat ≠ 2047 := by
      intro h; apply hinf; apply BitVec.eq_of_toNat_eq; simpa using h
    have h0 : (unpackExponent x).toNat ≠ 0 := by
      intro h; apply hzero; apply BitVec.eq_of_toNat_eq; simpa using h
    have hsig : (1#1 ++ unpackMantissa x).toNat = 2 ^ 52 + (unpackMantissa x).toNat := by
      rw [BitVec.toNat_append, ← Nat.shiftLeft_add_eq_or_of_lt hM]
      simp [Nat.shiftLeft_eq]
    have hlog : (2 ^ 52 + (unpackMantissa x).toNat).log2 = 52 :=
      (Nat.log2_eq_iff (by positivity)).2 ⟨by omega, by omega⟩
    simp only [pack, hbias, hbits, hsig, hlog]
    rw [if_neg (by omega), if_pos trivial, unpackExponent_packComponents]
    apply BitVec.eq_of_toNat_eq
    simp
    omega

theorem exponentField_toNat (x : UInt64) :
    (@unpackExponent Float.Model.Format.binary64 x.toBitVec).toNat =
      x.toNat / 2 ^ 52 % 2048 := by
  simp [unpackExponent, BitVec.extractLsb_toNat, Nat.shiftRight_eq_div_pow]

theorem isFinite_ofBits (x : UInt64) :
    isFinite (Float.ofBits x) = true ↔ x.toNat / 2 ^ 52 % 2048 ≠ 2047 := by
  have hbits : (Float.ofBits x).toBits.toBitVec =
      pack Float.Model.Format.binary64 (unpack Float.Model.Format.binary64 x.toBitVec) := rfl
  have hfield : (Float.ofBits x).toBits.toNat / 2 ^ 52 % 2048 = x.toNat / 2 ^ 52 % 2048 := by
    rw [← exponentField_toNat, ← exponentField_toNat, hbits, unpackExponent_pack_unpack]
  unfold isFinite parts
  simp only [Nat.pow_eq, hfield]
  split_ifs <;> simp_all

theorem isFinite_ofFields (neg : Bool) (biased fraction : Nat) :
    isFinite (ofFields neg biased fraction) = true ↔ biased % 2048 ≠ 2047 := by
  unfold ofFields
  simp only [Nat.pow_eq]
  rw [isFinite_ofBits]
  have hf : fraction % 2 ^ 52 < 2 ^ 52 := Nat.mod_lt _ (by positivity)
  have hb : biased % 2048 < 2048 := Nat.mod_lt _ (by decide)
  -- the sign bit sits above the exponent field, the fraction below it
  obtain ⟨s, hs, hsign⟩ : ∃ s, s ≤ 1 ∧ ((if neg then 1 else 0) <<< 63 : Nat) = s * 2 ^ 63 := by
    cases neg <;> simp [Nat.shiftLeft_eq]
  have hN : s * 2 ^ 63 + biased % 2048 * 2 ^ 52 + fraction % 2 ^ 52 < 2 ^ 64 := by omega
  rw [hsign, Nat.toUInt64_eq, UInt64.toNat_ofNat', Nat.mod_eq_of_lt hN]
  omega

@[simp] theorem isFinite_infinity (neg : Bool) : isFinite (infinity neg) = false := by
  rw [← Bool.not_eq_true, infinity, isFinite_ofFields]
  decide

@[simp] theorem isFinite_zero (neg : Bool) : isFinite (zero neg) = true := by
  rw [zero, isFinite_ofFields]
  decide

theorem isFinite_encode (neg : Bool) (m : Nat) {t : Int} (ht : -1074 ≤ t) :
    isFinite (if t + 52 > 1023 then infinity neg
      else if m < 2 ^ 52 then ofFields neg 0 m
      else ofFields neg (t + 1075).toNat (m - 2 ^ 52)) = true ↔ t ≤ 971 := by
  -- `971` is the exponent of the largest binade; a biased exponent stays below `2047` up to it
  split_ifs with hbig hsub
  · simp only [isFinite_infinity, Bool.false_eq_true, false_iff]
    omega
  · simp only [isFinite_ofFields]
    omega
  · simp only [isFinite_ofFields]
    omega

/-! ## The binade of a quotient -/

theorem fits_iff {num den : Nat} {t : Int} :
    (if t ≥ 0 then decide (2 ^ 52 * (den * 2 ^ t.toNat) ≤ num)
      else decide (2 ^ 52 * den ≤ num * 2 ^ (-t).toNat)) = true ↔
      (2 : ℚ) ^ 52 * den * 2 ^ t ≤ num := by
  split_ifs with ht
  · rw [← Int.toNat_of_nonneg ht, zpow_natCast, decide_eq_true_iff, mul_assoc]
    exact_mod_cast Iff.rfl
  · have hpos : (0 : ℚ) < 2 ^ (-t).toNat := by positivity
    have hinv : (2 : ℚ) ^ t = ((2 : ℚ) ^ (-t).toNat)⁻¹ := by
      rw [← zpow_natCast, Int.toNat_of_nonneg (by omega), zpow_neg, inv_inv]
    rw [hinv, ← div_eq_mul_inv, div_le_iff₀ hpos, decide_eq_true_iff]
    exact_mod_cast Iff.rfl

/-- `num / den` lies in `[2^52, 2^53) · 2^t` for the exponent `t` that `scaleExponent` picks. -/
theorem scaleExponent_spec {num den : Nat} (hn : num ≠ 0) (hd : den ≠ 0) :
    (2 : ℚ) ^ 52 * den * 2 ^ scaleExponent num den ≤ num ∧
      (num : ℚ) < 2 ^ 53 * den * 2 ^ scaleExponent num den := by
  -- bit lengths bracket both numbers: `2^la ≤ num < 2^(la+1)`, `2^ld ≤ den < 2^(ld+1)`
  have hn1 : (2 : ℚ) ^ num.log2 ≤ num := by exact_mod_cast Nat.log2_self_le hn
  have hn2 : (num : ℚ) < 2 ^ (num.log2 + 1) := by exact_mod_cast Nat.lt_log2_self
  have hd1 : (2 : ℚ) ^ den.log2 ≤ den := by exact_mod_cast Nat.log2_self_le hd
  have hd2 : (den : ℚ) < 2 ^ (den.log2 + 1) := by exact_mod_cast Nat.lt_log2_self
  unfold scaleExponent
  dsimp only [Nat.pow_eq]
  generalize num.log2 = la at *
  generalize den.log2 = ld at *
  set t : Int := (la : Int) - ld - 52 with ht
  -- the estimate `t` makes `2^53 · 2^ld · 2^t` the power just above `num`
  have hlen : (2 : ℚ) ^ 53 * 2 ^ ld * 2 ^ t = 2 ^ (la + 1) := by
    rw [← pow_add, ← zpow_natCast, ← zpow_natCast, ← zpow_add₀ two_ne_zero]
    congr 1
    omega
  have hpos : (0 : ℚ) < 2 ^ t := by positivity
  by_cases hfits : (2 : ℚ) ^ 52 * den * 2 ^ t ≤ num
  · rw [if_pos (fits_iff.2 hfits)]
    refine ⟨hfits, ?_⟩
    calc (num : ℚ) < 2 ^ (la + 1) := hn2
      _ = 2 ^ 53 * 2 ^ ld * 2 ^ t := hlen.symm
      _ ≤ 2 ^ 53 * den * 2 ^ t := by gcongr
  · -- the estimate was one too high
    rw [if_neg (mt fits_iff.1 hfits)]
    have hstep : (2 : ℚ) ^ (t - 1) * 2 = 2 ^ t := by
      rw [zpow_sub_one₀ two_ne_zero]
      field_simp
    refine ⟨?_, ?_⟩
    · calc (2 : ℚ) ^ 52 * den * 2 ^ (t - 1)
          ≤ 2 ^ 52 * 2 ^ (ld + 1) * 2 ^ (t - 1) := by gcongr
        _ = 2 ^ 53 * 2 ^ ld * 2 ^ t / 2 := by rw [← hstep, pow_succ]; ring
        _ = 2 ^ la := by rw [hlen, pow_succ]; ring
        _ ≤ num := hn1
    · calc (num : ℚ) < 2 ^ 52 * den * 2 ^ t := lt_of_not_ge hfits
        _ = 2 ^ 53 * den * 2 ^ (t - 1) := by rw [← hstep]; ring

/-- Rounding a quotient below `2^53` carries into `2^53` exactly from `2^53 - 1/2` on. -/
theorem divRoundEven_eq_two_pow_53 {num d : Nat} (hd : 0 < d) (hhi : num < 2 ^ 53 * d) :
    divRoundEven num d = 2 ^ 53 ↔ (2 ^ 54 - 1) * d ≤ 2 * num := by
  have hdm := Nat.div_add_mod num d
  have hr := Nat.mod_lt num hd
  have hq : num / d < 2 ^ 53 := (Nat.div_lt_iff_lt_mul hd).2 hhi
  unfold divRoundEven
  dsimp only
  rcases (show num / d + 1 = 2 ^ 53 ∨ num / d + 2 ≤ 2 ^ 53 by omega) with htop | hbelow
  · -- the last quotient of the binade is odd, so a tie carries too
    have hprod : d * (num / d) + d = 2 ^ 53 * d := by rw [← Nat.mul_add_one, htop, mul_comm]
    have hodd : num / d % 2 = 1 := by omega
    split_ifs <;> omega
  · have hprod : d * (num / d) + 2 * d ≤ 2 ^ 53 * d := by
      have := Nat.mul_le_mul_left d hbelow
      rw [mul_add] at this
      linarith
    split_ifs <;> omega

/-! ## The overflow bound -/

theorem lt_overflow_iff {num den : Nat} :
    num < (2 ^ 1024 - 2 ^ 970) * den ↔ (num : ℚ) < (2 ^ 1024 - 2 ^ 970) * den := by
  have hle : 2 ^ 970 ≤ 2 ^ 1024 := Nat.pow_le_pow_right two_pos (by omega)
  have hcast : ((2 ^ 1024 - 2 ^ 970 : Nat) : ℚ) = 2 ^ 1024 - 2 ^ 970 := by
    rw [Nat.cast_sub hle]
    push_cast
    rfl
  rw [← hcast, ← Nat.cast_mul, Nat.cast_lt]

theorem two_pow_970_mul (k : Nat) : (2 : ℚ) ^ (k + 970) = 2 ^ k * 2 ^ 970 := pow_add _ _ _

theorem one_lt_overflow_bound : (1 : ℚ) < 2 ^ 1024 - 2 ^ 970 := by
  have hx : (1 : ℚ) ≤ 2 ^ 970 := one_le_pow₀ (by norm_num)
  rw [two_pow_970_mul 54]
  generalize (2 : ℚ) ^ 970 = x at *
  nlinarith

theorem overflow_bound_lt : (2 : ℚ) ^ 1024 - 2 ^ 970 < 10 ^ (309 : Int) := by
  have hx : (0 : ℚ) < 2 ^ 970 := by positivity
  -- compared as naturals through `Nat.pow`, which the kernel computes directly
  have hnat : Nat.pow 2 1024 < Nat.pow 10 309 := by decide +kernel
  have hpow : (2 : ℚ) ^ 1024 < 10 ^ 309 := by
    simp only [Nat.pow_eq] at hnat
    exact_mod_cast hnat
  rw [zpow_ofNat]
  exact (sub_le_self _ hx.le).trans_lt hpow

section Overflow

variable {num den : Nat} {t0 : Int}

theorem lt_overflow_of_exponent_le (hd : den ≠ 0)
    (hhi : (num : ℚ) < 2 ^ 53 * den * 2 ^ t0) (ht : t0 ≤ 970) :
    num < (2 ^ 1024 - 2 ^ 970) * den := by
  rw [lt_overflow_iff, two_pow_970_mul 54]
  have hden : (0 : ℚ) < den := by exact_mod_cast Nat.pos_of_ne_zero hd
  have hx : (0 : ℚ) < 2 ^ 970 := by positivity
  have hpow : (2 : ℚ) ^ t0 ≤ 2 ^ 970 := by
    simpa using zpow_le_zpow_right₀ (a := (2 : ℚ)) (by norm_num) ht
  have hmul : (2 : ℚ) ^ 53 * den * 2 ^ t0 ≤ 2 ^ 53 * den * 2 ^ 970 := by gcongr
  -- `2^970` stays a symbol: only its positivity matters
  generalize (2 : ℚ) ^ 970 = x at *
  nlinarith [mul_pos hden hx]

theorem overflow_le_of_exponent_ge (hd : den ≠ 0)
    (hlo : (2 : ℚ) ^ 52 * den * 2 ^ t0 ≤ num) (ht : 972 ≤ t0) :
    ¬ num < (2 ^ 1024 - 2 ^ 970) * den := by
  rw [lt_overflow_iff, not_lt, two_pow_970_mul 54]
  have hden : (0 : ℚ) < den := by exact_mod_cast Nat.pos_of_ne_zero hd
  have hx : (0 : ℚ) < 2 ^ 970 := by positivity
  have hpow : (2 : ℚ) ^ 2 * 2 ^ 970 ≤ 2 ^ t0 := by
    rw [← two_pow_970_mul]
    simpa using zpow_le_zpow_right₀ (a := (2 : ℚ)) (by norm_num) ht
  have hmul : (2 : ℚ) ^ 52 * den * (2 ^ 2 * 2 ^ 970) ≤ 2 ^ 52 * den * 2 ^ t0 := by gcongr
  generalize (2 : ℚ) ^ 970 = x at *
  nlinarith [mul_pos hden hx]

/-- In the top binade the rounding carries into `2^53` exactly when the value reaches the
bound. -/
theorem scaledRound_eq_two_pow_53_iff (hd : den ≠ 0)
    (hhi : (num : ℚ) < 2 ^ 53 * den * 2 ^ (971 : Int)) :
    scaledRound num den 971 = 2 ^ 53 ↔ ¬ num < (2 ^ 1024 - 2 ^ 970) * den := by
  have hhi' : num < 2 ^ 53 * (den * 2 ^ 971) := by
    rw [← mul_assoc]
    exact_mod_cast hhi
  have hpos : 0 < den * 2 ^ 971 := Nat.mul_pos (Nat.pos_of_ne_zero hd) (by positivity)
  rw [scaledRound, if_pos (by decide), Nat.pow_eq, show (971 : Int).toNat = 971 from rfl,
    divRoundEven_eq_two_pow_53 hpos hhi', not_lt]
  -- both sides compare `num` with `(2^54 - 1) · 2^970 · den`
  have hbound : 2 ^ 1024 - 2 ^ 970 = (2 ^ 54 - 1) * 2 ^ 970 := by
    rw [Nat.sub_one_mul, ← pow_add]
  have hscale : (2 ^ 54 - 1) * (den * 2 ^ 971) = 2 * ((2 ^ 54 - 1) * 2 ^ 970 * den) := by
    rw [show 971 = 1 + 970 from rfl, pow_add]
    ring
  rw [hbound, hscale]
  omega

/-- The exponent `ofRat` ends with, after the carry, stays in the finite range exactly when
`num / den` is below the bound. -/
theorem carried_exponent_le_iff (hd : den ≠ 0) (hlo : (2 : ℚ) ^ 52 * den * 2 ^ t0 ≤ num)
    (hhi : (num : ℚ) < 2 ^ 53 * den * 2 ^ t0) {t : Int}
    (ht : (if t0 < -1074 then -1074 else t0) = t) :
    (if scaledRound num den t = 2 ^ 53 then t + 1 else t) ≤ 971 ↔
      num < (2 ^ 1024 - 2 ^ 970) * den := by
  rcases (show t0 ≤ 970 ∨ t0 = 971 ∨ 972 ≤ t0 by omega) with hlow | rfl | hhigh
  · have : t ≤ 970 := by rw [← ht]; split <;> omega
    exact iff_of_true (by split <;> omega) (lt_overflow_of_exponent_le hd hhi hlow)
  · -- the top binade: the carry decides
    obtain rfl : t = 971 := by rw [← ht]; decide
    rw [← not_iff_not, ← scaledRound_eq_two_pow_53_iff hd hhi]
    split <;> simp_all
  · have : t = t0 := by rw [← ht]; split <;> omega
    exact iff_of_false (by split <;> omega) (overflow_le_of_exponent_ge hd hlo hhigh)

end Overflow

/-- `ofRat` gives a finite double exactly when `num / den` is below `2^1024 - 2^970`. -/
theorem isFinite_ofRat (neg : Bool) (num den : Nat) :
    isFinite (ofRat neg num den) = true ↔ den = 0 ∨ num < (2 ^ 1024 - 2 ^ 970) * den := by
  unfold ofRat
  simp only [Nat.pow_eq]
  by_cases h0 : num = 0 ∨ den = 0
  · rw [if_pos h0, isFinite_zero]
    rcases h0 with rfl | rfl
    · have hB : 0 < 2 ^ 1024 - 2 ^ 970 :=
        Nat.sub_pos_of_lt (Nat.pow_lt_pow_right one_lt_two (by omega))
      rcases Nat.eq_zero_or_pos den with hd | hd
      · simp [hd]
      · simp [Nat.mul_pos hB hd]
    · simp
  rw [if_neg h0]
  obtain ⟨hn, hd⟩ := not_or.1 h0
  obtain ⟨hlo, hhi⟩ := scaleExponent_spec hn hd
  simp only [hd, false_or]
  generalize scaleExponent num den = t0 at hlo hhi ⊢
  -- the exponent is clamped at the subnormal one before rounding
  generalize ht : (if t0 < -1074 then -1074 else t0) = t
  have ht_ge : -1074 ≤ t := by rw [← ht]; split <;> omega
  have hexp := carried_exponent_le_iff hd hlo hhi ht
  by_cases hcarry : scaledRound num den t = 2 ^ 53
  · simp only [hcarry, ↓reduceIte] at hexp ⊢
    rw [isFinite_encode neg _ (by omega), hexp]
  · simp only [hcarry, ↓reduceIte] at hexp ⊢
    rw [isFinite_encode neg _ ht_ge, hexp]

/-! ## Decimals -/

theorem lt_ten_pow_digitCount (m : Nat) : m < 10 ^ digitCount m :=
  (Nat.length_toDigits_le_iff (by norm_num) Nat.length_toDigits_pos).1 le_rfl

theorem ten_pow_digitCount_le {m : Nat} (hm : m ≠ 0) : 10 ^ (digitCount m - 1) ≤ m := by
  have hpos : 0 < digitCount m := Nat.length_toDigits_pos
  by_cases hone : digitCount m = 1
  · rw [hone]
    omega
  · -- fewer digits would bound `m` by `10^(digitCount m - 1)`
    have hfewer := Nat.length_toDigits_le_iff (b := 10) (n := m) (by norm_num)
      (show 0 < digitCount m - 1 by omega)
    have hdef : (Nat.toDigits 10 m).length = digitCount m := rfl
    by_contra hlt
    have := hfewer.2 (by omega)
    omega

/-- `ofDecimal` gives a finite double exactly when `m · 10^e` is below `2^1024 - 2^970`: the
shortcuts it takes on the digit count agree with rounding. -/
theorem isFinite_ofDecimal (neg : Bool) (m : Nat) (e : Int) :
    isFinite (ofDecimal neg m e) = true ↔ (m : ℚ) * 10 ^ e < 2 ^ 1024 - 2 ^ 970 := by
  unfold ofDecimal
  dsimp only [Nat.pow_eq]
  have hten : (0 : ℚ) < 10 ^ e := by positivity
  split_ifs with hm hsmall hlarge he
  · simpa [hm] using zero_lt_one.trans one_lt_overflow_bound
  · -- `m · 10^e < 10^(digits + e) ≤ 1`
    refine iff_of_true (isFinite_zero neg) ?_
    have hlt : (m : ℚ) < 10 ^ digitCount m := by exact_mod_cast lt_ten_pow_digitCount m
    calc (m : ℚ) * 10 ^ e < 10 ^ digitCount m * 10 ^ e := by gcongr
      _ = 10 ^ ((digitCount m : Int) + e) := by rw [zpow_add₀ (by norm_num), zpow_natCast]
      _ ≤ 10 ^ (0 : Int) := zpow_le_zpow_right₀ (by norm_num) (by omega)
      _ < 2 ^ 1024 - 2 ^ 970 := by simpa using one_lt_overflow_bound
  · -- `m · 10^e ≥ 10^(digits - 1 + e) ≥ 10^309`
    refine iff_of_false (by simp) (not_lt.2 ?_)
    have hge : (10 : ℚ) ^ (digitCount m - 1) ≤ m := by exact_mod_cast ten_pow_digitCount_le hm
    have hpos : 0 < digitCount m := Nat.length_toDigits_pos
    calc (2 : ℚ) ^ 1024 - 2 ^ 970 ≤ 10 ^ (309 : Int) := overflow_bound_lt.le
      _ ≤ 10 ^ (((digitCount m - 1 : Nat) : Int) + e) :=
          zpow_le_zpow_right₀ (by norm_num) (by omega)
      _ = 10 ^ (digitCount m - 1) * 10 ^ e := by rw [zpow_add₀ (by norm_num), zpow_natCast]
      _ ≤ m * 10 ^ e := by gcongr
  · obtain ⟨k, rfl⟩ := Int.eq_ofNat_of_zero_le he
    rw [isFinite_ofRat, lt_overflow_iff, zpow_natCast]
    push_cast
    simp
  · have hk : (0 : ℚ) < 10 ^ (-e).toNat := by positivity
    have hinv : (10 : ℚ) ^ e = ((10 : ℚ) ^ (-e).toNat)⁻¹ := by
      rw [← zpow_natCast, Int.toNat_of_nonneg (by omega), zpow_neg, inv_inv]
    rw [isFinite_ofRat, lt_overflow_iff, hinv, ← div_eq_mul_inv, div_lt_iff₀ hk]
    push_cast
    simp

end Covenant.Binary64
