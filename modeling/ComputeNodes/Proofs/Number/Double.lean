/-
Doubles that are compared and taken from each other.

`Binary.ofFloat` takes a double apart by its bits, and the arithmetic of doubles is defined on parts
of its own; `ofFloat_eq` says that the two are the same parts.  What is needed of the arithmetic is
little: a double that is not less than another one, taken from which it was, leaves nothing below
zero, whatever is lost in rounding (`zero_le_sub`).  Rounding keeps signs, so only the signs are
followed, through the difference, the rounding and the packing of its bits.

That the double which is not less is the one with the greater mantissa is only true of doubles whose
mantissas are as long as they can be, which `Binary.isCanonical_ofFloat` says of all of them.
-/
import ComputeNodes.Number.Seconds
import Mathlib

namespace ComputeNodes

open Float.Model Float.Model.UnpackedFloat

namespace Binary

/-! ### The parts of a double -/

/-- Whether a sign is a minus. -/
def isNegative : Sign → Bool
  | .negative => true
  | .positive => false

/-- The parts that the arithmetic of doubles works on. -/
def ofUnpacked : UnpackedFloat → Binary
  | .notANumber => .notANumber
  | .infinity sign => .infinite (isNegative sign)
  | .zero sign => .finite (isNegative sign) 0 leastExponent
  | .finite sign mantissa exponent _ => .finite (isNegative sign) mantissa exponent

theorem sign_of_bits (b : BitVec 64) :
    isNegative (Sign.ofBitVec (@unpackSign Format.binary64 b))
      = (b.toNat / Nat.pow 2 63 == 1) := by
  have hlt : b.toNat / 2 ^ 63 < 2 := by omega
  have hsign : (@unpackSign Format.binary64 b).toNat = b.toNat / 2 ^ 63 := by
    simp [unpackSign, BitVec.extractLsb_toNat, Nat.shiftRight_eq_div_pow]
    omega
  change _ = (b.toNat / 2 ^ 63 == 1)
  rw [Sign.ofBitVec]
  split
  · rename_i hzero
    rw [← hsign, hzero]
    rfl
  · rename_i hsome
    have hone : b.toNat / 2 ^ 63 ≠ 0 := fun h => hsome (BitVec.eq_of_toNat_eq (hsign.trans h))
    rw [show b.toNat / 2 ^ 63 = 1 by omega]
    rfl

theorem exponent_of_bits (b : BitVec 64) :
    (@unpackExponent Format.binary64 b).toNat
      = b.toNat / Nat.pow 2 52 % Nat.pow 2 11 := by
  simp [unpackExponent, BitVec.extractLsb_toNat, Nat.shiftRight_eq_div_pow]

theorem fraction_of_bits (b : BitVec 64) :
    (@unpackMantissa Format.binary64 b).toNat = b.toNat % Nat.pow 2 52 := by
  simp [unpackMantissa, BitVec.extractLsb_toNat]

/-- A double has the parts that its arithmetic works on. -/
theorem ofFloat_eq (x : Float) : ofFloat x = ofUnpacked x.toModel.unpack := by
  have hbits : x.toBits.toNat = x.toModel.toBits.toBitVec.toNat := rfl
  rw [ofFloat, hbits]
  unfold Float.Model.unpack
  generalize x.toModel.toBits.toBitVec = b
  change BitVec 64 at b
  simp only [← sign_of_bits, ← exponent_of_bits, ← fraction_of_bits]
  have htop : @unpackExponent Format.binary64 b = -1#11 ↔
      (@unpackExponent Format.binary64 b).toNat = 2047 :=
    ⟨fun h => by rw [h]; rfl, fun h => BitVec.eq_of_toNat_eq h⟩
  have hleast : @unpackExponent Format.binary64 b = 0#11 ↔
      (@unpackExponent Format.binary64 b).toNat = 0 :=
    ⟨fun h => by rw [h]; rfl, fun h => BitVec.eq_of_toNat_eq h⟩
  have hzero : @unpackMantissa Format.binary64 b = 0#52 ↔
      (@unpackMantissa Format.binary64 b).toNat = 0 :=
    ⟨fun h => by rw [h]; rfl, fun h => BitVec.eq_of_toNat_eq h⟩
  rw [UnpackedFloat.unpack]
  simp only [htop, hleast, hzero]
  split
  · split <;> rfl
  · split
    · rename_i hexponent
      split
      · rename_i hmantissa
        rw [hmantissa]
        rfl
      · simp only [hexponent]
        rfl
    · -- the leading one of the mantissa is not among the bits
      have hlt := (@unpackMantissa Format.binary64 b).isLt
      simp only [ofUnpacked, BitVec.toNat_append, ← Nat.shiftLeft_add_eq_or_of_lt hlt]
      rfl

/-- Whether a mantissa is as long as it can be at its exponent. -/
structure IsCanonical (mantissa : Nat) (exponent : Int) : Prop where
  mantissa_lt : mantissa < 2 ^ 53
  least_le : leastExponent ≤ exponent
  long : leastExponent < exponent → 2 ^ 52 ≤ mantissa

theorem isCanonical_ofFloat {x : Float} {negative : Bool} {mantissa : Nat} {exponent : Int}
    (h : ofFloat x = .finite negative mantissa exponent) : IsCanonical mantissa exponent := by
  have hfraction : x.toBits.toNat % Nat.pow 2 52 < 2 ^ 52 := Nat.mod_lt _ (by decide)
  have hpow : Nat.pow 2 52 = 2 ^ 52 := rfl
  unfold ofFloat at h
  dsimp only at h
  split at h
  · split at h <;> cases h
  · split at h
    · cases h
      exact ⟨by omega, Int.le_refl _, fun hlt => absurd hlt (Int.lt_irrefl _)⟩
    · cases h
      refine ⟨by omega, ?_, fun _ => by omega⟩
      unfold leastExponent
      omega

/-- Of two canonical mantissas, the one with the greater exponent is the greater one, and at the
same exponent they are compared as they are. -/
theorem IsCanonical.shift_le {m₁ m₂ : Nat} {e₁ e₂ : Int} (h₁ : IsCanonical m₁ e₁)
    (h₂ : IsCanonical m₂ e₂) (h : ((compare e₁ e₂).then (compare m₁ m₂)).isLE = true) :
    m₁ * 2 ^ (e₁ - min e₁ e₂).toNat ≤ m₂ * 2 ^ (e₂ - min e₁ e₂).toNat := by
  rcases lt_trichotomy e₁ e₂ with hlt | rfl | hgt
  · have hlong := h₂.long (Int.lt_of_le_of_lt h₁.least_le hlt)
    obtain ⟨k, hk⟩ : ∃ k, (e₂ - min e₁ e₂).toNat = k + 1 :=
      ⟨(e₂ - e₁).toNat - 1, by omega⟩
    have hpos : 1 ≤ 2 ^ k := Nat.one_le_two_pow
    have hshort := h₁.mantissa_lt
    rw [show (e₁ - min e₁ e₂).toNat = 0 by omega, hk, pow_succ]
    nlinarith
  · have hle : m₁ ≤ m₂ := by simpa [Nat.isLE_compare] using h
    exact Nat.mul_le_mul_right _ hle
  · rw [compare_gt_iff_gt.mpr hgt] at h
    cases h

end Binary

namespace Double

/-! ### Order -/

/-- Whether a double is a number that is not below zero. -/
def IsNonneg : UnpackedFloat → Prop
  | .notANumber => False
  | .infinity sign => sign = .positive
  | .zero _ => True
  | .finite sign _ _ _ => sign = .positive

theorem le_iff {x y : Float} : x ≤ y ↔ x.toModel.unpack.le y.toModel.unpack = true :=
  decide_eq_true_iff

theorem lt_iff {x y : Float} : x < y ↔ x.toModel.unpack.lt y.toModel.unpack = true :=
  decide_eq_true_iff

theorem zero_unpack : (0.0 : Float).toModel.unpack = .zero .positive := rfl

theorem zero_le_iff {x : Float} : 0.0 ≤ x ↔ IsNonneg x.toModel.unpack := by
  rw [le_iff, zero_unpack, UnpackedFloat.le]
  cases x.toModel.unpack with
  | notANumber => exact iff_of_false nofun id
  | infinity sign => cases sign <;> simp [UnpackedFloat.compare, IsNonneg]
  | zero sign => simp [UnpackedFloat.compare, IsNonneg]
  | finite sign m e hm => cases sign <;> simp [UnpackedFloat.compare, IsNonneg]

/-- What is zero or less is at most what is zero or more. -/
theorem le_of_nonpos_of_nonneg {x y : Float} (hx : x ≤ 0.0) (hy : 0.0 ≤ y) : x ≤ y := by
  rw [le_iff, zero_unpack, UnpackedFloat.le] at hx
  rw [zero_le_iff] at hy
  rw [le_iff, UnpackedFloat.le]
  revert hx hy
  generalize x.toModel.unpack = u
  generalize y.toModel.unpack = v
  intro hu hv
  rcases u with (_ | _) | _ | _ | ⟨(_ | _), _, _, _⟩ <;>
    rcases v with (_ | _) | _ | _ | ⟨(_ | _), _, _, _⟩ <;>
    first | rfl | simp_all [UnpackedFloat.compare, IsNonneg]

/-- What is not zero or less is more than zero, or no number at all. -/
theorem not_le_zero_iff {x : Float} : ¬ x ≤ 0.0 ↔ 0.0 < x ∨ x.isNaN = true := by
  rw [le_iff, lt_iff, zero_unpack]
  change _ ↔ _ ∨ x.toModel.unpack.isNaN = true
  cases x.toModel.unpack with
  | notANumber => decide
  | infinity sign => cases sign <;> decide
  | zero sign => cases sign <;> decide
  | finite sign m e hm =>
    cases sign <;>
      simp [UnpackedFloat.le, UnpackedFloat.lt, UnpackedFloat.compare, UnpackedFloat.isNaN]

theorem not_zero_lt_of_isNaN {x : Float} (h : x.isNaN = true) : ¬ 0.0 < x := by
  rw [lt_iff, zero_unpack]
  change x.toModel.unpack.isNaN = true at h
  cases hx : x.toModel.unpack with
  | notANumber => decide
  | infinity sign => rw [hx] at h; cases h
  | zero sign => rw [hx] at h; cases h
  | finite sign m e hm => rw [hx] at h; cases h

/-! ### Differences -/

theorem sign_packComponents (spec : Format) (sign : Sign) (exponent : BitVec spec.exponentBits)
    (fraction : BitVec spec.mantissaBitsWithoutImplicit) :
    unpackSign (packComponents spec sign exponent fraction) = sign.toBitVec := by
  apply BitVec.eq_of_getLsbD_eq
  intro i hi
  obtain rfl : i = 0 := by omega
  simp [unpackSign, packComponents, BitVec.getLsbD_append, BitVec.getElem_append]

theorem sign_of_toBitVec (sign : Sign) : Sign.ofBitVec sign.toBitVec = sign := by
  cases sign <;> rfl

/-- The bits of a number that is not below zero are read as one. -/
theorem isNonneg_packComponents {exponent : BitVec 11} {fraction : BitVec 52}
    (h : exponent = -1#11 → fraction = 0#52) :
    IsNonneg (unpack Format.binary64
      (packComponents Format.binary64 .positive exponent fraction)) := by
  rw [UnpackedFloat.unpack]
  simp only [unpackExponent_packComponents, unpackMantissa_packComponents, sign_packComponents,
    sign_of_toBitVec]
  split
  · rename_i htop
    rw [if_pos (h htop)]
    rfl
  · split
    · split
      · trivial
      · rfl
    · rfl

theorem isNonneg_packedZero (sign : Sign) :
    IsNonneg (unpack Format.binary64 (packedZero Format.binary64 sign)) := by
  cases sign <;> exact trivial

/-- What is packed into bits is still not below zero. -/
theorem isNonneg_unpack_pack {u : UnpackedFloat} (h : IsNonneg u) :
    IsNonneg (Float.Model.pack u).unpack := by
  change IsNonneg (unpack Format.binary64 (UnpackedFloat.pack Format.binary64 u))
  cases u with
  | notANumber => exact h.elim
  | infinity sign =>
    cases h
    exact isNonneg_packComponents fun _ => rfl
  | zero sign => exact isNonneg_packedZero sign
  | finite sign m e hm =>
    cases h
    rw [UnpackedFloat.pack]
    dsimp only
    split
    · exact isNonneg_packComponents fun _ => rfl
    · rename_i hsmall
      split
      · refine isNonneg_packComponents fun htop => absurd (congrArg BitVec.toNat htop) ?_
        -- an exponent of ones alone would be too large to come here
        change ¬ _ % 2 ^ 11 = 2047
        change ¬ 2 ^ 11 ≤ _ at hsmall
        omega
      · exact isNonneg_packComponents nofun

theorem isNonneg_round (m : Nat) (e : Int) :
    IsNonneg (UnpackedFloat.round Format.binary64 .positive m e) := by
  rw [UnpackedFloat.round]
  dsimp only
  rw [roundWithAccuracy]
  dsimp only
  split
  · trivial
  · rfl

theorem isNonneg_normalize {m : Int} (h : 0 ≤ m) (e : Int) :
    IsNonneg (UnpackedFloat.normalize Format.binary64 m e .positive) := by
  rw [UnpackedFloat.normalize]
  rcases h.lt_or_eq with hpos | rfl
  · rw [compare_gt_iff_gt.mpr hpos]
    exact isNonneg_round _ _
  · exact trivial

/-- The parts of a finite double that is not zero are canonical. -/
theorem isCanonical_unpack {x : Float} {sign : Sign} {m : Nat} {e : Int} {hm : 0 < m}
    (h : x.toModel.unpack = .finite sign m e hm) : Binary.IsCanonical m e := by
  have hparts : Binary.ofFloat x = .finite (Binary.isNegative sign) m e := by
    rw [Binary.ofFloat_eq, h]
    rfl
  exact Binary.isCanonical_ofFloat hparts

/-- The difference of two mantissas, moved to the same exponent, is not below zero when the first
number is not less than the second. -/
theorem mantissa_sub_nonneg {s₁ s₂ : Sign} {m₁ m₂ : Nat} {e₁ e₂ : Int} {hm₁ : 0 < m₁}
    {hm₂ : 0 < m₂} (h₁ : Binary.IsCanonical m₁ e₁) (h₂ : Binary.IsCanonical m₂ e₂)
    (h : (finite s₂ m₂ e₂ hm₂).le (finite s₁ m₁ e₁ hm₁) = true) :
    0 ≤ s₁.apply ↑(m₁ <<< (e₁ - min e₁ e₂).toNat) - s₂.apply ↑(m₂ <<< (e₂ - min e₁ e₂).toNat) := by
  rw [Nat.shiftLeft_eq, Nat.shiftLeft_eq]
  cases s₁ with
  | positive =>
    cases s₂ with
    | positive =>
      have hle := h₂.shift_le h₁ h
      rw [min_comm e₂ e₁] at hle
      simp only [Sign.apply]
      omega
    | negative =>
      simp only [Sign.apply]
      omega
  | negative =>
    cases s₂ with
    | positive => cases h
    | negative =>
      have hswap : ((compare e₁ e₂).then (compare m₁ m₂)).isLE = true := by
        rw [← Int.compare_swap e₂ e₁, ← Nat.compare_swap m₂ m₁, ← Ordering.swap_then]
        exact h
      have hle := h₁.shift_le h₂ hswap
      simp only [Sign.apply]
      omega

/-- What is taken from a double that is not less leaves nothing below zero, if it is finite. -/
theorem zero_le_sub {x y : Float} (hx : x.isFinite = true) (h : x ≤ y) : 0.0 ≤ y - x := by
  rw [zero_le_iff]
  change IsNonneg (Float.Model.pack (UnpackedFloat.sub Format.binary64 y.toModel.unpack
    x.toModel.unpack)).unpack
  refine isNonneg_unpack_pack ?_
  rw [le_iff] at h
  change x.toModel.unpack.isFinite = true at hx
  cases hxu : x.toModel.unpack with
  | notANumber => rw [hxu] at hx; cases hx
  | infinity sign => rw [hxu] at hx; cases hx
  | zero sign =>
    rw [hxu] at h
    cases hyu : y.toModel.unpack with
    | notANumber => rw [hyu] at h; cases h
    | infinity sign' => rw [hyu] at h; cases sign' <;> first | rfl | cases h
    | zero sign' =>
      simp only [UnpackedFloat.sub]
      split <;> trivial
    | finite sign' m e hm => rw [hyu] at h; cases sign' <;> first | rfl | cases h
  | finite sign m e hm =>
    rw [hxu] at h
    cases hyu : y.toModel.unpack with
    | notANumber => rw [hyu] at h; cases h
    | infinity sign' => rw [hyu] at h; cases sign' <;> first | rfl | cases h
    | zero sign' => rw [hyu] at h; cases sign <;> first | rfl | cases h
    | finite sign' m' e' hm' =>
      rw [hyu] at h
      exact isNonneg_normalize
        (mantissa_sub_nonneg (isCanonical_unpack hyu) (isCanonical_unpack hxu) h) _

end Double

/-! ### Lengths of time -/

namespace Seconds

/-- A length of zero or less is reached by whatever is not below zero. -/
theorem isAtMost_of_isZeroOrLess {s : Seconds} {x : Float} (hs : s.isZeroOrLess = true)
    (hx : 0.0 ≤ x) : s.isAtMost x = true := by
  cases s with
  | double y => exact decide_eq_true (Double.le_of_nonpos_of_nonneg (of_decide_eq_true hs) hx)
  | whole n =>
    have hn : n ≤ 0 := of_decide_eq_true hs
    have hleft (e : Int) : n * ↑(Nat.pow 2 (-e).toNat) ≤ 0 :=
      Int.mul_nonpos_of_nonpos_of_nonneg hn (Int.natCast_nonneg _)
    rw [Double.zero_le_iff] at hx
    rw [isAtMost, Binary.intLe, Binary.ofFloat_eq]
    cases hxu : x.toModel.unpack with
    | notANumber => rw [hxu] at hx; exact hx.elim
    | infinity sign => rw [hxu] at hx; cases hx; rfl
    | zero sign =>
      have hright : Binary.signed (Binary.isNegative sign) (0 * Nat.pow 2
          Binary.leastExponent.toNat) = 0 := by
        rw [Nat.zero_mul]
        cases sign <;> rfl
      exact decide_eq_true (hleft _ |>.trans hright.ge)
    | finite sign m e hm =>
      rw [hxu] at hx
      cases hx
      have hright : (0 : Int) ≤ ↑(m * Nat.pow 2 e.toNat) := Int.natCast_nonneg _
      exact decide_eq_true (hleft e |>.trans hright)

end Seconds

end ComputeNodes
