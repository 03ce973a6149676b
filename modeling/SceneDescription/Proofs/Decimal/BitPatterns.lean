import Mathlib
import SceneDescription.Decimal.Binary64

/-!
# Bit patterns of doubles

A double that is made from the bits of a number has these bits, and its negative has them with the other sign
(`toBits_ofBits`, `toBits_neg_ofBits`).
-/

namespace SceneDescription

open Float.Model (Format UnpackedFloat)
open Float.Model.UnpackedFloat

/-- The bits of a double, as they are packed from its parts. -/
abbrev BitPattern : Type :=
  BitVec Format.binary64.numBits

namespace BitPattern

variable {b : BitPattern}

/-- A pattern stands for a number or an infinity. -/
def Numeric (b : BitPattern) : Prop :=
  unpackExponent b = -1#_ → unpackMantissa b = 0#_

/-- The pattern with another sign. -/
def withSign (sign : Sign) (b : BitPattern) : BitPattern :=
  packComponents .binary64 sign (unpackExponent b) (unpackMantissa b)

private theorem ofBitVec_toBitVec (s : Sign) : Sign.ofBitVec s.toBitVec = s := by
  cases s <;> rfl

private theorem toBitVec_ofBitVec (s : BitVec 1) : (Sign.ofBitVec s).toBitVec = s := by
  revert s
  decide

private theorem unpackSign_packComponents {spec : Format} (s : Sign) (e : BitVec spec.exponentBits)
    (m : BitVec spec.mantissaBitsWithoutImplicit) : unpackSign (packComponents spec s e m) = s.toBitVec := by
  refine BitVec.eq_of_getLsbD_eq fun i hi => ?_
  obtain rfl : i = 0 := by omega
  simp [unpackSign, packComponents, BitVec.getLsbD_append, BitVec.getElem_append]

/-- The three parts make up the pattern. -/
private theorem withSign_unpackSign (b : BitPattern) : withSign (.ofBitVec (unpackSign b)) b = b := by
  rw [withSign, packComponents, toBitVec_ofBitVec]
  refine BitVec.eq_of_getLsbD_eq fun i hi => ?_
  simp only [unpackSign, unpackExponent, unpackMantissa, BitVec.getLsbD_append, BitVec.getLsbD_cast]
  grind

/-- The significand of a subnormal number is too short to be taken for that of a normal one. -/
private theorem pack_subnormal (s : Sign) {m : BitVec 52} (hpos : 0 < m.toNat) :
    pack .binary64 (.finite s m.toNat (-1074) hpos) = packComponents .binary64 s 0#_ m := by
  have hlog : m.toNat.log2 < 52 := (Nat.log2_lt (Nat.ne_of_gt hpos)).2 m.isLt
  have hshort : m.toNat.log2 + 1 ≠ Format.binary64.mantissaBits := by
    show m.toNat.log2 + 1 ≠ 53
    omega
  rw [UnpackedFloat.pack]
  dsimp only
  rw [if_neg (by decide), if_neg hshort, BitVec.ofNat_toNat, BitVec.setWidth_eq]

/-- The leading digit of a normal number is not written. -/
private theorem pack_normal (s : Sign) {e : BitVec 11} (m : BitVec 52) (hlast : e ≠ -1#_)
    (hpos : 0 < (1#1 ++ m).toNat) :
    pack .binary64 (.finite s (1#1 ++ m).toNat (e.toNat - 1075) hpos) = packComponents .binary64 s e m := by
  have hm : m.toNat < 2 ^ 52 := m.isLt
  have hvalue : (1#1 ++ m).toNat = 2 ^ 52 + m.toNat := by
    rw [BitVec.toNat_append, ← Nat.shiftLeft_add_eq_or_of_lt hm]
    rfl
  have hlog : (1#1 ++ m).toNat.log2 = 52 :=
    (Nat.log2_eq_iff (Nat.ne_of_gt hpos)).2 ⟨by omega, by omega⟩
  have hlong : (1#1 ++ m).toNat.log2 + 1 = Format.binary64.mantissaBits := by
    rw [hlog]
    rfl
  have hbelow : e.toNat + 1 < 2 ^ 11 := by
    have hlt : e.toNat < 2 ^ 11 := e.isLt
    have hne : e.toNat ≠ 2 ^ 11 - 1 := fun h => hlast (BitVec.eq_of_toNat_eq h)
    omega
  have hbiased : ((e.toNat : Int) - 1075 + Format.binary64.exponentBias +
      Format.binary64.mantissaBitsWithoutImplicit).toNat = e.toNat := by
    show ((e.toNat : Int) - 1075 + 1023 + 52).toNat = e.toNat
    omega
  have hfraction : BitVec.ofNat 52 (1#1 ++ m).toNat = m := by
    refine BitVec.eq_of_toNat_eq ?_
    rw [BitVec.toNat_ofNat, hvalue]
    omega
  rw [UnpackedFloat.pack]
  dsimp only
  rw [hbiased, if_neg (Nat.not_le_of_lt hbelow), if_pos hlong, BitVec.ofNat_toNat, BitVec.setWidth_eq]
  exact congrArg _ hfraction

/-- Packing the parts of a number gives its pattern back. -/
private theorem pack_unpack (h : b.Numeric) : UnpackedFloat.pack .binary64 (UnpackedFloat.unpack .binary64 b) = b := by
  have hsame := withSign_unpackSign b
  rw [withSign] at hsame
  rw [UnpackedFloat.unpack]
  split
  · rename_i hlast
    rw [if_pos (h hlast)]
    rw [hlast, h hlast] at hsame
    exact hsame
  rename_i hlast
  split
  · rename_i hfirst
    rw [hfirst] at hsame
    split
    · rename_i hzero
      rw [hzero] at hsame
      exact hsame
    · rename_i hzero
      have hpos : 0 < (unpackMantissa b).toNat := by
        simpa [BitVec.toNat_pos, BitVec.pos_iff_ne_zero] using hzero
      rw [hfirst]
      exact (pack_subnormal _ hpos).trans hsame
  · exact (pack_normal _ _ hlast _).trans hsame

/-- The negative has the other sign. -/
private theorem neg_unpack (b : BitPattern) : (UnpackedFloat.unpack .binary64 b).neg =
    UnpackedFloat.unpack .binary64 (withSign (-.ofBitVec (unpackSign b)) b) := by
  unfold UnpackedFloat.unpack withSign
  simp only [unpackExponent_packComponents, unpackMantissa_packComponents, unpackSign_packComponents, ofBitVec_toBitVec]
  split
  · split <;> rfl
  · split
    · split <;> rfl
    · rfl

private theorem toNat_unpackMantissa (b : BitPattern) : (unpackMantissa b).toNat = b.toNat % 2 ^ 52 := by
  simp [unpackMantissa]

private theorem toNat_unpackExponent (b : BitPattern) : (unpackExponent b).toNat = b.toNat / 2 ^ 52 % 2 ^ 11 := by
  simp [unpackExponent, Nat.shiftRight_eq_div_pow]

private theorem toNat_packComponents (s : Sign) (e : BitVec 11) (m : BitVec 52) :
    (packComponents .binary64 s e m).toNat = s.toBitVec.toNat * 2 ^ 63 + e.toNat * 2 ^ 52 + m.toNat := by
  have he : e.toNat < 2 ^ 11 := e.isLt
  have hm : m.toNat < 2 ^ 52 := m.isLt
  show (s.toBitVec ++ e ++ m).toNat = _
  rw [BitVec.toNat_append, BitVec.toNat_append, ← Nat.shiftLeft_add_eq_or_of_lt he,
    ← Nat.shiftLeft_add_eq_or_of_lt hm, Nat.shiftLeft_eq, Nat.shiftLeft_eq]
  omega

/-- A pattern without a sign stands for a number up to the pattern of the infinity. -/
private theorem numeric_of_le (h : b.toNat ≤ infinityBits) : b.Numeric := by
  intro hlast
  have hexponent := toNat_unpackExponent b
  rw [hlast] at hexponent
  have hones : 2047 = b.toNat / 2 ^ 52 % 2 ^ 11 := hexponent
  have hinfinity : infinityBits = 2047 * 2 ^ 52 := rfl
  refine BitVec.eq_of_toNat_eq ?_
  rw [toNat_unpackMantissa]
  show b.toNat % 2 ^ 52 = 0
  omega

private theorem toNat_withSign (h : b.toNat < 2 ^ 63) (s : Sign) :
    (withSign s b).toNat = s.toBitVec.toNat * 2 ^ 63 + b.toNat := by
  rw [withSign, toNat_packComponents, toNat_unpackExponent, toNat_unpackMantissa]
  omega

private theorem unpackSign_of_lt (h : b.toNat < 2 ^ 63) : unpackSign b = 0#1 := by
  refine BitVec.eq_of_toNat_eq ?_
  have hsign : (unpackSign b).toNat = b.toNat / 2 ^ 63 % 2 := by simp [unpackSign, Nat.shiftRight_eq_div_pow]
  rw [hsign]
  show b.toNat / 2 ^ 63 % 2 = 0
  omega

end BitPattern

variable {n : Nat}

private theorem toNat_ofNat_of_le (h : n ≤ infinityBits) : (UInt64.ofNat n).toBitVec.toNat = n := by
  have hinfinity : infinityBits = 2047 * 2 ^ 52 := rfl
  exact Nat.mod_eq_of_lt (by omega)

/-- The parts of a double are those of the pattern that it is made from. -/
private theorem pack_unpack_ofBits (h : n ≤ infinityBits) :
    UnpackedFloat.pack .binary64 (UnpackedFloat.unpack .binary64 (UInt64.ofNat n).toBitVec) =
      (UInt64.ofNat n).toBitVec :=
  BitPattern.pack_unpack (BitPattern.numeric_of_le (by rwa [toNat_ofNat_of_le h]))

/-- A double that is made from the pattern of a number without a sign has this pattern. -/
theorem toBits_ofBits (h : n ≤ infinityBits) : (Float.ofBits (.ofNat n)).toBits.toNat = n :=
  (congrArg BitVec.toNat (pack_unpack_ofBits h)).trans (toNat_ofNat_of_le h)

/-- The pattern of its negative has the bit of the sign, too. -/
theorem toBits_neg_ofBits (h : n ≤ infinityBits) : (-Float.ofBits (.ofNat n)).toBits.toNat = 2 ^ 63 + n := by
  have hnat := toNat_ofNat_of_le h
  have hlt : (UInt64.ofNat n).toBitVec.toNat < 2 ^ 63 := by
    have hinfinity : infinityBits = 2047 * 2 ^ 52 := rfl
    omega
  let flipped := BitPattern.withSign .negative (UInt64.ofNat n).toBitVec
  have hnumeric : flipped.Numeric := by
    have hnumeric := BitPattern.numeric_of_le (b := (UInt64.ofNat n).toBitVec) (by rwa [hnat])
    simpa [flipped, BitPattern.Numeric, BitPattern.withSign] using hnumeric
  have hneg : UnpackedFloat.pack .binary64
      (UnpackedFloat.unpack .binary64 (Float.ofBits (.ofNat n)).toBits.toBitVec).neg = flipped := by
    have hbits : (Float.ofBits (.ofNat n)).toBits.toBitVec = (UInt64.ofNat n).toBitVec := pack_unpack_ofBits h
    rw [hbits, BitPattern.neg_unpack, BitPattern.unpackSign_of_lt hlt]
    exact BitPattern.pack_unpack hnumeric
  calc (-Float.ofBits (.ofNat n)).toBits.toNat = flipped.toNat := congrArg BitVec.toNat hneg
    _ = 2 ^ 63 + n := by rw [BitPattern.toNat_withSign hlt, hnat]; rfl

end SceneDescription
