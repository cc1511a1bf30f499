import Mathlib.Tactic.IntervalCases
import PulsarNetstack.Base

namespace PulsarNetstack

def htonl (x : Word) : Word :=
  (x <<< 24) ||| ((x <<< 8) &&& 0x00ff0000) ||| ((x >>> 8) &&& 0x0000ff00) ||| (x >>> 24)

def prefixMask (length : ℕ) : Word := if length = 0 then 0 else BitVec.allOnes 32 <<< (32 - length)

def netMask (prefixLen : Word) : Word := htonl (prefixMask prefixLen.toNat)

def netMatch (ip network prefixLen : Word) : Bool := ip &&& netMask prefixLen == network

def netPrefixValid (ip prefixLen : Word) : Bool := decide (prefixLen ≤ 32) && ip &&& ~~~ netMask prefixLen == 0

def netUnicast (ip : Word) : Bool :=
  let ip := htonl ip
  ip >>> 24 != 0 && ip >>> 24 != 127 && decide (ip < 0xe0000000)

def netHost (ip prefixLen : Word) : Bool :=
  if 32 < prefixLen then false
  else
    let mask := netMask prefixLen
    decide (31 ≤ prefixLen) || (ip &&& ~~~ mask != 0 && ip &&& ~~~ mask != ~~~ mask)

def subnetHost (network : Word) (length : ℕ) (ip : Word) : Bool :=
  let length := length % 256
  let mask := prefixMask length
  let ip := htonl ip
  decide (31 ≤ length) || ip &&& mask != htonl network &&& mask ||
    (ip &&& ~~~ mask != 0 && ip &&& ~~~ mask != ~~~ mask)

theorem netPrefixValid_le {ip prefixLen : Word} (h : netPrefixValid ip prefixLen = true) : prefixLen ≤ 32 := by
  rw [netPrefixValid, Bool.and_eq_true, decide_eq_true_eq] at h
  exact h.1

theorem netUnicast_ne_zero {ip : Word} (h : netUnicast ip = true) : ip ≠ 0 := by
  rintro rfl
  exact absurd h (by decide)

theorem htonl_getLsbD (x : Word) {i : ℕ} (hi : i < 32) :
    (htonl x).getLsbD i = x.getLsbD (8 * (3 - i / 8) + i % 8) := by
  simp only [htonl, BitVec.getLsbD_or, BitVec.getLsbD_and, BitVec.getLsbD_shiftLeft, BitVec.getLsbD_ushiftRight]
  interval_cases i <;> simp

theorem htonl_and (x y : Word) : htonl (x &&& y) = htonl x &&& htonl y := by
  apply BitVec.eq_of_getLsbD_eq
  intro i hi
  rw [BitVec.getLsbD_and, htonl_getLsbD _ hi, htonl_getLsbD _ hi, htonl_getLsbD _ hi, BitVec.getLsbD_and]

theorem htonl_not (x : Word) : htonl (~~~ x) = ~~~ htonl x := by
  apply BitVec.eq_of_getLsbD_eq
  intro i hi
  rw [BitVec.getLsbD_not, htonl_getLsbD _ hi, htonl_getLsbD _ hi, BitVec.getLsbD_not, decide_eq_true hi,
    decide_eq_true (by omega)]

theorem htonl_htonl (x : Word) : htonl (htonl x) = x := by
  apply BitVec.eq_of_getLsbD_eq
  intro i hi
  rw [htonl_getLsbD _ hi, htonl_getLsbD _ (by omega)]
  congr 1
  omega

theorem htonl_injective : Function.Injective htonl := Function.LeftInverse.injective htonl_htonl

theorem htonl_zero : htonl 0 = 0 := by decide

theorem and_htonl_eq_iff {x y mask : Word} : x &&& htonl mask = y ↔ htonl x &&& mask = htonl y := by
  rw [← htonl_injective.eq_iff, htonl_and, htonl_htonl]

theorem subnetHost_iff {network ip prefixLen : Word} (hlen : prefixLen ≤ 32) :
    subnetHost network prefixLen.toNat ip = true ↔
      (netMatch ip (network &&& netMask prefixLen) prefixLen = true → netHost ip prefixLen = true) := by
  have hle : prefixLen.toNat ≤ 32 := by simpa [BitVec.le_def] using hlen
  have hmod : prefixLen.toNat % 256 = prefixLen.toNat := Nat.mod_eq_of_lt (by omega)
  have h31 : (31 : Word) ≤ prefixLen ↔ 31 ≤ prefixLen.toNat := by simp [BitVec.le_def]
  have hmatch : ip &&& netMask prefixLen = network &&& netMask prefixLen ↔
      htonl ip &&& prefixMask prefixLen.toNat = htonl network &&& prefixMask prefixLen.toNat := by
    rw [netMask, and_htonl_eq_iff, htonl_and, htonl_htonl]
  have hzero : ip &&& ~~~ netMask prefixLen = 0 ↔ htonl ip &&& ~~~ prefixMask prefixLen.toNat = 0 := by
    rw [netMask, ← htonl_not, and_htonl_eq_iff, htonl_zero]
  have hones : ip &&& ~~~ netMask prefixLen = ~~~ netMask prefixLen ↔
      htonl ip &&& ~~~ prefixMask prefixLen.toNat = ~~~ prefixMask prefixLen.toNat := by
    rw [netMask, ← htonl_not, and_htonl_eq_iff, htonl_htonl]
  have hnot : ¬ 32 < prefixLen := BitVec.not_lt.mpr hlen
  simp only [subnetHost, netMatch, netHost, hmod, if_neg hnot, Bool.or_eq_true, Bool.and_eq_true, decide_eq_true_eq,
    bne_iff_ne, ne_eq, beq_iff_eq, h31, hmatch, hzero, hones]
  rw [or_assoc, or_left_comm, ← imp_iff_not_or]

end PulsarNetstack
