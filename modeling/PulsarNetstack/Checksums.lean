import PulsarNetstack.WordLists

namespace PulsarNetstack

section Sums

variable {l a b : List Byte} {s n : ℕ}

theorem cksumSum_append (h : a.length % 2 = 0) : cksumSum (a ++ b) = cksumSum a + cksumSum b := by
  induction a using cksumSum.induct with
  | case1 => rw [List.nil_append, cksumSum, Nat.zero_add]
  | case2 x => cases h
  | case3 x y rest ih =>
    have hrest : rest.length % 2 = 0 := by
      rw [List.length_cons, List.length_cons] at h
      omega
    rw [List.cons_append, List.cons_append, cksumSum, cksumSum, ih hrest]
    omega

theorem cksumSum_le (l : List Byte) : cksumSum l ≤ 65536 * l.length := by
  induction l using cksumSum.induct with
  | case1 => exact Nat.zero_le _
  | case2 x =>
    have := x.isLt
    rw [cksumSum, List.length_singleton]
    omega
  | case3 x y rest ih =>
    have := x.isLt
    have := y.isLt
    rw [cksumSum, List.length_cons, List.length_cons]
    omega

theorem cksumSum_cksumBytes (h : n < 65536) : cksumSum (cksumBytes n) = n := by
  rw [cksumBytes, cksumSum, cksumSum, BitVec.toNat_ofNat, BitVec.toNat_ofNat]
  omega

theorem cksumFold_mod (s : ℕ) : cksumFold s % 65535 = s % 65535 := by
  unfold cksumFold
  omega

theorem cksumFold_pos (h : 0 < s) : 0 < cksumFold s := by
  unfold cksumFold
  omega

theorem cksumFold_le (h : s ≤ 131070) : cksumFold s ≤ 65535 := by
  unfold cksumFold
  omega

structure Folded (s sum : ℕ) : Prop where
  le : s ≤ 65535
  mod : s % 65535 = sum % 65535
  pos : 0 < sum → 0 < s

theorem Folded.eq_ones (h : Folded s n) (hpos : 0 < n) (hzero : n % 65535 = 0) : s = 65535 := by
  have hle := h.le
  have hs := h.pos hpos
  have hmod := h.mod
  omega

theorem Folded.fold (h : s ≤ 131070) : Folded (cksumFold s) s := ⟨cksumFold_le h, cksumFold_mod s, cksumFold_pos⟩

theorem rawCksum_folded (h : l.length < 65536) : Folded (rawCksum l) (cksumSum l) := by
  have hsum := cksumSum_le l
  have hfirst : cksumFold (cksumSum l) ≤ 131070 := by
    unfold cksumFold
    omega
  have hle := cksumFold_le hfirst
  have hraw : rawCksum l = cksumFold (cksumFold (cksumSum l)) := Nat.mod_eq_of_lt (by omega)
  rw [hraw]
  exact ⟨hle, by rw [cksumFold_mod, cksumFold_mod], fun hpos => cksumFold_pos (cksumFold_pos hpos)⟩

theorem Folded.add {t sum' : ℕ} (h : Folded s n) (h' : Folded t sum') : Folded (cksumFold (s + t) % 65536) (n + sum') := by
  have hle := h.le
  have hle' := h'.le
  have hfold := Folded.fold (s := s + t) (by omega)
  rw [Nat.mod_eq_of_lt (Nat.lt_succ_of_le hfold.le)]
  refine ⟨hfold.le, ?_, ?_⟩
  · rw [hfold.mod, Nat.add_mod, h.mod, h'.mod, ← Nat.add_mod]
  · intro hpos
    apply hfold.pos
    rcases Nat.eq_zero_or_pos n with rfl | hn
    · have := h'.pos (by omega)
      omega
    · have := h.pos hn
      omega

end Sums

section Pseudo

variable {src dst : Word} {proto : Byte} {l4 : List Byte} {length : ℕ}

def pseudoHeader (src dst : Word) (proto : Byte) (length : ℕ) : List Byte :=
  wordBytes src ++ wordBytes dst ++ [0, proto] ++ be16Bytes length

theorem pseudoHeader_pos (h : proto ≠ 0) : 0 < cksumSum (pseudoHeader src dst proto length) := by
  have hproto : 0 < proto.toNat := by
    rcases Nat.eq_zero_or_pos proto.toNat with hz | hz
    · exact absurd (BitVec.eq_of_toNat_eq hz) h
    · exact hz
  have haddresses : (wordBytes src ++ wordBytes dst).length = 8 := rfl
  have hfixed : (wordBytes src ++ wordBytes dst ++ [0, proto]).length = 10 := rfl
  rw [pseudoHeader, cksumSum_append (by rw [hfixed]), cksumSum_append (by rw [haddresses])]
  have : cksumSum [0, proto] = proto.toNat * 256 := by simp [cksumSum]
  omega

theorem phdrCksum_folded : Folded (phdrCksum src dst proto length) (cksumSum (pseudoHeader src dst proto length)) := by
  have hlength : (pseudoHeader src dst proto length).length = 12 := rfl
  exact rawCksum_folded (l := pseudoHeader src dst proto length) (by rw [hlength]; decide)

def segmentSum (src dst : Word) (proto : Byte) (l4 : List Byte) : ℕ :=
  cksumSum l4 + cksumSum (pseudoHeader src dst proto l4.length)

theorem udptcpSum_folded (h : l4.length < 65536) : Folded (udptcpSum src dst proto l4) (segmentSum src dst proto l4) :=
  (rawCksum_folded h).add phdrCksum_folded

theorem segment_refold (h : l4.length < 65536) :
    Folded (cksumFold (cksumFold (rawCksum l4 + phdrCksum src dst proto l4.length))) (segmentSum src dst proto l4) := by
  have hraw := rawCksum_folded h
  have hphdr : Folded (phdrCksum src dst proto l4.length) (cksumSum (pseudoHeader src dst proto l4.length)) :=
    phdrCksum_folded
  have hadd := hraw.add hphdr
  have hle := cksumFold_le (s := rawCksum l4 + phdrCksum src dst proto l4.length) (by have := hraw.le; have := hphdr.le; omega)
  rw [Nat.mod_eq_of_lt (by omega)] at hadd
  refine ⟨cksumFold_le (by omega), ?_, fun hpos => cksumFold_pos (hadd.pos hpos)⟩
  rw [cksumFold_mod, hadd.mod]
  rfl

end Pseudo

section Stored

variable {src dst : Word} {proto : Byte} {before after : List Byte}

theorem cksumSum_stored (hbefore : before.length % 2 = 0) {n : ℕ} (hn : n < 65536) :
    cksumSum (before ++ cksumBytes n ++ after) = cksumSum (before ++ [0, 0] ++ after) + n := by
  have hzero : cksumSum [(0 : Byte), 0] = 0 := rfl
  have hlength (l : List Byte) (hl : l.length = 2) : (before ++ l).length % 2 = 0 := by
    rw [List.length_append, hl]
    omega
  rw [cksumSum_append (hlength _ rfl), cksumSum_append (hlength _ rfl), cksumSum_append hbefore, cksumSum_append hbefore,
    cksumSum_cksumBytes hn, hzero]
  omega

theorem rawCksum_stored (hbefore : before.length % 2 = 0) (hlength : (before ++ [0, 0] ++ after).length < 65536)
    (hpos : 0 < cksumSum (before ++ [0, 0] ++ after)) :
    rawCksum (before ++ cksumBytes (65535 - rawCksum (before ++ [0, 0] ++ after)) ++ after) = 65535 := by
  have hsum := rawCksum_folded hlength
  have hle := hsum.le
  have hmod := hsum.mod
  generalize rawCksum (before ++ [0, 0] ++ after) = s at *
  have hstored : cksumSum (before ++ cksumBytes (65535 - s) ++ after) = _ := cksumSum_stored hbefore (by omega)
  have hsame : (before ++ cksumBytes (65535 - s) ++ after).length = (before ++ [0, 0] ++ after).length := by
    simp only [List.length_append]
    rfl
  apply (rawCksum_folded (by rw [hsame]; exact hlength)).eq_ones <;> omega

theorem segmentSum_stored (src dst : Word) (hbefore : before.length % 2 = 0) (hlength : (before ++ [0, 0] ++ after).length < 65536)
    (hproto : proto ≠ 0) :
    0 < segmentSum src dst proto (before ++ cksumBytes (udptcpCksum src dst proto (before ++ [0, 0] ++ after)) ++ after) ∧
    segmentSum src dst proto (before ++ cksumBytes (udptcpCksum src dst proto (before ++ [0, 0] ++ after)) ++ after) %
      65535 = 0 := by
  have hsum : Folded (udptcpSum src dst proto (before ++ [0, 0] ++ after)) _ := udptcpSum_folded hlength
  have hpos : 0 < cksumSum (pseudoHeader src dst proto (before ++ [0, 0] ++ after).length) := pseudoHeader_pos hproto
  have hle := hsum.le
  have hmod := hsum.mod
  have hcksum : udptcpCksum src dst proto (before ++ [0, 0] ++ after) < 65536 ∧
      (udptcpSum src dst proto (before ++ [0, 0] ++ after) + udptcpCksum src dst proto (before ++ [0, 0] ++ after)) %
        65535 = 0 := by
    rw [udptcpCksum]
    split <;> omega
  generalize udptcpCksum src dst proto (before ++ [0, 0] ++ after) = n at *
  have hstored : cksumSum (before ++ cksumBytes n ++ after) = _ := cksumSum_stored hbefore hcksum.1
  have hsame : (before ++ cksumBytes n ++ after).length = (before ++ [0, 0] ++ after).length := by
    simp only [List.length_append]
    rfl
  rw [segmentSum, hstored, hsame]
  rw [segmentSum] at hmod
  constructor <;> omega

end Stored

end PulsarNetstack
