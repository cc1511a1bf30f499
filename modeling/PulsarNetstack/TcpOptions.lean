import PulsarNetstack.ParserBounds

namespace PulsarNetstack

inductive TcpOption
  | nop
  | option (kind : Byte) (data : List Byte)
  deriving DecidableEq, Repr

namespace TcpOption

def bytes : TcpOption → List Byte
  | nop => [1]
  | option kind data => kind :: BitVec.ofNat 8 (data.length + 2) :: data

def Ok : TcpOption → Prop
  | nop => True
  | option kind data => kind ≠ 0 ∧ kind ≠ 1 ∧ data.length + 2 < 256 ∧ (kind = 2 → data.length = 2)

def mss? : TcpOption → Option ℕ
  | nop => none
  | option kind data => if kind = 2 ∧ be16 data 0 ≠ 0 then some (be16 data 0) else none

end TcpOption

inductive OptionGrammar : List TcpOption → List Byte → Prop
  | done : OptionGrammar [] []
  | endOfList (rest : List Byte) : OptionGrammar [] (0 :: rest)
  | cons {o : TcpOption} {options : List TcpOption} {bytes : List Byte} (ok : o.Ok) (h : OptionGrammar options bytes) :
      OptionGrammar (o :: options) (o.bytes ++ bytes)

def segmentSize (syn : Bool) (mss : ℕ) (options : List TcpOption) : ℕ :=
  if syn then (options.filterMap TcpOption.mss?).getLast?.getD mss else mss

section Offsets

variable {headerLen : Word16} {offset step : Word} {length : Byte}

theorem offset_lt_iff : offset < headerLen.setWidth 32 ↔ offset.toNat < headerLen.toNat := by
  rw [BitVec.lt_def, BitVec.toNat_setWidth_of_le (by decide)]

theorem length_toNat (length : Byte) : (length.setWidth 32 : Word).toNat = length.toNat :=
  BitVec.toNat_setWidth_of_le (by decide)

theorem next_offset (h : offset < headerLen.setWidth 32) (hstep : step.toNat < 256) :
    (offset + step).toNat = offset.toNat + step.toNat := by
  have hoffset := offset_lt_iff.mp h
  have hheader := headerLen.isLt
  rw [BitVec.toNat_add, Nat.mod_eq_of_lt (by omega)]

theorem offset_decreases (h : offset < headerLen.setWidth 32) (hpos : 0 < step.toNat) (hstep : step.toNat < 256) :
    headerLen.toNat - (offset + step).toNat < headerLen.toNat - offset.toNat := by
  have hoffset := offset_lt_iff.mp h
  rw [next_offset h hstep]
  omega

theorem length_bounds (h : ¬ length < 2) : 0 < (length.setWidth 32 : Word).toNat ∧ (length.setWidth 32 : Word).toNat < 256 := by
  have hlength : 2 ≤ length.toNat := Nat.not_lt.mp h
  have hbyte := length.isLt
  rw [length_toNat]
  omega

end Offsets

/-- The loop of `tcp_input_node_run` over the bytes behind the header, with the pointer `options` and the `offset` apart. A
read outside of these bytes has no value. -/
def optionLoop (bytes : List Byte) (headerLen : Word16) (syn : Bool) (options : ℕ) (offset : Word) (mss : ℕ) :
    Option (Option ℕ) :=
  if offset < headerLen.setWidth 32 then do
    let kind ← bytes[options]?
    if kind = 0 then some (some mss)
    else if kind = 1 then optionLoop bytes headerLen syn (options + 1) (offset + 1) mss
    else if headerLen.setWidth 32 - offset < 2 then some none
    else do
      let length ← bytes[options + 1]?
      if length < 2 ∨ headerLen.setWidth 32 - offset < length.setWidth 32 ∨ (kind = 2 ∧ length ≠ 4) then some none
      else if kind = 2 ∧ length = 4 ∧ syn = true then do
        let high ← bytes[options + 2]?
        let low ← bytes[options + 3]?
        let value := high.toNat * 256 + low.toNat
        optionLoop bytes headerLen syn (options + length.toNat) (offset + length.setWidth 32) (if value ≠ 0 then value else mss)
      else optionLoop bytes headerLen syn (options + length.toNat) (offset + length.setWidth 32) mss
  else some (some mss)
termination_by headerLen.toNat - offset.toNat
decreasing_by
  · rename_i hoffset
    exact offset_decreases hoffset (by decide) (by decide)
  · rename_i hoffset _ _ _ hlength _
    obtain ⟨hpos, hbyte⟩ := length_bounds (not_or.mp hlength).1
    exact offset_decreases hoffset hpos hbyte
  · rename_i hoffset _ _ _ hlength _
    obtain ⟨hpos, hbyte⟩ := length_bounds (not_or.mp hlength).1
    exact offset_decreases hoffset hpos hbyte

section Parsing

variable {syn : Bool} {mss m : ℕ} {kind : Byte} {data rest bytes : List Byte} {options : List TcpOption}

theorem tcpOptions_nop : tcpOptions syn 0 mss (1 :: rest) = tcpOptions syn 0 mss rest := by
  rw [tcpOptions.eq_def]
  rfl

theorem tcpOptions_option (ok : (TcpOption.option kind data).Ok) :
    tcpOptions syn 0 mss ((TcpOption.option kind data).bytes ++ rest) =
      tcpOptions syn 0 (if kind = 2 ∧ syn ∧ be16 data 0 ≠ 0 then be16 data 0 else mss) rest := by
  obtain ⟨hend, hnop, hshort, hmss⟩ := ok
  have hlength : (BitVec.ofNat 8 (data.length + 2)).toNat = data.length + 2 := by
    rw [BitVec.toNat_ofNat, Nat.mod_eq_of_lt hshort]
  have hfits : ¬ ((BitVec.ofNat 8 (data.length + 2)).toNat < 2 ∨
      (BitVec.ofNat 8 (data.length + 2) :: (data ++ rest)).length + 1 < (BitVec.ofNat 8 (data.length + 2)).toNat ∨
      (kind = 2 ∧ BitVec.ofNat 8 (data.length + 2) ≠ 4)) := by
    rw [hlength, List.length_cons, List.length_append]
    rintro (h | h | ⟨h, hne⟩)
    · omega
    · omega
    · rw [hmss h] at hne
      exact hne rfl
  rw [tcpOptions.eq_def]
  dsimp only [TcpOption.bytes, List.cons_append]
  rw [if_neg hend, if_neg hnop, if_neg hfits, hlength, tcpOptions_skip]
  have hdrop : (BitVec.ofNat 8 (data.length + 2) :: (data ++ rest)).drop (data.length + 2 - 1) = rest :=
    List.drop_left' rfl
  rw [hdrop]
  by_cases hkind : kind = 2
  · obtain ⟨high, low, rfl⟩ := List.length_eq_two.mp (hmss hkind)
    rfl
  · rw [if_neg fun h => hkind h.1, if_neg fun h => hkind h.1]

theorem segmentSize_nil : segmentSize syn mss [] = mss := ite_self _

theorem segmentSize_option : segmentSize syn mss (.option kind data :: options) =
    segmentSize syn (if kind = 2 ∧ syn ∧ be16 data 0 ≠ 0 then be16 data 0 else mss) options := by
  cases syn with
  | false =>
    rw [if_neg fun h => Bool.false_ne_true h.2.1]
    rfl
  | true =>
    simp only [segmentSize, ↓reduceIte, true_and]
    by_cases hvalue : kind = 2 ∧ be16 data 0 ≠ 0
    · have hmss : (TcpOption.option kind data).mss? = some (be16 data 0) := if_pos hvalue
      rw [if_pos hvalue, List.filterMap_cons_some hmss, List.getLast?_cons]
      rfl
    · have hmss : (TcpOption.option kind data).mss? = none := if_neg hvalue
      rw [if_neg hvalue, List.filterMap_cons_none hmss]

theorem OptionGrammar.accepted (h : OptionGrammar options bytes) :
    tcpOptions syn 0 mss bytes = some (segmentSize syn mss options) := by
  induction h generalizing mss with
  | done =>
    rw [segmentSize_nil]
    rfl
  | endOfList rest =>
    rw [segmentSize_nil]
    rfl
  | @cons o options bytes ok h ih =>
    cases o with
    | nop => exact tcpOptions_nop.trans ih
    | option kind data => rw [tcpOptions_option ok, segmentSize_option, ih]

theorem optionGrammar_of_accepted (h : tcpOptions syn 0 mss bytes = some m) : ∃ options, OptionGrammar options bytes := by
  induction hn : bytes.length using Nat.strong_induction_on generalizing bytes mss with
  | h n ih =>
    cases bytes with
    | nil => exact ⟨[], .done⟩
    | cons kind rest =>
      rw [tcpOptions.eq_def] at h
      dsimp only at h
      split at h
      · rename_i hkind
        rw [hkind]
        exact ⟨[], .endOfList rest⟩
      rename_i hend
      split at h
      · rename_i hkind
        obtain ⟨options, hoptions⟩ := ih rest.length (by rw [← hn]; exact Nat.lt_succ_self _) h rfl
        rw [hkind]
        exact ⟨.nop :: options, .cons trivial hoptions⟩
      rename_i hnop
      split at h
      · cases h
      rename_i length data
      split at h
      · cases h
      rename_i hfits
      simp only [not_or, not_and, not_not, Nat.not_lt, List.length_cons] at hfits
      obtain ⟨hmin, hmax, hmss⟩ := hfits
      rw [tcpOptions_skip] at h
      have hrest : (length :: data).drop (length.toNat - 1) = data.drop (length.toNat - 2) := by
        rw [show length.toNat - 1 = length.toNat - 2 + 1 by omega, List.drop_succ_cons]
      rw [hrest] at h
      have htake : (data.take (length.toNat - 2)).length = length.toNat - 2 := List.length_take_of_le (by omega)
      have hlt : (data.drop (length.toNat - 2)).length < n := by
        rw [List.length_drop, ← hn, List.length_cons, List.length_cons]
        omega
      obtain ⟨options, hoptions⟩ := ih _ hlt h rfl
      have hbyte := length.isLt
      have hok : (TcpOption.option kind (data.take (length.toNat - 2))).Ok := by
        refine ⟨hend, hnop, by omega, fun hkind => ?_⟩
        rw [htake, hmss hkind]
        rfl
      have hbytes : kind :: length :: data =
          (TcpOption.option kind (data.take (length.toNat - 2))).bytes ++ data.drop (length.toNat - 2) := by
        have hlength : BitVec.ofNat 8 (length.toNat - 2 + 2) = length := by
          rw [Nat.sub_add_cancel hmin, BitVec.ofNat_toNat, BitVec.setWidth_eq]
        rw [TcpOption.bytes, htake, hlength, List.cons_append, List.cons_append, List.take_append_drop]
      rw [hbytes]
      exact ⟨_ :: options, .cons hok hoptions⟩

theorem tcpOptions_none_iff : tcpOptions syn 0 mss bytes = none ↔ ¬ ∃ options, OptionGrammar options bytes := by
  constructor
  · rintro h ⟨options, hoptions⟩
    rw [hoptions.accepted] at h
    cases h
  · intro h
    rw [← Option.not_isSome_iff_eq_none, Option.isSome_iff_exists]
    exact fun ⟨m, hm⟩ => h (optionGrammar_of_accepted hm)

theorem optionLoop_eq {headerLen : Word16} {offset : Word} {pointer : ℕ} (hheader : headerLen.toNat = 20 + bytes.length)
    (hoffset : offset.toNat = 20 + pointer) :
    optionLoop bytes headerLen syn pointer offset mss = some (tcpOptions syn 0 mss (bytes.drop pointer)) := by
  induction hn : bytes.length - pointer using Nat.strong_induction_on generalizing pointer offset mss with
  | h n ih =>
    rw [optionLoop]
    by_cases hmore : offset < headerLen.setWidth 32
    · have hpointer : pointer < bytes.length := by
        have := offset_lt_iff.mp hmore
        omega
      have hroom : (headerLen.setWidth 32 - offset : Word).toNat = bytes.length - pointer := by
        rw [BitVec.toNat_sub_of_le (BitVec.le_of_lt hmore), BitVec.toNat_setWidth_of_le (by decide)]
        omega
      have hnext (step : Word) (mss : ℕ) (hpos : 0 < step.toNat) (hstep : step.toNat < 256) :
          optionLoop bytes headerLen syn (pointer + step.toNat) (offset + step) mss =
            some (tcpOptions syn 0 mss (bytes.drop (pointer + step.toNat))) := by
        refine ih _ (by omega) ?_ rfl
        rw [next_offset hmore hstep, hoffset, Nat.add_assoc]
      rw [if_pos hmore, List.getElem?_eq_getElem hpointer, List.drop_eq_getElem_cons hpointer, tcpOptions.eq_def]
      generalize bytes[pointer] = kind
      dsimp only [bind, Option.bind]
      split
      · rfl
      split
      · exact hnext 1 mss (by decide) (by decide)
      by_cases hlast : pointer + 1 < bytes.length
      · have hroom₂ : ¬ (headerLen.setWidth 32 - offset : Word) < 2 := by
          rw [BitVec.lt_def, hroom]
          change ¬ bytes.length - pointer < 2
          omega
        rw [if_neg hroom₂, List.getElem?_eq_getElem hlast, List.drop_eq_getElem_cons hlast]
        generalize bytes[pointer + 1] = length
        dsimp only
        have hover : (headerLen.setWidth 32 - offset : Word) < length.setWidth 32 ↔
            (length :: bytes.drop (pointer + 1 + 1)).length + 1 < length.toNat := by
          rw [BitVec.lt_def, hroom, length_toNat, List.length_cons, List.length_drop,
            show bytes.length - (pointer + 1 + 1) + 1 + 1 = bytes.length - pointer by omega]
        have hcond := or_congr (Iff.refl (length < 2)) (or_congr hover (Iff.refl (kind = 2 ∧ length ≠ 4)))
        by_cases hbad : length.toNat < 2 ∨ (length :: bytes.drop (pointer + 1 + 1)).length + 1 < length.toNat ∨
            (kind = 2 ∧ length ≠ 4)
        · rw [if_pos hbad, if_pos (hcond.mpr hbad)]
        rw [if_neg hbad, if_neg (mt hcond.mp hbad), tcpOptions_skip]
        obtain ⟨hshort, hbad⟩ := not_or.mp hbad
        obtain ⟨hfits, hmss⟩ := not_or.mp hbad
        obtain ⟨hpos, hbyte⟩ := length_bounds hshort
        have hmin : 2 ≤ length.toNat := Nat.not_lt.mp hshort
        have hskip : (length :: bytes.drop (pointer + 1 + 1)).drop (length.toNat - 1) = bytes.drop (pointer + length.toNat) := by
          rw [show length.toNat - 1 = length.toNat - 2 + 1 by omega, List.drop_succ_cons, List.drop_drop]
          congr 1
          omega
        have hnext (mss : ℕ) := hnext (length.setWidth 32) mss hpos hbyte
        rw [length_toNat] at hnext
        rw [hskip]
        split
        · rename_i hsyn
          obtain ⟨rfl, rfl, rfl⟩ := hsyn
          have hlong : pointer + 3 < bytes.length := by
            rw [List.length_cons, List.length_drop] at hfits
            have hfour : (4 : Byte).toNat = 4 := rfl
            omega
          have hvalue (i : ℕ) (hi : pointer + 2 + i < bytes.length) :
              bytes[pointer + 2 + i]? = some ((bytes.drop (pointer + 1 + 1)).getD i 0) := by
            rw [List.getD_eq_getElem?_getD, List.getElem?_drop, List.getElem?_eq_getElem hi]
            rfl
          have hhigh := hvalue 0 (by omega)
          have hlow := hvalue 1 hlong
          rw [Nat.add_zero] at hhigh
          rw [hhigh]
          dsimp only
          rw [hlow]
          dsimp only
          rw [hnext]
          simp only [true_and, ne_eq]
        · rename_i hsyn
          rw [hnext, if_neg]
          rintro ⟨rfl, hs, -⟩
          refine hsyn ⟨rfl, ?_, hs⟩
          by_contra hne
          exact hmss ⟨rfl, hne⟩
      · have hroom₂ : (headerLen.setWidth 32 - offset : Word) < 2 := by
          rw [BitVec.lt_def, hroom]
          change bytes.length - pointer < 2
          omega
        rw [if_pos hroom₂, List.drop_eq_nil_of_le (Nat.not_lt.mp hlast)]
    · have hend : bytes.length ≤ pointer := by
        rw [offset_lt_iff] at hmore
        omega
      rw [if_neg hmore, List.drop_eq_nil_of_le hend]
      rfl

end Parsing

section Flights

variable {env : TcpEnv} {s : SocketEntry} {now : ℕ}

theorem tcpKick_queued (hmss : 0 < s.tcp.mss) (hidle : s.tcp.flightFlags = 0)
    (hdata : (tcpKick env s now).1.tcp.flightFlags = ackFlag ||| pshFlag) : 0 < (tcpKick env s now).1.tcp.flightLen := by
  have hno (h : (0 : Byte) = ackFlag ||| pshFlag) {p : Prop} : p := absurd h (by decide)
  unfold tcpKick at hdata ⊢
  dsimp only at hdata ⊢
  split at hdata
  · exact hno (hidle.symm.trans hdata)
  rename_i hready
  rw [if_neg hready]
  split at hdata
  · split at hdata
    · exact hno (hidle.symm.trans hdata)
    · exact hno (hidle.symm.trans hdata)
  rename_i hwindow
  rw [if_neg hwindow]
  split at hdata
  · rename_i htx
    rw [if_pos htx]
    have hpeer : s.tcp.peerWindow ≠ 0 := fun h => hwindow ⟨h, .inl htx⟩
    split at hdata
    · rw [tcpFail_tcp] at hdata
      exact hno hdata
    · rename_i hroute
      rw [if_neg hroute]
      obtain ⟨-, hmtu⟩ := not_or.mp hroute
      change 0 < min s.tcp.txLen (min s.tcp.peerWindow (min s.tcp.mss _))
      omega
  · split at hdata
    · exact absurd (show (finFlag ||| ackFlag : Byte) = ackFlag ||| pshFlag from hdata) (by decide)
    · exact hno (hidle.symm.trans hdata)

theorem Bookkeeping.flightLen_pos {c : TcpConnection} (h : Bookkeeping c) (hdata : c.flightFlags = ackFlag ||| pshFlag) :
    0 < c.flightLen := by
  cases h.flight with
  | idle _ hf => exact absurd (hf.symm.trans hdata) (by decide)
  | data _ _ hl => exact hl
  | syn _ hf =>
    obtain hf | hf := hf
    · exact absurd (hf.symm.trans hdata) (by decide)
    · exact absurd (hf.symm.trans hdata) (by decide)
  | fin _ hf => exact absurd (hf.symm.trans hdata) (by decide)

end Flights

/-- `tcp_input_node_run` accepts the options of the grammar and no others, and reads only the bytes behind the header. -/
theorem tcp_options_exact :
    (∀ (headerLen : Word16) (bytes : List Byte) (syn : Bool), headerLen.toNat = 20 + bytes.length →
      optionLoop bytes headerLen syn 0 20 536 = some (tcpOptions syn 0 536 bytes) ∧
      (tcpOptions syn 0 536 bytes = none ↔ ¬ ∃ options, OptionGrammar options bytes) ∧
      (∀ options, OptionGrammar options bytes → tcpOptions syn 0 536 bytes =
        some (if syn then (options.filterMap TcpOption.mss?).getLast?.getD 536 else 536)) ∧
      ∀ mss, tcpOptions syn 0 536 bytes = some mss → mss ≠ 0) ∧
    (∀ rt, RuntimeReachable rt → ∀ s ∈ rt.sockets.entries,
      (s.tcp.state ≠ .closed → s.tcp.state ≠ .listen → 0 < s.tcp.mss) ∧
      (s.tcp.flightFlags = ackFlag ||| pshFlag → 0 < s.tcp.flightLen)) ∧
    ∀ (env : TcpEnv) (s : SocketEntry) (now : ℕ), 0 < s.tcp.mss → s.tcp.flightFlags = 0 →
      (tcpKick env s now).1.tcp.flightFlags = ackFlag ||| pshFlag → 0 < (tcpKick env s now).1.tcp.flightLen := by
  refine ⟨fun headerLen bytes syn hheader => ⟨?_, tcpOptions_none_iff, fun _ h => h.accepted, fun mss h => ?_⟩,
    fun rt hrt s hs => ?_, fun _ _ _ => tcpKick_queued⟩
  · exact optionLoop_eq hheader rfl
  · exact (tcpOptions_pos (by decide) h).ne'
  · have hbook := hrt.sockets.bookkeeping s hs
    exact ⟨hbook.mss_pos, hbook.flightLen_pos⟩

end PulsarNetstack
