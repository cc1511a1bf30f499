import PulsarNetstack.DaemonDispatch
import PulsarNetstack.NetConfigOk
import PulsarNetstack.WordLists

namespace PulsarNetstack

def ipcHeaderSize : ℕ := 64
def ipcMagic : Word := 0x50534e53
def ipcVersion : Word := 1

def ipcRawField (i : ℕ) : Bool := i == 9

def ipcWords (m : IpcMessage) : List Word :=
  [ipcMagic, ipcVersion, m.op, m.id, BitVec.ofNat 32 m.data.length, BitVec.ofInt 32 m.fd, BitVec.ofInt 32 m.a,
    BitVec.ofInt 32 m.b, BitVec.ofInt 32 m.c, m.addr.ip, m.addr.port.setWidth 32, BitVec.ofInt 32 m.result, 0, 0, 0, 0]

def ipcEncode (m : IpcMessage) : List Byte := putFields ipcRawField 0 (ipcWords m)

def ipcMessage (w : ℕ → Word) : Except Errno IpcMessage :=
  if w 0 ≠ ipcMagic ∨ w 1 ≠ ipcVersion ∨ ipcPayloadMax < (w 4).toNat ∨ 65535 < w 10 ∨ w 12 ≠ 0 ∨ w 13 ≠ 0 ∨ w 14 ≠ 0 ∨
      w 15 ≠ 0 ∨ w 3 = 0 then .error .eproto
  else .ok {
    op := w 2, id := w 3, fd := (w 5).toInt, a := (w 6).toInt, b := (w 7).toInt, c := (w 8).toInt
    addr := ⟨w 9, (w 10).setWidth 16⟩, result := (w 11).toInt, data := List.replicate (w 4).toNat 0 }

def ipcDecode (header : List Byte) : Except Errno IpcMessage :=
  ipcMessage fun i => (getFields ipcRawField 0 16 header).getD i 0

def Int32Range (x : ℤ) : Prop := -2147483648 ≤ x ∧ x < 2147483648

structure IpcMessage.Typed (m : IpcMessage) : Prop where
  fd : Int32Range m.fd
  a : Int32Range m.a
  b : Int32Range m.b
  c : Int32Range m.c
  result : Int32Range m.result

theorem Int32Range.toInt_ofInt {x : ℤ} (h : Int32Range x) : (BitVec.ofInt 32 x).toInt = x := by
  rw [BitVec.toInt_ofInt]
  exact Int.bmod_eq_of_le h.1 h.2

theorem setWidth_port (port : Word16) : (port.setWidth 32).setWidth 16 = port := by
  rw [BitVec.setWidth_setWidth_of_le _ (by decide), BitVec.setWidth_eq]

theorem port_setWidth {w : Word} (h : ¬ 65535 < w) : (w.setWidth 16).setWidth 32 = w := by
  apply BitVec.eq_of_toNat_eq
  have hlt : w.toNat < 65536 := Nat.lt_succ_of_le (BitVec.not_lt.mp h)
  rw [BitVec.toNat_setWidth, BitVec.toNat_setWidth]
  omega

theorem not_port_lt (port : Word16) : ¬ 65535 < port.setWidth 32 := by
  rw [BitVec.not_lt, BitVec.le_def, BitVec.toNat_setWidth]
  have := port.isLt
  change port.toNat % 4294967296 ≤ 65535
  omega

def IpcMessage.header (m : IpcMessage) : IpcMessage := { m with data := List.replicate m.data.length 0 }

theorem ipcDecode_ipcEncode {m : IpcMessage} (ht : m.Typed) (hid : m.id ≠ 0) (hlen : m.data.length ≤ ipcPayloadMax)
    (payload : List Byte) : ipcDecode (ipcEncode m ++ payload) = .ok m.header := by
  have hwords : getFields ipcRawField 0 16 (ipcEncode m ++ payload) = ipcWords m :=
    getFields_putFields ipcRawField 0 (ipcWords m) payload
  have hdata : (BitVec.ofNat 32 m.data.length).toNat = m.data.length := by
    rw [BitVec.toNat_ofNat]
    apply Nat.mod_eq_of_lt
    unfold ipcPayloadMax at hlen
    omega
  rw [ipcDecode, hwords]
  change (if ipcMagic ≠ ipcMagic ∨ ipcVersion ≠ ipcVersion ∨ ipcPayloadMax < (BitVec.ofNat 32 m.data.length).toNat ∨
    65535 < m.addr.port.setWidth 32 ∨ (0 : Word) ≠ 0 ∨ (0 : Word) ≠ 0 ∨ (0 : Word) ≠ 0 ∨ (0 : Word) ≠ 0 ∨ m.id = 0
    then Except.error Errno.eproto else _) = _
  rw [hdata, if_neg]
  · change Except.ok (IpcMessage.mk m.op m.id (BitVec.ofInt 32 m.fd).toInt (BitVec.ofInt 32 m.a).toInt
      (BitVec.ofInt 32 m.b).toInt (BitVec.ofInt 32 m.c).toInt (BitVec.ofInt 32 m.result).toInt
      ⟨m.addr.ip, (m.addr.port.setWidth 32).setWidth 16⟩
      (List.replicate (BitVec.ofNat 32 m.data.length).toNat 0)) = _
    rw [hdata, ht.fd.toInt_ofInt, ht.a.toInt_ofInt, ht.b.toInt_ofInt, ht.c.toInt_ofInt, ht.result.toInt_ofInt,
      setWidth_port]
    rfl
  · have hport := not_port_lt m.addr.port
    simp only [ne_eq, not_true_eq_false, false_or, not_or]
    exact ⟨Nat.not_lt.mpr hlen, hport, hid⟩

theorem ipcEncode_ipcDecode {header : List Byte} {m : IpcMessage} (hlen : header.length = ipcHeaderSize)
    (h : ipcDecode header = .ok m) : ipcEncode m = header := by
  have hbytes : putFields ipcRawField 0 (getFields ipcRawField 0 16 header) = header := by
    rw [putFields_getFields ipcRawField 0 (by rw [hlen]; decide), List.take_of_length_le (by rw [hlen]; decide)]
  have hwords := getFields_length ipcRawField 0 16 header
  unfold ipcDecode ipcMessage at h
  generalize getFields ipcRawField 0 16 header = ws at *
  match ws, hwords with
  | [w₀, w₁, w₂, w₃, w₄, w₅, w₆, w₇, w₈, w₉, w₁₀, w₁₁, w₁₂, w₁₃, w₁₄, w₁₅], _ =>
    rw [if_error_eq_ok] at h
    obtain ⟨hchecks, hm⟩ := h
    simp only [not_or, not_not, ne_eq] at hchecks
    obtain ⟨(h₀ : w₀ = ipcMagic), (h₁ : w₁ = ipcVersion), -, (hport : ¬ 65535 < w₁₀), (h₁₂ : w₁₂ = 0),
      (h₁₃ : w₁₃ = 0), (h₁₄ : w₁₄ = 0), (h₁₅ : w₁₅ = 0), -⟩ := hchecks
    have hwords : ipcWords m = [w₀, w₁, w₂, w₃, w₄, w₅, w₆, w₇, w₈, w₉, w₁₀, w₁₁, w₁₂, w₁₃, w₁₄, w₁₅] := by
      rw [← Except.ok.inj hm, ipcWords]
      change [ipcMagic, ipcVersion, w₂, w₃, BitVec.ofNat 32 (List.replicate w₄.toNat (0 : Byte)).length,
        BitVec.ofInt 32 w₅.toInt, BitVec.ofInt 32 w₆.toInt, BitVec.ofInt 32 w₇.toInt, BitVec.ofInt 32 w₈.toInt, w₉,
        (w₁₀.setWidth 16).setWidth 32, BitVec.ofInt 32 w₁₁.toInt, 0, 0, 0, 0] = _
      rw [List.length_replicate, BitVec.ofNat_toNat, BitVec.setWidth_eq, BitVec.ofInt_toInt, BitVec.ofInt_toInt,
        BitVec.ofInt_toInt, BitVec.ofInt_toInt, BitVec.ofInt_toInt, port_setWidth hport, h₀, h₁, h₁₂, h₁₃, h₁₄, h₁₅]
    rw [ipcEncode, hwords, hbytes]

end PulsarNetstack
