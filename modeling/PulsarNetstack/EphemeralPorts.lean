import PulsarNetstack.Descriptors
import Mathlib.Order.Interval.Finset.Nat

namespace PulsarNetstack

def Ephemeral (port : Word16) : Prop := 49152 ≤ port.toNat

section Scan

variable {port next : Word16}

theorem followingPort_toNat (port : Word16) (h : Ephemeral port) :
    (followingPort port).toNat = 49152 + (port.toNat - 49152 + 1) % 16384 := by
  have hport : 49152 ≤ port.toNat := h
  have hlt := port.isLt
  unfold followingPort
  by_cases hlast : port.toNat = 65535
  · have hwrap : port + 1 < (49152 : Word16) := by
      rw [BitVec.lt_def, BitVec.toNat_add, hlast]
      decide
    rw [if_pos hwrap, hlast]
    rfl
  · have hnext : (port + 1).toNat = port.toNat + 1 := by
      rw [BitVec.toNat_add, Nat.mod_eq_of_lt]
      · rfl
      · change port.toNat + 1 < 65536
        omega
    have hstay : ¬ port + 1 < (49152 : Word16) := by
      rw [BitVec.lt_def, hnext]
      change ¬ port.toNat + 1 < 49152
      omega
    rw [if_neg hstay, hnext]
    omega

theorem Ephemeral.following (h : Ephemeral port) : Ephemeral (followingPort port) := by
  unfold Ephemeral
  rw [followingPort_toNat port h]
  exact Nat.le_add_right _ _

theorem scan_toNat (h : Ephemeral next) (i : ℕ) :
    Ephemeral (followingPort^[i] next) ∧ (followingPort^[i] next).toNat = 49152 + (next.toNat - 49152 + i) % 16384 := by
  induction i with
  | zero =>
    have hnext : 49152 ≤ next.toNat := h
    have hlt := next.isLt
    refine ⟨h, ?_⟩
    rw [Function.iterate_zero, id, Nat.add_zero, Nat.mod_eq_of_lt (by omega)]
    omega
  | succ i ih =>
    rw [Function.iterate_succ_apply']
    refine ⟨ih.1.following, ?_⟩
    rw [followingPort_toNat _ ih.1, ih.2]
    omega

theorem scan_covers (h : Ephemeral next) (hport : Ephemeral port) : ∃! i, i < 16384 ∧ followingPort^[i] next = port := by
  have hnext : 49152 ≤ next.toNat := h
  have hlow : 49152 ≤ port.toNat := hport
  have hlt := next.isLt
  have hlt' := port.isLt
  have hiff (i : ℕ) : followingPort^[i] next = port ↔ 49152 + (next.toNat - 49152 + i) % 16384 = port.toNat := by
    rw [← (scan_toNat h i).2, BitVec.toNat_inj]
  refine ⟨(port.toNat + 16384 - next.toNat) % 16384, ⟨Nat.mod_lt _ (by decide), (hiff _).mpr (by omega)⟩, ?_⟩
  rintro i ⟨hi, hscan⟩
  rw [hiff] at hscan
  omega

end Scan

section Tables

variable {t : SocketTable} {slot : ℕ} {type : SockType} {ip : Word} {next : Word16} {fuel : ℕ}

theorem ephemeralPort_next (h : Ephemeral next) : Ephemeral (ephemeralPort t slot type ip fuel next).2 := by
  induction fuel generalizing next with
  | zero => exact h
  | succ fuel ih =>
    unfold ephemeralPort
    split
    · exact h.following
    · exact ih h.following

theorem ephemeralPort_range (h : Ephemeral next) (hfound : (ephemeralPort t slot type ip fuel next).1 ≠ 0) :
    Ephemeral (ephemeralPort t slot type ip fuel next).1 := by
  induction fuel generalizing next with
  | zero => exact absurd rfl hfound
  | succ fuel ih =>
    unfold ephemeralPort at hfound ⊢
    split
    · exact h
    · rename_i hbusy
      rw [if_neg hbusy] at hfound
      exact ih h.following hfound

theorem ephemeralPort_none (h : Ephemeral next) (hnone : (ephemeralPort t slot type ip fuel next).1 = 0) :
    ∀ i < fuel, portAvailable t slot type ⟨ip, followingPort^[i] next⟩ = false := by
  induction fuel generalizing next with
  | zero => exact fun i hi => absurd hi (Nat.not_lt_zero i)
  | succ fuel ih =>
    unfold ephemeralPort at hnone
    split at hnone
    · have hzero : next = 0 := hnone
      rw [hzero] at h
      exact absurd h (by unfold Ephemeral; decide)
    · rename_i hbusy
      intro i hi
      cases i with
      | zero => exact Bool.eq_false_iff.mpr hbusy
      | succ i =>
        rw [Function.iterate_succ_apply]
        exact ih h.following hnone i (Nat.lt_of_succ_lt_succ hi)

theorem port_used {addr : SockAddr} (h : portAvailable t slot type addr = false) :
    ∃ s ∈ t.entries, s.localAddr.port = addr.port := by
  unfold portAvailable at h
  obtain ⟨⟨s, i⟩, hs, hused⟩ := List.all_eq_false.mp h
  simp only [Bool.not_eq_true', Bool.not_eq_false, Bool.and_eq_true, beq_iff_eq] at hused
  exact ⟨s, List.fst_mem_of_mem_zipIdx hs, hused.1.2⟩

theorem ephemeralPort_found (hsize : t.entries.length ≤ psSocketMax) (h : Ephemeral next) :
    (ephemeralPort t slot type ip 16384 next).1 ≠ 0 := by
  intro hnone
  have hused : Finset.Icc 49152 65535 ⊆ (t.entries.map fun s => s.localAddr.port.toNat).toFinset := by
    intro n hn
    obtain ⟨hlow, hhigh⟩ := Finset.mem_Icc.mp hn
    have hport : (BitVec.ofNat 16 n).toNat = n := by
      rw [BitVec.toNat_ofNat]
      exact Nat.mod_eq_of_lt (by omega)
    have hephemeral : Ephemeral (BitVec.ofNat 16 n) := hlow.trans_eq hport.symm
    obtain ⟨i, ⟨hi, hscan⟩, -⟩ := scan_covers h hephemeral
    have hbusy := ephemeralPort_none h hnone i hi
    rw [hscan] at hbusy
    obtain ⟨s, hs, hsport⟩ := port_used hbusy
    rw [List.mem_toFinset, List.mem_map]
    exact ⟨s, hs, by rw [hsport, hport]⟩
  have hcard := (Finset.card_le_card hused).trans (List.toFinset_card_le _)
  rw [Nat.card_Icc, List.length_map] at hcard
  have hmax : psSocketMax = 256 := rfl
  omega

theorem socketBind_next {env : TcpEnv} {s : SocketEntry} {addr : SockAddr} (h : Ephemeral t.nextPort) :
    Ephemeral (socketBind env t slot s addr).1.nextPort := by
  unfold socketBind
  split
  · exact h
  split
  · exact h
  split
  · dsimp only
    split
    · exact ephemeralPort_next h
    · exact ephemeralPort_next h
  split
  · exact h
  · exact h

theorem ensureBound_next {env : TcpEnv} {s : SocketEntry} (h : Ephemeral t.nextPort) :
    Ephemeral (ensureBound env t slot s).1.nextPort := by
  unfold ensureBound
  split
  · exact socketBind_next h
  · exact h

theorem coreSendtoBind_next {env : TcpEnv} {fd : ℤ} {hasBuffer : Bool} {length : ℕ} {dst : Option SockAddr}
    (h : Ephemeral t.nextPort) : Ephemeral (coreSendtoBind env t fd hasBuffer length dst).1.nextPort := by
  unfold coreSendtoBind
  split
  · exact h
  split
  · exact h
  split
  · exact h
  split
  · exact h
  · exact ensureBound_next h

theorem coreRecvfrom_next {fd : ℤ} {hasBuffer : Bool} {length : ℕ} :
    (coreRecvfrom t fd hasBuffer length).1.nextPort = t.nextPort := by
  unfold coreRecvfrom
  split
  · rfl
  split
  · rfl
  split
  · rfl
  · rfl

theorem coreConnect_next {env : TcpEnv} {fd : ℤ} {addr : Option SockAddr} {seed : Word} {now : ℕ}
    (h : Ephemeral t.nextPort) : Ephemeral (coreConnect env t fd addr seed now).1.nextPort := by
  have hbound {slot : ℕ} {s : SocketEntry} {t' : SocketTable} {r : Except Errno SocketEntry}
      (he : ensureBound env t slot s = (t', r)) : Ephemeral t'.nextPort := by
    have hnext : Ephemeral (ensureBound env t slot s).1.nextPort := ensureBound_next h
    rw [he] at hnext
    exact hnext
  unfold coreConnect
  split
  · exact h
  split
  · exact h
  split
  · exact h
  split
  · unfold tcpConnect
    split
    · exact h
    split
    · exact h
    · exact h
    · exact h
    · dsimp only
      split
      · exact h
      split
      · rename_i he
        exact hbound he
      · rename_i he
        have hnext := hbound he
        exact hnext
    · exact h
  split
  · rename_i he
    exact hbound he
  · rename_i he
    have hnext := hbound he
    exact hnext

theorem tcpInputSegment_next {env : TcpEnv} {srcIp dstIp : Word} {hdr : TcpHeader} {payload : List Byte} {seed : Word}
    {now : ℕ} : (tcpInputSegment env t srcIp dstIp hdr payload seed now).1.nextPort = t.nextPort := by
  unfold tcpInputSegment
  split
  · rfl
  split
  · rfl
  unfold tcpInput
  split
  · rfl
  split
  · rfl
  split
  · split
    · unfold passiveOpen
      dsimp only
      split
      · rfl
      split
      · rfl
      · rename_i halloc
        obtain ⟨_, _, -, -, -, hnext, -⟩ := socketAllocate_some halloc
        exact hnext
    · rfl
  · rfl

theorem socketStep_next {env : TcpEnv} {event : SocketEvent} (h : Ephemeral t.nextPort) :
    Ephemeral (socketStep env t event).1.nextPort := by
  cases event with
  | socket domain type protocol =>
    change Ephemeral (coreSocket env t domain type protocol).1.nextPort
    unfold coreSocket
    generalize (if type = 2 then (17 : ℤ) else 6) = expected
    split
    · exact h
    split
    · exact h
    split
    · exact h
    split
    · exact h
    split
    · exact h
    split
    · exact h
    · rename_i halloc
      obtain ⟨_, _, -, -, -, hnext, -⟩ := socketAllocate_some halloc
      exact hnext.symm ▸ h
  | assignOwner fd owner =>
    change Ephemeral (assignOwner t fd owner).nextPort
    unfold assignOwner
    split
    · exact h
    · exact h
  | bind fd addr =>
    change Ephemeral (coreBind env t fd addr).1.nextPort
    unfold coreBind
    split
    · exact h
    split
    · exact h
    · exact socketBind_next h
  | connect fd addr seed now => exact coreConnect_next h
  | listen fd backlog =>
    change Ephemeral (coreListen t fd backlog).1.nextPort
    unfold coreListen
    split
    · exact h
    split
    · exact h
    · exact h
  | accept fd =>
    change Ephemeral (coreAccept t fd).1.nextPort
    unfold coreAccept
    split
    · exact h
    split
    · exact h
    unfold tcpAccept
    split
    · exact h
    split
    · exact h
    · exact h
  | send fd data now =>
    change Ephemeral (coreSend env t fd data now).1.nextPort
    unfold coreSend
    split
    · exact h
    split
    · exact h
    split
    · exact h
    · exact coreSendtoBind_next h
  | recv fd length =>
    change Ephemeral (coreRecv t fd length).1.nextPort
    unfold coreRecv
    split
    · exact h
    split
    · exact h
    · exact coreRecvfrom_next.symm ▸ h
  | sendto fd hasBuffer length dst => exact coreSendtoBind_next h
  | recvfrom fd hasBuffer length =>
    change Ephemeral (coreRecvfrom t fd hasBuffer length).1.nextPort
    rw [coreRecvfrom_next]
    exact h
  | close fd now =>
    change Ephemeral (coreClose env t fd now).1.nextPort
    unfold coreClose
    split
    · exact h
    split
    · rename_i slot s _ _
      have hnext : (tcpClose env t slot s now).1.nextPort = t.nextPort := by
        unfold tcpClose
        split
        · rfl
        · rfl
      exact hnext.symm ▸ h
    · exact h
  | segment srcIp dstIp hdr payload seed now =>
    change Ephemeral (tcpInputSegment env t srcIp dstIp hdr payload seed now).1.nextPort
    rw [tcpInputSegment_next]
    exact h
  | datagram localIp port source payload =>
    change Ephemeral (udpDeliver t localIp port source payload).1.nextPort
    unfold udpDeliver
    split
    · exact h
    dsimp only
    split
    · exact h
    split
    · exact h
    split
    · exact h
    · exact h
  | tick now => exact h

theorem Reachable.nextPort {admissible : TcpEnv → SocketTable → SocketEvent → Prop} (ht : Reachable admissible t) :
    Ephemeral t.nextPort := by
  induction ht with
  | init => exact Nat.le_refl _
  | step env event _ _ ih => exact socketStep_next ih

end Tables

/-- A socket that is bound to no port gets an ephemeral one that no other socket uses. -/
theorem ephemeral_bind_succeeds {admissible : TcpEnv → SocketTable → SocketEvent → Prop} {t : SocketTable}
    (ht : Reachable admissible t) :
    (49152 ≤ t.nextPort.toNat ∧ t.nextPort.toNat ≤ 65535) ∧
    (∀ (env : TcpEnv) (slot : ℕ) (s : SocketEntry) (ip : Word), s.localAddr.port = 0 → (ip = 0 ∨ env.isLocalIp ip = true) →
      ∃ t' port, socketBind env t slot s ⟨ip, 0⟩ = (t', .ok { s with localAddr := ⟨ip, port⟩ }) ∧
        t'.entries = t.entries.set slot { s with localAddr := ⟨ip, port⟩ } ∧
        (49152 ≤ port.toNat ∧ port.toNat ≤ 65535) ∧
        ∀ j other, j ≠ slot → t.entries[j]? = some other → other.allocated = true → other.type = s.type →
          ¬ (other.localAddr.port = port ∧ overlaps ip other.localAddr.ip = true)) ∧
    ∀ next port : Word16, 49152 ≤ next.toNat → 49152 ≤ port.toNat → ∃! i, i < 16384 ∧ followingPort^[i] next = port := by
  have hmax (port : Word16) : port.toNat ≤ 65535 := Nat.le_of_lt_succ port.isLt
  refine ⟨⟨ht.nextPort, hmax _⟩, fun env slot s ip hunbound hip => ?_, fun next port => scan_covers⟩
  have hfound : (ephemeralPort t slot s.type ip 16384 t.nextPort).1 ≠ 0 :=
    ephemeralPort_found ht.handles.size ht.nextPort
  have hfree := Free.of_portAvailable (ephemeralPort_available t slot s.type ip 16384 t.nextPort hfound)
  have hlocal : ¬ (ip ≠ 0 ∧ (!env.isLocalIp ip) = true) := by
    rintro ⟨hne, hnot⟩
    obtain rfl | hip := hip
    · exact hne rfl
    · rw [hip] at hnot
      cases hnot
  let result := ephemeralPort t slot s.type ip 16384 t.nextPort
  refine ⟨{ t with nextPort := result.2 }.set slot { s with localAddr := ⟨ip, result.1⟩ }, result.1, ?_, rfl,
    ⟨ephemeralPort_range ht.nextPort hfound, hmax _⟩, ?_⟩
  · unfold socketBind
    rw [if_neg (not_not.mpr hunbound), if_neg hlocal, if_pos rfl]
    exact if_neg hfound
  · rintro j other hj hother ha hk ⟨hport, hoverlaps⟩
    rw [hfree j other hj hother ha hk hport] at hoverlaps
    cases hoverlaps

def contendedTable : SocketTable :=
  socketRun steadyEnv (socketSubsystemInit 2) [.socket 2 2 0, .socket 2 2 0, .bind 1 (some ⟨0, 49152⟩)]

def unboundSocket : SocketEntry := { fd := 2, allocated := true, isOpen := true, type := .dgram }

-- The first port of the range is taken.
theorem ephemeral_bind_contended : contendedTable.entries[1]? = some unboundSocket ∧
    ∃ t', socketBind steadyEnv contendedTable 1 unboundSocket ⟨0, 0⟩ =
      (t', .ok { unboundSocket with localAddr := ⟨0, 49153⟩ }) := by
  have ht : Reachable (fun _ _ _ => True) contendedTable :=
    (Reachable.init 2 (by decide)).run steadyEnv _ ⟨trivial, trivial, trivial, trivial⟩
  obtain ⟨t', port, hbind, -⟩ := (ephemeral_bind_succeeds ht).2.1 steadyEnv 1 unboundSocket 0 rfl (.inl rfl)
  have hport : (socketBind steadyEnv contendedTable 1 unboundSocket ⟨0, 0⟩).2.toOption.map (fun s => s.localAddr.port) =
      some 49153 := by decide +kernel
  rw [hbind] at hport
  obtain rfl : port = 49153 := Option.some.inj hport
  exact ⟨by decide, t', hbind⟩

end PulsarNetstack
