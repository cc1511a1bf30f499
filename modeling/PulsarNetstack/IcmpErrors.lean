import PulsarNetstack.ParserBounds
import PulsarNetstack.EmittedPackets

namespace PulsarNetstack

def ihlOf (ip : List Byte) : ℕ := (byteAt ip 0).toNat % 16 * 4

structure ValidHeader (ip : List Byte) : Prop where
  version : (byteAt ip 0).toNat / 16 = 4
  ihl : ipv4HdrLen ≤ ihlOf ip
  total : ihlOf ip ≤ be16 ip 2
  length : be16 ip 2 ≤ ip.length
  cksum : ipv4Cksum ip = 0

section Reports

variable {r : Routing} {b : Buffer} {ctx : PacketCtx} {type code : Byte} {mtu now : ℕ} {bytes : List Byte}
  {response : PacketCtx} {ip : List Byte}

def errorRoute (r : Routing) (ip : List Byte) : DropReason × RouteResult :=
  ipv4RouteQuery r (wordAt ip 12) (if netifIsLocalIp r (wordAt ip 16) then wordAt ip 16 else 0) netIifNone {}

structure Reportable (r : Routing) (b : Buffer) (ctx : PacketCtx) (ip : List Byte) : Prop where
  header : ValidHeader ip
  source_unicast : netUnicast (wordAt ip 12) = true
  source_remote : netifIsLocalIp r (wordAt ip 12) = false
  destination : netifIsLocalIp r (wordAt ip 16) = true ∨ netUnicast (wordAt ip 16) = true
  fragment : be16 ip 6 % 0x2000 = 0
  link : etherHdrLen ≤ ctx.l3Offset → (macAt b.data 0).getLsbD 40 = false
  icmp : byteAt ip 9 = protoIcmp → 8 ≤ be16 ip 2 - ihlOf ip ∧ (byteAt ip (ihlOf ip)).toNat ∉ [3, 4, 5, 11, 12]

structure ErrorMessage (r : Routing) (ip bytes : List Byte) (response : PacketCtx) : Prop where
  routable : (errorRoute r ip).1 = .none
  destination : response.dstIp = wordAt ip 12
  protocol : response.ipProtocol = protoIcmp
  egress : response.egressPortId = routePortId r (errorRoute r ip).2
  size : ipv4HdrLen + bytes.length ≤ min (errorRoute r ip).2.mtu 576
  quotation : ∃ quote, bytes.length = 8 + quote ∧ bytes.drop 8 = (ip.take (be16 ip 2)).take quote ∧
    ihlOf ip + min 8 (be16 ip 2 - ihlOf ip) ≤ quote ∧ quote ≤ be16 ip 2
  cksum : rawCksum bytes = 65535

theorem ipv4DestinationValid_remote {dst : Word} (h : ipv4DestinationValid r dst = true) :
    netUnicast dst = true ∧ netifIsLocalIp r dst = false := by
  rw [ipv4DestinationValid, Bool.and_eq_true, Bool.and_eq_true, Bool.not_eq_true'] at h
  exact h.1

theorem reportable_of_unsuppressed (h : icmpErrorSuppressed r b ctx = false) :
    Reportable r b ctx (b.data.drop ctx.l3Offset) := by
  obtain ⟨-, hihl, htotal, hlength⟩ := quotable_of_unsuppressed h
  rw [icmpErrorSuppressed_groups] at h
  simp only [Bool.or_eq_false_iff] at h
  obtain ⟨-, ⟨⟨⟨hversion, -⟩, -⟩, -⟩, ⟨⟨⟨hcksum, hsrc⟩, hdst⟩, hfragment⟩, hlink, hicmp⟩ := h
  rw [Bool.not_eq_false'] at hsrc
  obtain ⟨hunicast, hremote⟩ := ipv4DestinationValid_remote hsrc
  refine ⟨⟨bne_eq_false_iff_eq.mp hversion, hihl, htotal, ?_, bne_eq_false_iff_eq.mp hcksum⟩, hunicast, hremote, ?_,
    bne_eq_false_iff_eq.mp hfragment, fun hether => ?_, fun hproto => ?_⟩
  · rw [List.length_drop]
    omega
  · rw [Bool.and_eq_false_iff, Bool.not_eq_false', Bool.not_eq_false'] at hdst
    exact hdst.imp_right fun hvalid => (ipv4DestinationValid_remote hvalid).1
  · rwa [decide_eq_true hether, Bool.true_and] at hlink
  · rw [hproto, beq_self_eq_true, Bool.true_and] at hicmp
    simp only [Bool.or_eq_false_iff, decide_eq_false_iff_not, not_lt, beq_eq_false_iff_ne] at hicmp
    obtain ⟨hlong, ⟨⟨⟨h3, h4⟩, h5⟩, h11⟩, h12⟩ := hicmp
    refine ⟨hlong, ?_⟩
    simp only [List.mem_cons, List.not_mem_nil, or_false, not_or]
    exact ⟨h3, h4, h5, h11, h12⟩

theorem icmpErrorBytes_length (h : n ≤ ip.length) : (icmpErrorBytes ip type code mtu n).length = 8 + n := by
  unfold icmpErrorBytes
  simp only [List.length_append, List.length_take, Nat.min_eq_left h]
  split
  · rfl
  · rfl

theorem icmpErrorBytes_drop : (icmpErrorBytes ip type code mtu n).drop 8 = ip.take n := by
  unfold icmpErrorBytes
  split
  · rfl
  · rfl

theorem icmpErrorBytes_cksum (hversion : (byteAt ip 0).toNat / 16 = 4) (hpos : 0 < n) (h : n ≤ ip.length)
    (hsmall : n < 60000) : rawCksum (icmpErrorBytes ip type code mtu n) = 65535 := by
  unfold icmpErrorBytes
  generalize hnext : (if type = 3 ∧ code = 4 then be16Bytes mtu else [0, 0] : List Byte) = next
  have hlength : next.length = 2 := by
    rw [← hnext]
    split
    · rfl
    · rfl
  have hassoc (field : List Byte) : [type, code] ++ field ++ [0, 0] ++ next ++ ip.take n =
      [type, code] ++ field ++ ([0, 0] ++ next ++ ip.take n) := by
    simp only [List.append_assoc]
  dsimp only
  rw [hassoc, hassoc]
  have hfield : [type, code].length % 2 = 0 := Nat.mod_self 2
  refine rawCksum_stored hfield ?_ ?_
  · simp only [List.length_append, List.length_cons, List.length_nil, List.length_take, hlength]
    omega
  · obtain ⟨first, rest, rfl⟩ : ∃ first rest, ip = first :: rest := List.exists_cons_of_length_pos (by omega)
    obtain ⟨k, rfl⟩ : ∃ k, n = k + 1 := ⟨n - 1, by omega⟩
    have hfirst : first.toNat / 16 = 4 := hversion
    have heven : ([type, code] ++ [0, 0] ++ ([0, 0] ++ next) : List Byte).length % 2 = 0 := by
      simp only [List.length_append, List.length_cons, List.length_nil, hlength]
    rw [← List.append_assoc, cksumSum_append heven, List.take_succ_cons]
    have hquoted : 0 < cksumSum (first :: rest.take k) := by
      cases rest.take k with
      | nil => simp only [cksumSum]; omega
      | cons second rest => simp only [cksumSum]; omega
    omega

theorem errorMessage_of_some (h : icmpErrorSuppressed r b ctx = false)
    (hmessage : icmpErrorMessage r b ctx type code mtu = some (bytes, response)) :
    ErrorMessage r (b.data.drop ctx.l3Offset) bytes response := by
  obtain ⟨⟨hversion, hihl, htotal, hlength, -⟩, -⟩ := reportable_of_unsuppressed h
  have hhdr : ipv4HdrLen = 20 := rfl
  unfold icmpErrorMessage at hmessage
  generalize hip : b.data.drop ctx.l3Offset = ip at *
  dsimp only at hmessage
  change (if (errorRoute r ip).1 ≠ .none ∨ (errorRoute r ip).2.mtu < ipv4HdrLen + 8 + ihlOf ip + min (be16 ip 2 - ihlOf ip) 8
    then none else some (icmpErrorBytes ip type code mtu (min (be16 ip 2) (min (errorRoute r ip).2.mtu 576 - ipv4HdrLen - 8)),
      { egressPortId := routePortId r (errorRoute r ip).2,
        srcIp := if netifIsLocalIp r (wordAt ip 16) then wordAt ip 16 else (errorRoute r ip).2.sourceIp,
        dstIp := wordAt ip 12, nextHop := (errorRoute r ip).2.nextHop, ipProtocol := protoIcmp : PacketCtx })) = _ at hmessage
  split at hmessage
  · cases hmessage
  rename_i hfits
  rw [not_or, not_not, not_lt] at hfits
  obtain ⟨hroute, hmtu⟩ := hfits
  obtain ⟨rfl, rfl⟩ := Prod.mk.inj (Option.some.inj hmessage)
  -- A header has at most 60 bytes, so the first 576 hold the header and eight bytes more.
  have hlong : ihlOf ip ≤ 60 := by
    unfold ihlOf
    omega
  generalize hquote : min (be16 ip 2) (min (errorRoute r ip).2.mtu 576 - ipv4HdrLen - 8) = quote
  have hle : quote ≤ be16 ip 2 := by omega
  have hbytes : (icmpErrorBytes ip type code mtu quote).length = 8 + quote := icmpErrorBytes_length (hle.trans hlength)
  refine ⟨hroute, rfl, rfl, rfl, ?_, ⟨quote, hbytes, ?_, ?_, hle⟩, ?_⟩
  · omega
  · rw [icmpErrorBytes_drop, List.take_take, Nat.min_eq_left hle]
  · omega
  · exact icmpErrorBytes_cksum hversion (by omega) (hle.trans hlength) (by omega)

theorem icmpSendError_cases (submit : Submit) (rt : Runtime) (b : Buffer) (ctx : PacketCtx) (type code : Byte) (mtu now : ℕ) :
    (∃ state, icmpSendError submit b ctx type code mtu now rt = some (⟨⟩, { rt with icmpErrors := state })) ∨
      icmpErrorSuppressed rt.routing b ctx = false ∧
        ∃ bytes response state, icmpErrorMessage rt.routing b ctx type code mtu = some (bytes, response) ∧
          icmpSendError submit b ctx type code mtu now rt =
            sendNew submit bytes response (modifyIcmp fun s => { s with generated := s.generated + 1 })
              (modifyIcmp fun s => { s with failed := s.failed + 1 }) { rt with icmpErrors := state } := by
  rw [icmpSendError_eq]
  unfold icmpErrorProgram
  rw [Program.get_bind_run]
  generalize takeToken rt.world.hz rt.icmpErrors now = token
  obtain ⟨state, granted⟩ := token
  cases hsuppressed : icmpErrorSuppressed rt.routing b ctx with
  | true => exact .inl ⟨_, rfl⟩
  | false =>
    cases granted with
    | false => exact .inl ⟨_, rfl⟩
    | true =>
      cases hmessage : icmpErrorMessage rt.routing b ctx type code mtu with
      | none => exact .inl ⟨_, rfl⟩
      | some message => exact .inr ⟨rfl, message.1, message.2, state, rfl, rfl⟩

theorem ErrorMessage.packet (hr : WellRouted r) (h : ErrorMessage r ip bytes response) :
    ∃ egress, netifById r (errorRoute r ip).2.netifId = some egress ∧ response.egressPortId = egress.portId ∧
      ∀ {id : ℕ} {m b' : Buffer} {ctx' : PacketCtx} {n : NodeId}, m.data = bytes → m.chainLen = 0 →
        ipv4Output r id m response = .enqueue n b' ctx' →
          b'.data = ipv4Header response (bytes.length + ipv4HdrLen) id ++ bytes ∧ b'.data.length ≤ min egress.mtu 576 := by
  have hnamed : Named r (errorRoute r ip) := hr.routeQuery _ _ _ _
  obtain ⟨egress, hegress, hmtu⟩ := hnamed h.routable
  refine ⟨egress, hegress, ?_, ?_⟩
  · rw [h.egress, routePortId, hegress]
    rfl
  · rintro id m b' ctx' n rfl hchain houtput
    obtain ⟨hdata, -⟩ := ipv4Output_enqueue hchain houtput
    refine ⟨hdata, ?_⟩
    rw [hdata, List.length_append, ipv4Header_length, hmtu]
    exact h.size

theorem WellRouted.own_unicast (h : WellRouted r) (hports : r.network = none → ∀ p ∈ r.ports, netUnicast p.ip = true)
    {dst : Word} (hown : netifIsLocalIp r dst = true) : netUnicast dst = true := by
  rw [netifIsLocalIp] at hown
  split at hown
  · rename_i c hc
    obtain ⟨a, ha, hmatch⟩ := List.any_eq_true.mp hown
    rw [Bool.and_eq_true, beq_iff_eq] at hmatch
    exact hmatch.1 ▸ ((h.snapshot hc).address ha).2
  · rename_i hnetwork
    obtain ⟨p, -, hmatch⟩ := List.any_eq_true.mp hown
    rw [Bool.and_eq_true, netAddressOn, hnetwork] at hmatch
    obtain ⟨q, hq, hip⟩ := Option.any_eq_true .. |>.mp hmatch.2
    exact beq_iff_eq.mp hip ▸ hports hnetwork q (netifById_some hq).1

end Reports

/-- An error is sent only about a packet that may have one, as a message that quotes it and fits; none of the lengths wraps
on the way. -/
theorem icmp_errors_well_formed (submit : Submit) (rt : Runtime) (b : Buffer) (ctx : PacketCtx) (type code : Byte)
    (mtu now : ℕ) :
    ((∃ state, icmpSendError submit b ctx type code mtu now rt = some (⟨⟩, { rt with icmpErrors := state })) ∨
      ∃ bytes response state,
        icmpSendError submit b ctx type code mtu now rt =
            sendNew submit bytes response (modifyIcmp fun s => { s with generated := s.generated + 1 })
              (modifyIcmp fun s => { s with failed := s.failed + 1 }) { rt with icmpErrors := state } ∧
          Reportable rt.routing b ctx (b.data.drop ctx.l3Offset) ∧
          ErrorMessage rt.routing (b.data.drop ctx.l3Offset) bytes response ∧
          (RuntimeReachable rt → ((rt.routing.network = none → ∀ p ∈ rt.routing.ports, netUnicast p.ip = true) →
              netUnicast (wordAt (b.data.drop ctx.l3Offset) 16) = true) ∧
            ∃ egress, netifById rt.routing (errorRoute rt.routing (b.data.drop ctx.l3Offset)).2.netifId = some egress ∧
              response.egressPortId = egress.portId ∧
              ∀ {id : ℕ} {m b' : Buffer} {ctx' : PacketCtx} {n : NodeId}, m.data = bytes → m.chainLen = 0 →
                ipv4Output rt.routing id m response = .enqueue n b' ctx' →
                  b'.data = ipv4Header response (bytes.length + ipv4HdrLen) id ++ bytes ∧
                    b'.data.length ≤ min egress.mtu 576)) ∧
    icmpErrorSuppressedChecked rt.routing b ctx = .ok (icmpErrorSuppressed rt.routing b ctx) ∧
    (RuntimeReachable rt → icmpErrorSuppressed rt.routing b ctx = false →
      icmpErrorMessageChecked rt.routing b ctx type code mtu = .ok (icmpErrorMessage rt.routing b ctx type code mtu)) := by
  refine ⟨?_, icmpErrorSuppressedChecked_eq, fun h hquiet => icmpErrorMessageChecked_eq h.wellRouted hquiet type code mtu⟩
  rcases icmpSendError_cases submit rt b ctx type code mtu now with hsilent | ⟨hquiet, bytes, response, state, hmessage, hrun⟩
  · exact .inl hsilent
  · have hreport := reportable_of_unsuppressed hquiet
    have herror := errorMessage_of_some hquiet hmessage
    refine .inr ⟨bytes, response, state, hrun, hreport, herror, fun h => ⟨fun hports => ?_, herror.packet h.wellRouted⟩⟩
    exact hreport.destination.elim (h.wellRouted.own_unicast hports) id

end PulsarNetstack
