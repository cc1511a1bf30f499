import PulsarNetstack.AdminService
import PulsarNetstack.JsonGrammar

namespace PulsarNetstack

open Json (ascii char hexDigit joined quoted plainChar)

def adminBrief : Word := 2
def adminStats : Word := 4
def adminNodes : Word := 8

structure Output where
  text : List Byte := []
  size : ℕ
  error : Option Errno := none
  json : Bool
  first : Bool := true

namespace Output

def append (o : Output) (s : List Byte) : Output :=
  if o.error.isSome then o
  else if o.size - o.text.length ≤ s.length then { o with error := some .enobufs }
  else { o with text := o.text ++ s }

def row (o : Output) : Output :=
  if o.json then { o.append ((if o.first then [] else ascii ",") ++ ascii "\x7b") with first := false } else o

def endRow (o : Output) : Output := o.append (if o.json then ascii "\x7d" else ascii "\n")

def separator (json last : Bool) : List Byte := if last then [] else if json then ascii "," else ascii " "

def number (o : Output) (name : String) (n : ℕ) (last : Bool) : Output :=
  o.append ((if o.json then ascii "\"" ++ ascii name ++ ascii "\":" else ascii name ++ ascii "=") ++ Json.decimal n ++
    separator o.json last)

def stringByte (json : Bool) (b : Byte) : List Byte :=
  if json && (decide (b.toNat < 32) || b == char '"' || b == char '\\') then
    ascii "\\u" ++ [hexDigit 0, hexDigit 0, hexDigit (b.toNat / 16), hexDigit (b.toNat % 16)]
  else [b]

def string (o : Output) (name : String) (s : List Byte) (last : Bool) : Output :=
  let o := o.append (if o.json then ascii "\"" ++ ascii name ++ ascii "\":\"" else ascii name ++ ascii "=")
  let o := (s.takeWhile (· ≠ 0)).foldl (fun o b => o.append (stringByte o.json b)) o
  o.append ((if o.json then ascii "\"" else []) ++ separator o.json last)

end Output

def addressText (ip : Word) : List Byte := [char '.'].intercalate ((wordBytes ip).map fun b => Json.decimal b.toNat)

def macText (mac : Mac) : List Byte :=
  [char ':'].intercalate ((macBytes mac).map fun b => [hexDigit (b.toNat / 16), hexDigit (b.toNat % 16)])

def typeName (action : Word) : String :=
  if action ≤ netProhibit then ["unicast", "blackhole", "unreachable", "prohibit"].getD action.toNat "" else "invalid"

def prefixText (ip length : Word) : List Byte := (addressText ip ++ ascii "/" ++ Json.decimal length.toNat).take 23

def Output.netPrefix (o : Output) (name : String) (ip length : Word) (last : Bool) : Output :=
  o.string name (prefixText ip length) last

structure FormatLink where
  id : Word16
  portId : Word16
  mtu : Word16
  mac : Mac
  rxPackets : ℕ
  txPackets : ℕ
  txDrops : ℕ
  rxBytes : ℕ
  txBytes : ℕ
  name : List Byte
  adminDown : Byte
  carrier : Word
  carrierKnown : Word
  driver : List Byte
  ierrors : ℕ
  imissed : ℕ
  oerrors : ℕ

structure AdminSocket where
  owner : ℕ
  fd : Word
  opened : Word
  type : Word
  state : Word
  rx : Word
  tx : Word
  localAddr : SockAddr
  remoteAddr : SockAddr

structure FormatNode where
  name : List Byte
  stats : NodeStats

/-- What `admin_format` reads of `struct admin_view`; the lists hold the elements within their counts. -/
structure FormatView where
  config : NetConfig
  acl : AclCounters
  links : List FormatLink
  sockets : List AdminSocket
  neighbours : List NeighbourEntry
  nodes : List FormatNode
  tcp : TcpStats
  icmp : IcmpErrorState
  drops : DropReason → ℕ
  uptime : ℕ
  forwarding : Word
  route : RouteResult
  routeReason : DropReason

structure DaemonIdentity where
  owner : ℕ
  pid : ℕ
  uid : ℕ

def formatDevice (v : FormatView) (name : List Byte) : Except Errno ℕ :=
  match v.links.findIdx? fun l => l.name.takeWhile (· ≠ 0) == name.takeWhile (· ≠ 0) with
  | some i => .ok i
  | none => .error .enodev

def deviceName (v : FormatView) (dev : ℕ) : List Byte := (v.links[dev]?.map (·.name)).getD (ascii "*")

def graphDropNames : List (DropReason × String) :=
  [(.portBinding, "port_binding"), (.truncatedEth, "truncated_eth"),
    (.unsupportedEthertype, "unsupported_ethertype"), (.invalidArp, "invalid_arp"), (.invalidIpv4, "invalid_ipv4"),
    (.ipv4Fragment, "ipv4_fragment"), (.notLocal, "not_local"), (.ipv4Options, "ipv4_options"),
    (.invalidIcmp, "invalid_icmp"), (.unsupportedIcmp, "unsupported_icmp"),
    (.unsupportedProtocol, "unsupported_protocol"), (.graphFull, "graph_full"), (.txFailed, "tx_failed"),
    (.mtu, "mtu"), (.noTailroom, "no_tailroom"), (.noncontiguous, "noncontiguous"),
    (.invalidSource, "invalid_source"), (.neighbourNotFound, "neighbour_not_found"),
    (.invalidDestination, "invalid_destination"), (.invalidUdp, "invalid_udp"), (.udpBadLength, "udp_bad_length"),
    (.udpBadChecksum, "udp_bad_checksum"), (.udpUnboundPort, "udp_unbound_port"),
    (.udpRxQueueFull, "udp_rx_queue_full"), (.mbufAllocationFailed, "mbuf_allocation_failed"),
    (.noHeadroom, "no_headroom"), (.noRoute, "no_route"), (.invalidEgress, "invalid_egress"),
    (.forwardingDisabled, "forwarding_disabled"), (.neighbourQueueFull, "neighbour_queue_full"),
    (.neighbourPendingFull, "neighbour_pending_full"), (.neighbourResolutionTimeout, "neighbour_resolution_timeout"),
    (.neighbourCancelled, "neighbour_cancelled"), (.ttlExpired, "ttl_expired"), (.invalidTcp, "invalid_tcp"),
    (.tcpBadChecksum, "tcp_bad_checksum"), (.tcpInvalidState, "tcp_invalid_state"), (.tcpNoSocket, "tcp_no_socket"),
    (.tcpBacklogFull, "tcp_backlog_full"), (.tcpOutOfOrder, "tcp_out_of_order"),
    (.routeBlackhole, "route_blackhole"), (.routeUnreachable, "route_unreachable"),
    (.routeProhibit, "route_prohibit"), (.acl, "acl")]

def tcpStateNames : List String :=
  ["CLOSED", "LISTEN", "SYN_SENT", "SYN_RECEIVED", "ESTABLISHED", "FIN_WAIT_1", "FIN_WAIT_2", "CLOSE_WAIT", "LAST_ACK",
    "TIME_WAIT"]

section Rows

variable (v : FormatView) (r : AdminWireRequest)

def tableIds (c : NetConfig) : List Word :=
  (c.routes.map (·.table) ++ c.rules.map (·.table)).foldl
    (fun ids t => if t = 0 then ids else if ids.contains t then ids else ids ++ [t])
    [netTableLocal, netTableMain, netTableDefault]

def statusRow (apps : List DaemonIdentity) (o : Output) : Output :=
  let clients := apps.countP (·.owner ≠ 0)
  let tables := (tableIds v.config).length
  o.row.string "state" (ascii "running") false
    |>.number "uptime_seconds" v.uptime false
    |>.number "generation" v.config.generation false
    |>.number "workers" 1 false
    |>.number "ports" v.links.length false
    |>.number "applications" clients false
    |>.number "sockets" v.sockets.length false
    |>.number "acl_rules" v.config.acls.length false
    |>.number "routing_tables" tables false
    |>.number "forwarding" v.forwarding.toNat true
    |>.endRow

def flagged (flag : Word) : Bool := r.flags &&& flag != 0

def linkRow (l : FormatLink) (o : Output) : Output :=
  let o := o.row.number "id" l.id.toNat false
    |>.string "name" l.name false
    |>.string "admin" (ascii (if l.adminDown ≠ 0 then "DOWN" else "UP")) false
    |>.number "carrier_known" l.carrierKnown.toNat false
    |>.number "carrier" l.carrier.toNat false
    |>.number "mtu" l.mtu.toNat (!flagged r adminStats && flagged r adminBrief)
  let o := if flagged r adminBrief then o
    else o.number "dpdk_port" l.portId.toNat false
      |>.string "mac" (macText l.mac) false
      |>.string "driver" l.driver (!flagged r adminStats)
  let o := if flagged r adminStats then
      o.number "rx_packets" l.rxPackets false
        |>.number "rx_bytes" l.rxBytes false
        |>.number "tx_packets" l.txPackets false
        |>.number "tx_bytes" l.txBytes false
        |>.number "tx_drops" l.txDrops false
        |>.number "rx_errors" l.ierrors false
        |>.number "rx_missed" l.imissed false
        |>.number "tx_errors" l.oerrors true
    else o
  o.endRow

def addrRow (a : NetAddress) (o : Output) : Output :=
  o.row.string "dev" (deviceName v a.dev.toNat) false
    |>.netPrefix "address" a.ip a.prefixLen true
    |>.endRow

def routeGetRow (o : Output) : Output :=
  let p := v.route
  o.row.string "destination" (addressText r.v.ip) false
    |>.string "source" (addressText p.sourceIp) false
    |>.string "dev" (if p.type ≠ 0 then ascii "*" else deviceName v p.netifId) false
    |>.string "next_hop" (addressText p.nextHop) false
    |>.number "table" p.table.toNat false
    |>.number "rule_pref" p.rulePref.toNat false
    |>.string "type" (ascii (if p.isLocal then "local" else typeName p.type)) true
    |>.endRow

def localRouteRow (a : NetAddress) (o : Output) : Output :=
  o.row.netPrefix "destination" a.ip 32 false
    |>.string "dev" (deviceName v a.dev.toNat) false
    |>.number "table" netTableLocal.toNat false
    |>.string "type" (ascii "local") true
    |>.endRow

def routeRow (p : NetRoute) (o : Output) : Output :=
  o.row.netPrefix "destination" p.ip p.prefixLen false
    |>.string "gateway" (addressText p.gateway) false
    |>.string "dev" (if p.type ≠ 0 then ascii "*" else deviceName v p.dev.toNat) false
    |>.number "table" p.table.toNat false
    |>.number "connected" p.connected.toNat false
    |>.string "type" (ascii (typeName p.type)) true
    |>.endRow

def ruleRow (p : NetRule) (o : Output) : Output :=
  o.row.number "pref" p.pref.toNat false
    |>.netPrefix "from" p.src p.srcPrefix false
    |>.netPrefix "to" p.dst p.dstPrefix false
    |>.string "iif" (deviceName v p.iif.toNat) false
    |>.string "action" (ascii (typeName p.type)) false
    |>.number "table" p.table.toNat true
    |>.endRow

def aclRow (a : NetAcl) (counter : ℕ × ℕ) (o : Output) : Output :=
  o.row.number "id" a.pref.toNat false
    |>.number "pref" a.pref.toNat false
    |>.netPrefix "src" a.src a.srcPrefix false
    |>.netPrefix "dst" a.dst a.dstPrefix false
    |>.string "iif" (deviceName v a.iif.toNat) false
    |>.number "protocol" a.proto.toNat false
    |>.number "ports" a.ports.toNat false
    |>.number "sport_min" a.sportMin.toNat false
    |>.number "sport_max" a.sportMax.toNat false
    |>.number "dport_min" a.dportMin.toNat false
    |>.number "dport_max" a.dportMax.toNat false
    |>.string "action" (ascii (if a.drop ≠ 0 then "drop" else "accept")) false
    |>.number "packets" counter.1 false
    |>.number "bytes" counter.2 true
    |>.endRow

def aclDefaultRow (o : Output) : Output :=
  o.row.string "default" (ascii (if v.config.defaultDrop ≠ 0 then "drop" else "accept")) false
    |>.number "accepted" v.acl.accepted false
    |>.number "dropped" v.acl.dropped false
    |>.number "default_matches" v.acl.defaults true
    |>.endRow

def neighRow (n : NeighbourEntry) (o : Output) : Output :=
  o.row.string "address" (addressText n.ip) false
    |>.string "dev" (deviceName v n.netifId.toNat) false
    |>.string "lladdr" (macText n.mac) false
    |>.string "state" (ascii (if n.permanent then "PERMANENT" else "DYNAMIC")) true
    |>.endRow

def socketRow (s : AdminSocket) (o : Output) : Output :=
  o.row.number "id" s.fd.toNat false
    |>.number "owner" s.owner false
    |>.string "protocol" (ascii (if s.type = 2 then "udp" else "tcp")) false
    |>.string "local" (addressText s.localAddr.ip) false
    |>.number "local_port" s.localAddr.port.toNat false
    |>.string "remote" (addressText s.remoteAddr.ip) false
    |>.number "remote_port" s.remoteAddr.port.toNat false
    |>.string "state" (ascii (if s.type = 2 then "BOUND" else tcpStateNames.getD s.state.toNat "UNKNOWN")) false
    |>.number "open" s.opened.toNat false
    |>.number "rx_queue" s.rx.toNat false
    |>.number "tx_queue" s.tx.toNat true
    |>.endRow

def appRow (a : DaemonIdentity) (o : Output) : Output :=
  o.row.number "id" a.owner false
    |>.number "pid" a.pid false
    |>.number "uid" a.uid false
    |>.number "sockets" (v.sockets.countP (·.owner = a.owner)) false
    |>.string "state" (ascii "connected") true
    |>.endRow

def tcpStatsRow (o : Output) : Output :=
  o.row.string "kind" (ascii "tcp") false
    |>.number "syns" (v.tcp.events .syns) false
    |>.number "established" (v.tcp.events .established) false
    |>.number "closed" (v.tcp.events .closed) false
    |>.number "resets" (v.tcp.events .resets) false
    |>.number "retransmissions" (v.tcp.events .retransmissions) false
    |>.number "timeouts" (v.tcp.events .timeouts) true
    |>.endRow

def icmpStatsRow (o : Output) : Output :=
  o.row.string "kind" (ascii "icmp") false
    |>.number "generated" v.icmp.generated false
    |>.number "suppressed" v.icmp.suppressed false
    |>.number "rate_limited" v.icmp.rateLimited false
    |>.number "failed" v.icmp.failed true
    |>.endRow

def nodeRow (n : FormatNode) (i : ℕ) (o : Output) : Output :=
  o.row.string "kind" (ascii "node") false
    |>.string "name" n.name false
    |>.number "node" i false
    |>.number "packets" n.stats.packets false
    |>.number "bytes" n.stats.bytes false
    |>.number "drops" n.stats.drops false
    |>.number "errors" n.stats.errors true
    |>.endRow

def dropRow (reason : DropReason × String) (o : Output) : Output :=
  o.row.string "kind" (ascii "drop") false
    |>.string "reason" (ascii reason.2) false
    |>.number "count" (v.drops reason.1) true
    |>.endRow

def rowsOf {α : Type} (keep : α → Bool) (write : α → Output → Output) (l : List α) (o : Output) : Output :=
  l.foldl (fun o a => if keep a then write a o else o) o

def passes (filter : Option ℕ) (dev : ℕ) : Bool := filter.all (· == dev)

def builtinRule (pref table : Word) : NetRule :=
  { pref := pref, src := 0, srcPrefix := 0, dst := 0, dstPrefix := 0, iif := netIifNone, table := table, type := 0 }

def routeRows (o : Output) : Output :=
  let table := r.v.table
  let o := if table = 0 ∨ table = netTableLocal then
      rowsOf (fun _ => true) (localRouteRow v) v.config.addresses o
    else o
  rowsOf (fun p => decide (table = 0 ∨ p.table = table)) (routeRow v) v.config.routes o

def ruleRows (o : Output) : Output :=
  let o := ruleRow v (builtinRule 0 netTableLocal) o
  let o := rowsOf (fun _ => true) (ruleRow v) v.config.rules o
  let o := ruleRow v (builtinRule 32766 netTableMain) o
  ruleRow v (builtinRule 32767 netTableDefault) o

def aclRows (o : Output) : Output :=
  aclDefaultRow v (rowsOf (fun _ => true) (fun p => aclRow v p.1 (v.acl.rules p.2)) v.config.acls.zipIdx o)

def statsRows (o : Output) : Output :=
  let o := icmpStatsRow v (tcpStatsRow v o)
  let o := if flagged r adminNodes then rowsOf (fun _ => true) (fun p => nodeRow p.1 p.2) v.nodes.zipIdx o else o
  rowsOf (fun reason => v.drops reason.1 ≠ 0) (dropRow v) graphDropNames o

def routeShown (reason : DropReason) : Bool :=
  reason == .none || reason == .routeBlackhole || reason == .routeUnreachable || reason == .routeProhibit

def groupRows (apps : List DaemonIdentity) (filter : Option ℕ) (o : Output) : Except Errno Output :=
  match adminGroup r.group with
  | some .status => .ok (statusRow v apps o)
  | some .link => .ok (rowsOf (fun p => passes filter p.2) (fun p => linkRow r p.1) v.links.zipIdx o)
  | some .addr => .ok (rowsOf (fun a => passes filter a.dev.toNat) (addrRow v) v.config.addresses o)
  | some .route =>
    if adminVerb r.verb = some .get then
      if routeShown v.routeReason then .ok (routeGetRow v r o) else .error .enetunreach
    else .ok (routeRows v r o)
  | some .rule => .ok (ruleRows v o)
  | some .acl => .ok (aclRows v o)
  | some .neigh => .ok (rowsOf (fun n => n.inUse && passes filter n.netifId.toNat) (neighRow v) v.neighbours o)
  | some .socket => .ok (rowsOf (fun _ => true) socketRow v.sockets o)
  | some .app => .ok (rowsOf (fun a => a.owner ≠ 0) (appRow v) apps o)
  | some .stats => .ok (statsRows v r o)
  | some .monitor | none => .error .eopnotsupp

def requestFilter : Except Errno (Option ℕ) :=
  if r.dev.toList.head? = some 0 then .ok none else (formatDevice v r.dev.toList).map some

def openItems (o : Output) : Output :=
  if o.json then
    o.append (ascii "\x7b\"schema\":1,\"generation\":" ++ Json.decimal v.config.generation ++ ascii ",\"items\":[")
  else o

def closeItems (o : Output) : Except Errno (ℤ × List Byte) :=
  let o := if o.json then o.append (ascii "]\x7d\n") else o
  match o.error with
  | some e => .error e
  | none => .ok ((BitVec.ofNat 32 o.text.length).toInt, o.text)

def adminFormat (apps : List DaemonIdentity) (size : ℕ) : Except Errno (ℤ × List Byte) := do
  let filter ← requestFilter v r
  let o ← groupRows v r apps filter (openItems v { size := size, json := flagged r adminJson })
  closeItems o

end Rows

namespace Output

def Fits (o : Output) (n : ℕ) : Prop := o.error = none ∧ o.text.length + n < o.size

structure Emits (o : Output) (s : List Byte) (first : Bool) (o' : Output) : Prop where
  json : o'.json = o.json
  size : o'.size = o.size
  first : o'.first = first
  written : o.Fits s.length → o'.error = none ∧ o'.text = o.text ++ s
  refused : ¬ o.Fits s.length → o'.error = some (o.error.getD .enobufs)

variable {o o' o'' : Output} {s t : List Byte} {first first' : Bool}

theorem emits_append (o : Output) (s : List Byte) : Emits o s o.first (o.append s) := by
  unfold append
  split_ifs with herror hfull
  · refine ⟨rfl, rfl, rfl, fun h => ?_, fun _ => ?_⟩
    · rw [h.1] at herror
      cases herror
    · obtain ⟨e, he⟩ := Option.isSome_iff_exists.mp herror
      rw [he]
      rfl
  · have hnone := Option.not_isSome_iff_eq_none.mp herror
    refine ⟨rfl, rfl, rfl, fun h => ?_, fun _ => ?_⟩
    · have := h.2
      omega
    · rw [hnone]
      rfl
  · have hnone := Option.not_isSome_iff_eq_none.mp herror
    exact ⟨rfl, rfl, rfl, fun _ => ⟨hnone, rfl⟩, fun h => absurd ⟨hnone, by omega⟩ h⟩

def Room (o : Output) : Prop := o.error = none → o.text.length < o.size

theorem Emits.nothing (h : o.Room) : Emits o [] o.first o := by
  refine ⟨rfl, rfl, rfl, fun hfits => ⟨hfits.1, (List.append_nil _).symm⟩, fun hfull => ?_⟩
  cases he : o.error with
  | none => exact absurd ⟨he, h he⟩ hfull
  | some e => rfl

theorem Emits.room (h : Emits o s first o') : o'.Room := by
  intro herror
  by_cases hs : o.Fits s.length
  · rw [(h.written hs).2, h.size, List.length_append]
    exact hs.2
  · rw [h.refused hs] at herror
    cases herror

theorem Emits.trans (h₁ : Emits o s first o') (h₂ : Emits o' t first' o'') : Emits o (s ++ t) first' o'' := by
  have hlen : (s ++ t).length = s.length + t.length := List.length_append
  refine ⟨h₂.json.trans h₁.json, h₂.size.trans h₁.size, h₂.first, fun hfits => ?_, fun hfull => ?_⟩
  · obtain ⟨herror, htext⟩ := h₁.written ⟨hfits.1, by have := hfits.2; omega⟩
    have hroom : o'.Fits t.length := by
      refine ⟨herror, ?_⟩
      have := hfits.2
      rw [htext, h₁.size, List.length_append]
      omega
    obtain ⟨herror', htext'⟩ := h₂.written hroom
    exact ⟨herror', by rw [htext', htext, List.append_assoc]⟩
  · by_cases hs : o.Fits s.length
    · obtain ⟨herror, htext⟩ := h₁.written hs
      have hroom : ¬ o'.Fits t.length := by
        intro hroom
        have := hroom.2
        rw [htext, h₁.size, List.length_append] at this
        exact hfull ⟨hs.1, by omega⟩
      rw [h₂.refused hroom, herror, hs.1]
    · have herror := h₁.refused hs
      have hroom : ¬ o'.Fits t.length := fun hroom => by
        rw [hroom.1] at herror
        cases herror
      rw [h₂.refused hroom, herror]
      rfl

theorem ascii_quote : ascii "\"" = [char '"'] := rfl

theorem ascii_colon : ascii "\":" = [char '"', char ':'] := rfl

theorem ascii_open_string : ascii "\":\"" = [char '"', char ':', char '"'] := rfl

def comma (last : Bool) : List Byte := if last then [] else [char ',']

theorem separator_json (last : Bool) : separator true last = comma last := by
  cases last <;> rfl

def escaped (s : List Byte) : List Byte := (s.takeWhile (· ≠ 0)).flatMap (stringByte true)

theorem stringByte_body (b : Byte) : Json.Body (stringByte true b) := by
  have hb : b.toNat < 256 := b.isLt
  unfold stringByte
  split
  · exact .unicode (Json.hexDigit_valid (by decide)) (Json.hexDigit_valid (by decide))
      (Json.hexDigit_valid (by omega)) (Json.hexDigit_valid (by omega)) .nil
  · rename_i h
    simp only [Bool.true_and, Bool.or_eq_true, decide_eq_true_eq, beq_iff_eq, not_or, not_lt] at h
    obtain ⟨⟨hcontrol, hquote⟩, hslash⟩ := h
    refine .plain ⟨hcontrol, fun h => hquote ?_, fun h => hslash ?_⟩ .nil
    · exact BitVec.eq_of_toNat_eq h
    · exact BitVec.eq_of_toNat_eq h

theorem escaped_stringLit (s : List Byte) : Json.StringLit (quoted (escaped s)) :=
  .mk (Json.body_flatMap fun b _ => stringByte_body b)

theorem number_emits (hjson : o.json = true) (name : String) (n : ℕ) (last : Bool) :
    Emits o ((quoted (ascii name) ++ char ':' :: Json.decimal n) ++ comma last) o.first (o.number name n last) := by
  have h := emits_append o ((if o.json then ascii "\"" ++ ascii name ++ ascii "\":" else ascii name ++ ascii "=") ++
    Json.decimal n ++ separator o.json last)
  rw [hjson, if_pos rfl, separator_json, ascii_quote, ascii_colon] at h
  unfold number
  rw [hjson, if_pos rfl, separator_json, ascii_quote, ascii_colon]
  simpa only [quoted, List.append_assoc, List.cons_append, List.nil_append] using h

theorem bytes_emits (hjson : o.json = true) (hroom : o.Room) (s : List Byte) :
    Emits o (s.flatMap (stringByte true)) o.first (s.foldl (fun o b => o.append (stringByte o.json b)) o) := by
  induction s generalizing o with
  | nil => exact .nothing hroom
  | cons b s ih =>
    have hb := emits_append o (stringByte o.json b)
    have hs := ih (hb.json.trans hjson) hb.room
    rw [hb.first] at hs
    rw [List.flatMap_cons, List.foldl_cons]
    nth_rewrite 1 [← hjson]
    exact hb.trans hs

theorem string_emits (hjson : o.json = true) (name : String) (s : List Byte) (last : Bool) :
    Emits o ((quoted (ascii name) ++ char ':' :: quoted (escaped s)) ++ comma last) o.first (o.string name s last) := by
  have hopen := emits_append o (ascii "\"" ++ ascii name ++ ascii "\":\"")
  have hbytes := bytes_emits (hopen.json.trans hjson) hopen.room (s.takeWhile (· ≠ 0))
  have hclose := emits_append ((s.takeWhile (· ≠ 0)).foldl (fun o b => o.append (stringByte o.json b))
    (o.append (ascii "\"" ++ ascii name ++ ascii "\":\""))) (ascii "\"" ++ comma last)
  have hall := (hopen.trans hbytes).trans hclose
  rw [hbytes.first, hopen.first] at hall
  have hstring : o.string name s last = ((s.takeWhile (· ≠ 0)).foldl (fun o b => o.append (stringByte o.json b))
      (o.append (ascii "\"" ++ ascii name ++ ascii "\":\""))).append (ascii "\"" ++ comma last) := by
    unfold string
    dsimp only
    rw [hjson, if_pos rfl, hbytes.json, hopen.json, hjson, if_pos rfl, separator_json]
  rw [hstring]
  rw [ascii_quote, ascii_open_string] at hall ⊢
  simpa only [quoted, escaped, List.append_assoc, List.cons_append, List.nil_append] using hall

end Output

section Rows

open Output

variable {f g : Output → Output} {name : List Char} {names : List (List Char)}

def itemsText : Bool → List (List Byte) → List Byte
  | _, [] => []
  | first, t :: ts => comma first ++ t ++ itemsText false ts

theorem itemsText_append (first : Bool) (ts us : List (List Byte)) :
    itemsText first (ts ++ us) = itemsText first ts ++ itemsText (first && ts.isEmpty) us := by
  induction ts generalizing first with
  | nil => cases first <;> rfl
  | cons t ts ih =>
    rw [List.isEmpty_cons, Bool.and_false, List.cons_append, itemsText, itemsText, ih false, Bool.false_and,
      ← List.append_assoc]

theorem itemsText_joined (ts : List (List Byte)) : itemsText true ts = joined ts := by
  cases ts with
  | nil => rfl
  | cons t ts =>
    rw [itemsText, comma, if_pos rfl, List.nil_append]
    induction ts generalizing t with
    | nil => rfl
    | cons u ts ih =>
      rw [itemsText, Json.joined_cons_cons, ← ih u]
      rfl

def Rows (f : Output → Output) : Prop :=
  ∃ ts, (∀ t ∈ ts, Json.Object t) ∧
    ∀ o : Output, o.json = true → o.Room → Emits o (itemsText o.first ts) (o.first && ts.isEmpty) (f o)

def Writes (render : List (List Byte) → List Byte) (names : List (List Char)) (f : Output → Output) : Prop :=
  names.all (List.all · plainChar) = true → ∃ ms : List (List Byte), (∀ m ∈ ms, Json.Member m) ∧
    ∀ o : Output, o.json = true → Emits o (comma o.first ++ char '\x7b' :: render ms) false (f o)

def Opens : List (List Char) → (Output → Output) → Prop := Writes fun ms => ms.flatMap (· ++ [char ','])

def Fills : List (List Char) → (Output → Output) → Prop := Writes joined

theorem Opens.row : Opens [] Output.row := by
  refine fun _ => ⟨[], nofun, fun o hjson => ?_⟩
  have h := emits_append o ((if o.first then [] else ascii ",") ++ ascii "\x7b")
  have hrow : o.row = { o.append ((if o.first then [] else ascii ",") ++ ascii "\x7b") with first := false } :=
    if_pos hjson
  rw [hrow]
  exact ⟨h.json, h.size, rfl, h.written, h.refused⟩

theorem member_concat {ms : List (List Byte)} {m : List Byte} (hms : ∀ u ∈ ms, Json.Member u) (hm : Json.Member m) :
    ∀ u ∈ ms ++ [m], Json.Member u := by
  intro u hu
  obtain hu | hu := List.mem_append.mp hu
  · exact hms u hu
  · obtain rfl := List.mem_singleton.mp hu
    exact hm

theorem Opens.extend {render : List (List Byte) → List Byte} {last : Bool}
    (hrender : ∀ ms m, render (ms ++ [m]) = ms.flatMap (· ++ [char ',']) ++ (m ++ comma last)) (hf : Opens names f)
    {m : List Byte} (hm : name.all plainChar = true → Json.Member m)
    (hg : ∀ {o : Output}, o.json = true → Emits o (m ++ comma last) o.first (g o)) :
    Writes render (name :: names) fun o => g (f o) := by
  intro hnames
  obtain ⟨hname, hnames⟩ := Bool.and_eq_true_iff.mp hnames
  obtain ⟨ms, hms, hemits⟩ := hf hnames
  refine ⟨ms ++ [m], member_concat hms (hm hname), fun o hjson => ?_⟩
  have h₁ := hemits o hjson
  have h₂ := hg (h₁.json.trans hjson)
  have htext : comma o.first ++ char '\x7b' :: render (ms ++ [m]) =
      comma o.first ++ char '\x7b' :: ms.flatMap (· ++ [char ',']) ++ (m ++ comma last) := by
    rw [hrender, List.append_assoc]
    rfl
  rw [h₁.first] at h₂
  rw [htext]
  exact h₁.trans h₂

theorem flatMap_concat (ms : List (List Byte)) (m : List Byte) :
    (ms ++ [m]).flatMap (· ++ [char ',']) = ms.flatMap (· ++ [char ',']) ++ (m ++ comma false) := by
  rw [List.flatMap_append, List.flatMap_singleton]
  rfl

theorem joined_last (ms : List (List Byte)) (m : List Byte) :
    joined (ms ++ [m]) = ms.flatMap (· ++ [char ',']) ++ (m ++ comma true) := by
  rw [Json.joined_concat, show comma true = [] from rfl, List.append_nil]

theorem Opens.number {n : ℕ} (hf : Opens names f) :
    Opens (name :: names) fun o => (f o).number (String.ofList name) n false :=
  hf.extend flatMap_concat (fun hname => .mk (Json.stringLit_name hname) (Json.decimal_value n)) fun hjson => number_emits hjson _ n false

theorem Opens.lastNumber {n : ℕ} (hf : Opens names f) :
    Fills (name :: names) fun o => (f o).number (String.ofList name) n true :=
  hf.extend joined_last (fun hname => .mk (Json.stringLit_name hname) (Json.decimal_value n)) fun hjson => number_emits hjson _ n true

theorem Opens.string {s : List Byte} (hf : Opens names f) :
    Opens (name :: names) fun o => (f o).string (String.ofList name) s false :=
  hf.extend flatMap_concat (fun hname => .mk (Json.stringLit_name hname) (.string (escaped_stringLit s))) fun hjson =>
    string_emits hjson _ s false

theorem Opens.lastString {s : List Byte} (hf : Opens names f) :
    Fills (name :: names) fun o => (f o).string (String.ofList name) s true :=
  hf.extend joined_last (fun hname => .mk (Json.stringLit_name hname) (.string (escaped_stringLit s))) fun hjson =>
    string_emits hjson _ s true

theorem Fills.endRow (hf : Fills names f) (hnames : names.all (List.all · plainChar) = true) :
    Rows fun o => (f o).endRow := by
  obtain ⟨ms, hms, hemits⟩ := hf hnames
  refine ⟨[char '\x7b' :: joined ms ++ [char '\x7d']], fun t ht => ?_, fun o hjson _ => ?_⟩
  · obtain rfl := List.mem_singleton.mp ht
    exact Json.object_joined hms
  · have h₁ := hemits o hjson
    have h₂ := emits_append (f o) (ascii "\x7d")
    have hend : (f o).endRow = (f o).append (ascii "\x7d") := by
      rw [Output.endRow, h₁.json, hjson, if_pos rfl]
    have htext : itemsText o.first [char '\x7b' :: joined ms ++ [char '\x7d']] =
        comma o.first ++ char '\x7b' :: joined ms ++ ascii "\x7d" := by
      rw [itemsText, itemsText, List.append_nil, List.append_assoc]
      rfl
    rw [h₁.first, ← hend] at h₂
    rw [htext, List.isEmpty_cons, Bool.and_false]
    exact h₁.trans h₂

theorem Rows.none : Rows fun o => o := ⟨[], nofun, fun o _ hroom => by
  rw [List.isEmpty_nil, Bool.and_true]
  exact .nothing hroom⟩

theorem Rows.comp (hg : Rows g) (hf : Rows f) : Rows fun o => g (f o) := by
  obtain ⟨us, hus, hg⟩ := hg
  obtain ⟨ts, hts, hf⟩ := hf
  refine ⟨ts ++ us, fun t ht => (List.mem_append.mp ht).elim (hts t) (hus t), fun o hjson hroom => ?_⟩
  have h₁ := hf o hjson hroom
  have h₂ := hg (f o) (h₁.json.trans hjson) h₁.room
  rw [h₁.first] at h₂
  have hempty : (ts ++ us).isEmpty = (ts.isEmpty && us.isEmpty) := by
    cases ts <;> rfl
  rw [itemsText_append, hempty, ← Bool.and_assoc]
  exact h₁.trans h₂

theorem Rows.rowsOf {α : Type} {keep : α → Bool} {write : α → Output → Output} (h : ∀ a, Rows (write a)) (l : List α) :
    Rows (rowsOf keep write l) := by
  induction l with
  | nil => exact .none
  | cons a l ih =>
    have ha : Rows fun o => if keep a then write a o else o := by
      cases keep a with
      | false => exact .none
      | true => exact h a
    exact ih.comp ha

variable (v : FormatView) (r : AdminWireRequest)

theorem statusRow_rows (apps : List DaemonIdentity) : Rows (statusRow v apps) :=
  Opens.row.string.number.number.number.number.number.number.number.number.lastNumber.endRow rfl

theorem linkRow_rows (l : FormatLink) : Rows (linkRow r l) := by
  unfold linkRow
  cases flagged r adminBrief <;> cases flagged r adminStats <;>
    simp only [Bool.not_true, Bool.not_false, Bool.and_true, Bool.and_false, Bool.false_eq_true, if_true, if_false]
  · exact Opens.row.number.string.string.number.number.number
      |>.number.string.lastString.endRow rfl
  · exact Opens.row.number.string.string.number.number.number
      |>.number.string.string
      |>.number.number.number.number.number.number.number.lastNumber.endRow rfl
  · exact Opens.row.number.string.string.number.number.lastNumber.endRow rfl
  · exact Opens.row.number.string.string.number.number.number
      |>.number.number.number.number.number.number.number.lastNumber.endRow rfl

theorem addrRow_rows (a : NetAddress) : Rows (addrRow v a) := Opens.row.string.lastString.endRow rfl

theorem routeGetRow_rows : Rows (routeGetRow v r) :=
  Opens.row.string.string.string.string.number.number.lastString.endRow rfl

theorem localRouteRow_rows (a : NetAddress) : Rows (localRouteRow v a) :=
  Opens.row.string.string.number.lastString.endRow rfl

theorem routeRow_rows (p : NetRoute) : Rows (routeRow v p) :=
  Opens.row.string.string.string.number.number.lastString.endRow rfl

theorem ruleRow_rows (p : NetRule) : Rows (ruleRow v p) :=
  Opens.row.number.string.string.string.string.lastNumber.endRow rfl

theorem aclRow_rows (a : NetAcl) (counter : ℕ × ℕ) : Rows (aclRow v a counter) :=
  Opens.row.number.number.string.string.string.number.number.number.number.number.number.string.number.lastNumber
    |>.endRow rfl

theorem aclDefaultRow_rows : Rows (aclDefaultRow v) := Opens.row.string.number.number.lastNumber.endRow rfl

theorem neighRow_rows (n : NeighbourEntry) : Rows (neighRow v n) := Opens.row.string.string.string.lastString.endRow rfl

theorem socketRow_rows (s : AdminSocket) : Rows (socketRow s) :=
  Opens.row.number.number.string.string.number.string.number.string.number.number.lastNumber.endRow rfl

theorem appRow_rows (a : DaemonIdentity) : Rows (appRow v a) := Opens.row.number.number.number.number.lastString.endRow rfl

theorem tcpStatsRow_rows : Rows (tcpStatsRow v) :=
  Opens.row.string.number.number.number.number.number.lastNumber.endRow rfl

theorem icmpStatsRow_rows : Rows (icmpStatsRow v) := Opens.row.string.number.number.number.lastNumber.endRow rfl

theorem nodeRow_rows (n : FormatNode) (i : ℕ) : Rows (nodeRow n i) :=
  Opens.row.string.string.number.number.number.number.lastNumber.endRow rfl

theorem dropRow_rows (reason : DropReason × String) : Rows (dropRow v reason) := Opens.row.string.string.lastNumber.endRow rfl

theorem Rows.ite (c : Prop) [Decidable c] (hf : Rows f) : Rows fun o => if c then f o else o := by
  by_cases h : c
  · simpa only [if_pos h] using hf
  · simpa only [if_neg h] using Rows.none

theorem routeRows_rows : Rows (routeRows v r) :=
  (Rows.rowsOf (routeRow_rows v) _).comp ((Rows.rowsOf (localRouteRow_rows v) _).ite _)

theorem ruleRows_rows : Rows (ruleRows v) :=
  (ruleRow_rows v _).comp ((ruleRow_rows v _).comp ((Rows.rowsOf (ruleRow_rows v) _).comp (ruleRow_rows v _)))

theorem aclRows_rows : Rows (aclRows v) :=
  (aclDefaultRow_rows v).comp (Rows.rowsOf (fun p : NetAcl × ℕ => aclRow_rows v p.1 (v.acl.rules p.2)) _)

theorem statsRows_rows : Rows (statsRows v r) :=
  (Rows.rowsOf (dropRow_rows v) _).comp
    (((Rows.rowsOf (fun p : FormatNode × ℕ => nodeRow_rows p.1 p.2) _).ite _).comp
      ((icmpStatsRow_rows v).comp (tcpStatsRow_rows v)))

theorem groupRows_rows (apps : List DaemonIdentity) (filter : Option ℕ) :
    (∃ f, Rows f ∧ ∀ o, groupRows v r apps filter o = .ok (f o)) ∨ ∃ e, ∀ o, groupRows v r apps filter o = .error e := by
  unfold groupRows
  split
  · exact .inl ⟨_, statusRow_rows v apps, fun _ => rfl⟩
  · exact .inl ⟨_, .rowsOf (fun p : FormatLink × ℕ => linkRow_rows r p.1) _, fun _ => rfl⟩
  · exact .inl ⟨_, .rowsOf (addrRow_rows v) _, fun _ => rfl⟩
  · split_ifs
    · exact .inl ⟨_, routeGetRow_rows v r, fun _ => rfl⟩
    · exact .inr ⟨_, fun _ => rfl⟩
    · exact .inl ⟨_, routeRows_rows v r, fun _ => rfl⟩
  · exact .inl ⟨_, ruleRows_rows v, fun _ => rfl⟩
  · exact .inl ⟨_, aclRows_rows v, fun _ => rfl⟩
  · exact .inl ⟨_, .rowsOf (neighRow_rows v) _, fun _ => rfl⟩
  · exact .inl ⟨_, .rowsOf socketRow_rows _, fun _ => rfl⟩
  · exact .inl ⟨_, .rowsOf (appRow_rows v) _, fun _ => rfl⟩
  · exact .inl ⟨_, statsRows_rows v r, fun _ => rfl⟩
  · exact .inr ⟨_, fun _ => rfl⟩
  · exact .inr ⟨_, fun _ => rfl⟩

def documentText (generation : ℕ) (rows : List (List Byte)) : List Byte :=
  ascii "\x7b\"schema\":1,\"generation\":" ++ Json.decimal generation ++ ascii ",\"items\":[" ++ joined rows ++ ascii "]\x7d"

theorem header_text : ascii "\x7b\"schema\":1,\"generation\":" =
    char '\x7b' :: (quoted (ascii "schema") ++ char ':' :: Json.decimal 1) ++
      char ',' :: (quoted (ascii "generation") ++ [char ':']) := by
  have hone : Json.decimal 1 = [char '1'] := by simp [Json.decimal, Json.digit, char]
  rw [hone]
  decide +kernel

theorem items_text : ascii ",\"items\":[" = char ',' :: (quoted (ascii "items") ++ [char ':', char '[']) := by
  decide +kernel

theorem documentText_object {rows : List (List Byte)} (generation : ℕ) (h : ∀ t ∈ rows, Json.Object t) :
    Json.Object (documentText generation rows) := by
  have hschema : Json.Member (quoted (ascii "schema") ++ char ':' :: Json.decimal 1) :=
    .mk (Json.stringLit_name rfl) (Json.decimal_value 1)
  have hgeneration : Json.Member (quoted (ascii "generation") ++ char ':' :: Json.decimal generation) :=
    .mk (Json.stringLit_name rfl) (Json.decimal_value generation)
  have hitems : Json.Member (quoted (ascii "items") ++ char ':' :: (char '[' :: joined rows ++ [char ']'])) :=
    .mk (Json.stringLit_name rfl) (Json.array_joined fun t ht => (h t ht).value)
  have hobject := Json.object_joined (member_concat (member_concat (member_concat (List.forall_mem_nil _) hschema)
    hgeneration) hitems)
  have htext : documentText generation rows = char '\x7b' :: joined ([] ++
      [quoted (ascii "schema") ++ char ':' :: Json.decimal 1] ++
      [quoted (ascii "generation") ++ char ':' :: Json.decimal generation] ++
      [quoted (ascii "items") ++ char ':' :: (char '[' :: joined rows ++ [char ']'])]) ++ [char '\x7d'] := by
    rw [documentText, header_text, items_text]
    simp only [List.nil_append, List.cons_append, Json.joined_cons_cons, Json.joined_singleton, List.append_assoc]
    rfl
  rw [htext]
  exact hobject

theorem Emits.result {o o' : Output} {s : List Byte} {first : Bool} (h : Emits o s first o') (herror : o.error = none)
    (htext : o.text = []) :
    (match o'.error with
      | some e => .error e
      | none => .ok ((BitVec.ofNat 32 o'.text.length).toInt, o'.text) : Except Errno (ℤ × List Byte)) =
    if s.length < o.size then .ok ((BitVec.ofNat 32 s.length).toInt, s) else .error .enobufs := by
  have hfits : o.Fits s.length ↔ s.length < o.size := by
    rw [Fits, htext, List.length_nil, Nat.zero_add]
    exact ⟨fun h => h.2, fun h => ⟨herror, h⟩⟩
  by_cases hs : s.length < o.size
  · obtain ⟨hnone, htext'⟩ := h.written (hfits.mpr hs)
    rw [hnone, if_pos hs, htext', htext, List.nil_append]
  · have hfull := h.refused (mt hfits.mp hs)
    rw [hfull, if_neg hs, herror]
    rfl

theorem adminFormat_document (apps : List DaemonIdentity) (hjson : flagged r adminJson = true) :
    (∃ e, ∀ size, adminFormat v r apps size = .error e) ∨
    ∃ object, Json.Object object ∧ ∀ size, adminFormat v r apps size =
      if (object ++ [char '\n']).length < size then
        .ok ((BitVec.ofNat 32 (object ++ [char '\n']).length).toInt, object ++ [char '\n'])
      else .error .enobufs := by
  unfold adminFormat
  cases requestFilter v r with
  | error e => exact .inl ⟨e, fun _ => rfl⟩
  | ok filter =>
    obtain ⟨f, ⟨rows, hrows, hemits⟩, hf⟩ | ⟨e, he⟩ := groupRows_rows v r apps filter
    · refine .inr ⟨documentText v.config.generation rows, documentText_object _ hrows, fun size => ?_⟩
      change groupRows v r apps filter _ >>= _ = _
      rw [hf]
      change closeItems _ = _
      have hopen := emits_append { size := size, json := flagged r adminJson }
        (ascii "\x7b\"schema\":1,\"generation\":" ++ Json.decimal v.config.generation ++ ascii ",\"items\":[")
      have hstart : openItems v { size := size, json := flagged r adminJson } = _ := if_pos hjson
      rw [← hstart] at hopen
      generalize openItems v { size := size, json := flagged r adminJson } = o at *
      have hbody := hemits o (hopen.json.trans hjson) hopen.room
      have hclose := emits_append (f o) (ascii "]\x7d\n")
      have hall := (hopen.trans hbody).trans hclose
      have htext : documentText v.config.generation rows ++ [char '\n'] = ascii "\x7b\"schema\":1,\"generation\":" ++
          Json.decimal v.config.generation ++ ascii ",\"items\":[" ++ itemsText o.first rows ++ ascii "]\x7d\n" := by
        rw [hopen.first, itemsText_joined, documentText, List.append_assoc _ (ascii "]\x7d")]
        rfl
      rw [← htext] at hall
      rw [closeItems, hbody.json, hopen.json, if_pos hjson]
      exact Emits.result hall rfl rfl
    · refine .inl ⟨e, fun size => ?_⟩
      change (groupRows v r apps filter _ >>= _) = _
      rw [he]
      rfl

/-- JSON output is one object and a newline, and a text that does not fit is an error. -/
theorem admin_format_json (apps : List DaemonIdentity) (size : ℕ) (hjson : r.flags &&& adminJson ≠ 0) :
    (∃ e, adminFormat v r apps size = .error e) ∨
    ∃ n text object, adminFormat v r apps size = .ok (n, text) ∧ text = object ++ [char '\n'] ∧ Json.Object object ∧
      (size ≤ 2 ^ 31 → n = text.length) ∧
      ∀ size', adminFormat v r apps size' = if text.length < size' then .ok (n, text) else .error .enobufs := by
  obtain ⟨e, he⟩ | ⟨object, hobject, hsize⟩ := adminFormat_document v r apps (bne_iff_ne.mpr hjson)
  · exact .inl ⟨e, he size⟩
  · by_cases hfits : (object ++ [char '\n']).length < size
    · refine .inr ⟨_, object ++ [char '\n'], object, (hsize size).trans (if_pos hfits), rfl, hobject, fun hint => ?_, hsize⟩
      generalize (object ++ [char '\n']).length = n at *
      have hval : (BitVec.ofNat 32 n).toNat = n := Nat.mod_eq_of_lt (by omega)
      rw [BitVec.toInt_eq_toNat_of_lt (by omega), hval]
    · exact .inl ⟨_, (hsize size).trans (if_neg hfits)⟩

def emptyView : FormatView where
  config := {}
  acl := {}
  links := []
  sockets := []
  neighbours := []
  nodes := []
  tcp := {}
  icmp := {}
  drops := fun _ => 0
  uptime := 0
  forwarding := 0
  route := {}
  routeReason := .none

def aclShowRequest : AdminWireRequest where
  group := 8
  verb := 1
  flags := 1
  v := {}
  dev := Vector.replicate 64 0
  acls := []

def resolverAcl : NetAcl :=
  { pref := 10, src := 0, srcPrefix := 0, dst := 0, dstPrefix := 0, iif := netIifNone, proto := 17, sportMin := 0
    sportMax := 65535, dportMin := 53, dportMax := 53, ports := 2, drop := 0 }

def ruledView : FormatView :=
  { emptyView with config := { acls := [resolverAcl, { resolverAcl with pref := 20, drop := 1 }], defaultDrop := 1 } }

theorem admin_format_json_rules : ∃ text object, adminFormat ruledView aclShowRequest [] adminResponseMax = .ok (484, text) ∧
    text = object ++ [char '\n'] ∧ Json.Object object := by
  have hok : (adminFormat ruledView aclShowRequest [] adminResponseMax).toOption.map Prod.fst = some 484 := by decide +kernel
  obtain ⟨e, he⟩ | ⟨n, text, object, hformat, htext, hobject, -⟩ :=
    admin_format_json ruledView aclShowRequest [] adminResponseMax (by decide)
  · rw [he] at hok
    cases hok
  · rw [hformat] at hok
    obtain rfl : n = 484 := Option.some.inj hok
    exact ⟨text, object, hformat, htext, hobject⟩

end Rows

end PulsarNetstack
