import PulsarNetstack.AdminFormat
import PulsarNetstack.AppConfig

namespace PulsarNetstack

structure AclFile where
  content : List Char
  failed : Bool

/-- What the parser needs of the C library. `scanLladdr` is the `sscanf` of a hardware address, where it converts six
numbers and no more. -/
structure CLibrary where
  scanLladdr : List Char → Option (Fin 6 → Word)
  fopen : List Char → Except Errno AclFile
  strerror : Errno → List Char

structure ParseError where
  rc : Errno
  text : List Char

def ParseError.invalid : ParseError where
  rc := .einval
  text := "invalid or unsupported arguments".toList

def word32 (s : List Char) : Option Word := (number s 0xffffffff).map (BitVec.ofNat 32)

def ipPrefix (s : List Char) (host : Bool) : Option (Word × Word) :=
  if s = "all".toList ∨ s = "default".toList then if host then none else some (0, 0)
  else if 64 ≤ s.length then none
  else
    match cut '/' s with
    | none => (inetPton s).map fun ip => (ip, 32)
    | some (text, length) =>
      if host then none
      else
        match word32 length with
        | none => none
        | some prefixLen => if 32 < prefixLen then none else (inetPton text).map fun ip => (ip, prefixLen)

def tableNamed (s : List Char) : Option Word :=
  if s = "main".toList then some netTableMain
  else if s = "local".toList then some netTableLocal
  else if s = "default".toList then some netTableDefault
  else if s = "all".toList then some 0
  else (word32 s).filter (· ≠ 0)

def actionNamed (s : List Char) : Option Word :=
  if s = "unicast".toList then some 0
  else if s = "blackhole".toList then some 1
  else if s = "unreachable".toList then some 2
  else if s = "prohibit".toList then some 3
  else none

def dropNamed (s : List Char) : Option Word :=
  if s = "accept".toList then some 0 else if s = "drop".toList then some 1 else none

def strcpy {n : ℕ} (out : Vector Byte n) (s : List Byte) : Vector Byte n :=
  bytesAt n (s ++ 0 :: out.toList.drop (s.length + 1))

def devname (s : List Char) (out : Vector Byte 64) : Option (Vector Byte 64) :=
  if s = [] ∨ 64 ≤ s.length ∨ !s.all (fun c => c.isAlphanum || "_-.:".toList.contains c) then none
  else some (strcpy out (s.map Json.char))

def portsNamed (s : List Char) : Option (Word × Word) :=
  if s = "any".toList then some (0, 65535)
  else if 32 ≤ s.length then none
  else
    let (text, dash) := match cut '-' s with
      | none => (s, none)
      | some (text, dash) => (text, some dash)
    match word32 text, dash.map word32 with
    | some lo, none => if 65535 < lo then none else some (lo, lo)
    | some lo, some (some hi) => if hi < lo ∨ 65535 < hi then none else some (lo, hi)
    | _, _ => none

def groupNamed (s : List Char) : Option AdminGroup :=
  match ["status", "stats", "link", "addr", "route", "rule", "neigh", "acl", "app", "socket", "monitor"].findIdx?
      (·.toList == s) with
  | some i => adminGroups[i]?
  | none =>
    if s = "address".toList ∨ s = "a".toList then some .addr
    else if s = "r".toList then some .route
    else if s = "l".toList then some .link
    else if s = "neighbor".toList ∨ s = "neighbour".toList ∨ s = "n".toList then some .neigh
    else none

def verbNamed (s : List Char) : Option AdminVerb :=
  match ["show", "add", "replace", "del", "flush", "get", "set", "apply", "default"].findIdx? (·.toList == s) with
  | some i => adminVerbs[i]?
  | none =>
    if s = "list".toList ∨ s = "ls".toList then some .show
    else if s = "delete".toList then some .del
    else none

def groupCode (group : AdminGroup) : Word := BitVec.ofNat 32 (adminGroups.idxOf group + 1)

def verbCode (verb : AdminVerb) : Word := BitVec.ofNat 32 (adminVerbs.idxOf verb + 1)

structure ParseState where
  flags : Word := 0
  v : AdminFields := {}
  dev : Vector Byte 64 := Vector.replicate 64 0
  seen : Word := 0
  havePrefix : Bool := false
  havePref : Bool := false
  haveAction : Bool := false
  haveLookup : Bool := false
  haveMac : Bool := false
  haveNud : Bool := false

def ParseState.unnamed (s : ParseState) : Bool := s.dev.toList.head? == some 0

def ParseState.request (s : ParseState) (group : AdminGroup) (verb : AdminVerb) : AdminWireRequest where
  group := groupCode group
  verb := verbCode verb
  flags := s.flags
  v := s.v
  dev := s.dev
  acls := []

section Keys

variable (lib : CLibrary) (group : AdminGroup) (verb : AdminVerb)

def parseOperands (args : List (List Char)) (s : ParseState) : Option (List (List Char) × ParseState) :=
  if group = .route ∧ verb ≠ .show ∧ verb ≠ .flush then
    let (args, s) := match args with
      | arg :: rest =>
        match actionNamed arg with
        | some action => (rest, { s with v.action := action, haveAction := true })
        | none => (args, s)
      | [] => (args, s)
    match args with
    | [] => none
    | arg :: rest => (ipPrefix arg (verb = .get)).map fun p =>
        (rest, { s with v.ip := p.1, v.prefixLen := p.2, havePrefix := true })
  else if group = .addr ∧ verb ≠ .show ∧ verb ≠ .flush then
    match args with
    | [] => none
    | arg :: rest =>
      if '/' ∉ arg then none
      else (ipPrefix arg false).map fun p => (rest, { s with v.ip := p.1, v.prefixLen := p.2, havePrefix := true })
  else if group = .neigh ∧ verb ≠ .show ∧ verb ≠ .flush then
    match args with
    | [] => none
    | arg :: rest => (ipPrefix arg true).map fun p => (rest, { s with v.ip := p.1 })
  else if group = .acl ∧ verb = .default then
    match args with
    | [] => some ([], s)
    | [arg] => (dropNamed arg).map fun action => ([], { s with v.action := action, haveAction := true })
    | _ => none
  else some (args, s)

def parseWord (key : List Char) (s : ParseState) : Option (Option ParseState) :=
  if group = .stats ∧ key = "--nodes".toList then some (some { s with flags := s.flags ||| adminNodes })
  else if group = .link ∧ verb = .set ∧ (key = "up".toList ∨ key = "down".toList) then
    if s.v.ports ≠ 0 then some none
    else some (some { s with v.ports := 1, v.action := if key = "up".toList then 1 else 0 })
  else if group = .acl ∧ verb = .add then
    (dropNamed key).map fun action =>
      if s.haveAction then none else some { s with v.action := action, haveAction := true }
  else none

def protoNamed (s : List Char) : Option Word :=
  if s = "tcp".toList then some 6
  else if s = "udp".toList then some 17
  else if s = "icmp".toList then some 1
  else if s = "any".toList then some 0
  else (word32 s).filter (· ≤ 255)

def parseValue (key value : List Char) (s : ParseState) : Option (ℕ × ParseState) :=
  let ruled := group = .rule ∨ group = .acl
  if key = "dev".toList then
    if group = .link ∨ group = .addr ∨ group = .route ∨ group = .neigh then
      (devname value s.dev).map fun dev => (0, { s with dev := dev })
    else none
  else if key = "iif".toList then
    if !ruled then none
    else if value = "any".toList then some (0, s)
    else (devname value s.dev).map fun dev => (0, { s with dev := dev })
  else if key = "pref".toList ∨ key = "priority".toList then
    if !ruled then none
    else (word32 value).map fun n => (1, { s with v.pref := n, havePref := true })
  else if key = "src".toList ∨ key = "from".toList then
    if !ruled ∧ ¬ (group = .route ∧ verb = .get) then none
    else (ipPrefix value (group = .route)).map fun p => (2, { s with v.src := p.1, v.srcPrefix := p.2 })
  else if key = "dst".toList ∨ key = "to".toList then
    if !ruled then none
    else (ipPrefix value false).map fun p => (3, { s with v.dst := p.1, v.dstPrefix := p.2 })
  else if key = "proto".toList then
    if group ≠ .acl then none
    else (protoNamed value).map fun n => (4, { s with v.proto := n })
  else if key = "sport".toList then
    if group ≠ .acl then none
    else (portsNamed value).map fun p =>
      (5, { s with v.sportMin := p.1, v.sportMax := p.2, v.ports := s.v.ports ||| 1 })
  else if key = "dport".toList then
    if group ≠ .acl then none
    else (portsNamed value).map fun p =>
      (6, { s with v.dportMin := p.1, v.dportMax := p.2, v.ports := s.v.ports ||| 2 })
  else if key = "action".toList then
    if s.haveAction then none
    else if group = .acl then
      (dropNamed value).map fun action => (7, { s with v.action := action, haveAction := true })
    else if group = .rule then
      ((actionNamed value).filter (· ≠ 0)).map fun action => (7, { s with v.action := action, haveAction := true })
    else none
  else if key = "table".toList ∨ key = "lookup".toList then
    if group ≠ .route ∧ group ≠ .rule then none
    else (tableNamed value).map fun table => (8, { s with v.table := table, haveLookup := true })
  else if key = "via".toList then
    if group ≠ .route then none
    else (ipPrefix value true).map fun p => (9, { s with v.gateway := p.1 })
  else if key = "mtu".toList then
    if group ≠ .link ∨ verb ≠ .set ∨ s.v.ports ≠ 0 then none
    else (word32 value).map fun n => (10, { s with v.ip := n, v.ports := 2 })
  else if key = "lladdr".toList then
    if group ≠ .neigh ∨ value.length ≠ 17 then none
    else
      match lib.scanLladdr value with
      | none => none
      | some b =>
        if ∃ n, 255 < b n then none
        else some (11, { s with v.sportMin := b 0 <<< 8 ||| b 1
                                v.sportMax := b 2 <<< 24 ||| b 3 <<< 16 ||| b 4 <<< 8 ||| b 5
                                haveMac := true })
  else if key = "nud".toList then
    if group ≠ .neigh ∨ value ≠ "permanent".toList then none else some (12, { s with haveNud := true })
  else none

def parseKeys : List (List Char) → ParseState → Option ParseState
  | [], s => some s
  | [key], s => (parseWord group verb key s).join
  | key :: value :: rest, s =>
    match parseWord group verb key s with
    | some s => s.bind (parseKeys (value :: rest))
    | none =>
      (parseValue lib group verb key value s).bind fun (bit, s') =>
        if s'.seen &&& 1 <<< bit ≠ 0 then none else parseKeys rest { s' with seen := s'.seen ||| 1 <<< bit }

end Keys

section Checks

variable (group : AdminGroup) (verb : AdminVerb) (s : ParseState)

def incomplete : Bool :=
  decide ((group = .status ∨ group = .stats ∨ group = .app ∨ group = .socket) ∧ verb ≠ .show) ||
  decide (group = .addr ∧ verb ≠ .show ∧ s.unnamed) ||
  decide (group = .link ∧ verb ≠ .show ∧ (verb ≠ .set ∨ s.unnamed ∨ s.v.ports = 0)) ||
  decide (group = .neigh ∧ verb ≠ .show ∧
    (s.unnamed ∨ ((verb = .add ∨ verb = .replace) ∧ (!s.haveMac ∨ !s.haveNud)))) ||
  decide (group = .route ∧ verb ≠ .show ∧ verb ≠ .get ∧ (s.v.table = 0 ∨ s.v.table = netTableLocal)) ||
  decide (group = .route ∧ (verb = .add ∨ verb = .replace) ∧ s.v.action = 0 ∧ s.unnamed) ||
  decide (group = .rule ∧ ((verb = .add ∧ (!s.havePref ∨ (!s.haveLookup ∧ !s.haveAction) ∨
    (s.haveLookup ∧ s.haveAction))) ∨ (verb = .del ∧ !s.havePref))) ||
  decide (group = .acl ∧ ((verb = .add ∧ (!s.havePref ∨ !s.haveAction)) ∨ (verb = .del ∧ !s.havePref)))

def mismatched : Bool :=
  decide (group = .acl ∧ s.v.ports ≠ 0 ∧ s.v.proto ≠ 6 ∧ s.v.proto ≠ 17) ||
  decide (group = .route ∧ s.havePrefix ∧ verb ≠ .get ∧ s.v.ip &&& ~~~ netMask s.v.prefixLen ≠ 0) ||
  decide ((group = .rule ∨ group = .acl) ∧
    (s.v.src &&& ~~~ netMask s.v.srcPrefix ≠ 0 ∨ s.v.dst &&& ~~~ netMask s.v.dstPrefix ≠ 0))

def bits (l : List ℕ) : Word := l.foldl (fun w i => w ||| 1 <<< i) 0

def allowedKeys : Option Word :=
  match group with
  | .link => some (if verb = .set then bits [0, 10] else bits [0])
  | .addr => some (bits [0])
  | .route =>
    if verb = .flush ∧ !s.haveLookup then none
    else some (if verb = .get then bits [2] else if verb = .add ∨ verb = .replace then bits [0, 8, 9] else bits [8])
  | .rule => some (if verb = .add then bits [0, 1, 2, 3, 7, 8] else if verb = .del then bits [1] else 0)
  | .neigh => some (if verb = .add ∨ verb = .replace then bits [0, 11, 12] else bits [0])
  | .acl => some (if verb = .add then 255 else if verb = .del then bits [1] else 0)
  | _ => some 0

def finishParse : Except ParseError AdminWireRequest :=
  if incomplete group verb s then .error .invalid
  else if group = .acl ∧ verb = .default ∧ !s.haveAction then .ok (s.request group .show)
  else if mismatched group verb s then .error .invalid
  else
    match allowedKeys group verb s with
    | none => .error .invalid
    | some allowed =>
      if s.seen &&& ~~~ allowed ≠ 0 then .error .invalid
      else
        -- The request must pass the decoder of the daemon.
        match adminRequestDecode (adminRequestEncode (s.request group verb)) with
        | .error _ => .error .invalid
        | .ok _ => .ok (s.request group verb)

end Checks

def parseMonitor (verb : AdminVerb) (args : List (List Char)) : Except ParseError AdminWireRequest :=
  let s : ParseState := {}
  if verb ≠ .show then .error .invalid
  else
    match args with
    | [] => .ok (s.request .monitor verb)
    | [arg] =>
      match groupNamed arg with
      | none => .error .invalid
      | some g =>
        if groupCode g < groupCode .link ∨ groupCode .acl < groupCode g then .error .invalid
        else .ok ({ s with v.proto := groupCode g }.request .monitor verb)
    | _ => .error .invalid

def parseVerb (args : List (List Char)) : AdminVerb × List (List Char) :=
  match args with
  | [] => (.show, args)
  | arg :: rest =>
    match verbNamed arg with
    | some verb => (verb, rest)
    | none => (.show, args)

def parseStats (group : AdminGroup) (args : List (List Char)) : Word × List (List Char) :=
  if group = .acl ∧ args.head? = some "stats".toList then (adminStats, args.tail) else (0, args)

def adminParseWith (lib : CLibrary) (applyFile : Word → List Char → Except ParseError AdminWireRequest)
    (argv : List (List Char)) : Except ParseError AdminWireRequest :=
  match argv with
  | [] => .error .invalid
  | name :: args =>
    match groupNamed name with
    | none => .error .invalid
    | some group =>
      let (verb, args) := parseVerb args
      let (flags, args) := parseStats group args
      let table := if group = .route ∧ verb ≠ .get then netTableMain else 0
      if group = .monitor then parseMonitor verb args
      else if group = .acl ∧ verb = .apply then
        match args with
        | [path] => applyFile flags path
        | _ => .error .invalid
      else
        match parseOperands group verb args { flags := flags, v.table := table } with
        | none => .error .invalid
        | some (args, s) =>
          match parseKeys lib group verb args s with
          | none => .error .invalid
          | some s => finishParse group verb s

def aclLines (failed : Bool) (line : List Char) : List Char → List (List Char × Bool)
  | [] => if line = [] ∨ failed then [] else [(line.reverse, true)]
  | c :: file =>
    if c = '\n' ∨ line.length = 2046 then ((c :: line).reverse, false) :: aclLines failed [] file
    else aclLines failed (c :: line) file

def strtok (token : List Char) : List Char → List (List Char)
  | [] => if token = [] then [] else [token.reverse]
  | c :: rest =>
    if " \t\r\n".toList.contains c then
      if token = [] then strtok [] rest else token.reverse :: strtok [] rest
    else strtok (c :: token) rest

structure ApplyState where
  action : Word := 0
  haveDefault : Bool := false
  acls : List AdminWireAcl := []

def applyRecord (entry : AdminWireRequest) : AdminWireAcl where
  rule := { pref := entry.v.pref, src := entry.v.src, srcPrefix := entry.v.srcPrefix, dst := entry.v.dst
            dstPrefix := entry.v.dstPrefix, iif := netIifNone, proto := entry.v.proto, sportMin := entry.v.sportMin
            sportMax := entry.v.sportMax, dportMin := entry.v.dportMin, dportMax := entry.v.dportMax
            ports := entry.v.ports, drop := entry.v.action }
  dev := strcpy (Vector.replicate 64 0) (entry.dev.toList.takeWhile (· ≠ 0))

/-- The body of the loop of `apply_file`. The arguments of an entry start with `acl add`, so that no file is opened. -/
def applyLine (lib : CLibrary) (line : List Char) (eof : Bool) (s : ApplyState) : Except Errno ApplyState :=
  -- The buffer is read as a string, which ends at its first zero byte.
  let line := line.takeWhile fun c => c.toNat ≠ 0
  if '\n' ∉ line ∧ !eof then .error .einval
  else
    let tokens := strtok [] (line.takeWhile (· ≠ '#'))
    if 70 < tokens.length then .error .einval
    else
      match tokens with
      | [] => .ok s
      | first :: rest =>
        if first = "default".toList then
          match rest.map dropNamed with
          | [some action] =>
            if s.haveDefault then .error .einval else .ok { s with action := action, haveDefault := true }
          | _ => .error .einval
        else if s.acls.length = netAclMax then .error .enospc
        else
          match adminParseWith lib (fun _ _ => .error .invalid)
              ("acl".toList :: "add".toList :: "pref".toList :: tokens) with
          | .error e => .error e.rc
          | .ok entry =>
            let a := applyRecord entry
            if s.acls.any fun b => b.rule.pref == a.rule.pref then .error .eexist
            else .ok { s with acls := s.acls ++ [a] }

def applyLines (lib : CLibrary) (n : ℕ) (s : ApplyState) : List (List Char × Bool) → Except (Errno × ℕ) (ApplyState × ℕ)
  | [] => .ok (s, n)
  | (line, eof) :: lines =>
    match applyLine lib line eof s with
    | .error e => .error (e, n + 1)
    | .ok s => applyLines lib (n + 1) s lines

def applyFile (lib : CLibrary) (flags : Word) (path : List Char) : Except ParseError AdminWireRequest :=
  let ruleset (e : Errno) (n : ℕ) : ParseError :=
    ⟨e, path ++ ":".toList ++ (Nat.toDigits 10 n) ++ ": invalid ACL ruleset (".toList ++ lib.strerror e ++ ")".toList⟩
  match lib.fopen path with
  | .error e => .error ⟨e, path ++ ": ".toList ++ lib.strerror e⟩
  | .ok file =>
    match applyLines lib 0 {} (aclLines file.failed [] file.content) with
    | .error (e, n) => .error (ruleset e n)
    | .ok (s, n) =>
      if file.failed then .error (ruleset .eio n)
      else .ok { group := groupCode .acl, verb := verbCode .apply, flags := flags, v := { action := s.action }
                 dev := Vector.replicate 64 0, acls := s.acls }

def adminParse (lib : CLibrary) (argv : List (List Char)) : Except ParseError AdminWireRequest :=
  adminParseWith lib (applyFile lib) argv

theorem adminGroup_groupCode (group : AdminGroup) : adminGroup (groupCode group) = some group := by
  cases group <;> rfl

theorem adminVerb_verbCode (verb : AdminVerb) : adminVerb (verbCode verb) = some verb := by
  cases verb <;> rfl

structure AdminWireRequest.Accepted (r : AdminWireRequest) : Prop where
  wellFormed : ∃ group verb, r.WellFormed group verb
  prefs : (r.acls.map (·.rule.pref)).Nodup

section Commands

variable {lib : CLibrary} {group : AdminGroup} {verb : AdminVerb} {s : ParseState} {r : AdminWireRequest}

theorem ParseState.request_accepted (hflags : s.flags ≤ 15) (hdev : 0 ∈ s.dev.toList)
    (hcheck : adminRequestCheck (s.request group verb) group verb = .ok ()) : (s.request group verb).Accepted :=
  ⟨⟨group, verb, adminGroup_groupCode group, adminVerb_verbCode verb, hflags, Nat.zero_le _, fun h => absurd rfl h, hdev,
    nofun, hcheck⟩, .nil⟩

theorem zero_mem_replicate : (0 : Byte) ∈ (Vector.replicate 64 (0 : Byte)).toList := by decide

theorem parseMonitor_accepted {args : List (List Char)} (h : parseMonitor verb args = .ok r) : r.Accepted := by
  unfold parseMonitor at h
  dsimp only at h
  rw [if_error_eq_ok, not_not] at h
  obtain ⟨rfl, h⟩ := h
  -- The request without a filter and the one with a group from `ADM_LINK` to `ADM_ACL`.
  split at h
  · obtain rfl := Except.ok.inj h
    exact ParseState.request_accepted (by decide) zero_mem_replicate rfl
  · split at h
    · cases h
    · rename_i g _
      rw [if_error_eq_ok] at h
      obtain ⟨hrange, h⟩ := h
      obtain rfl := Except.ok.inj h
      cases g
      all_goals first | exact absurd (by decide) hrange | skip
      all_goals exact ParseState.request_accepted (by decide) zero_mem_replicate rfl
  · cases h

theorem finishParse_eq_ok (h : finishParse group verb s = .ok r) :
    adminRequestDecode (adminRequestEncode r) = .ok r ∧ r.acls = [] ∨
    group = .acl ∧ verb = .default ∧ s.haveAction = false ∧ r = s.request .acl .show := by
  rw [finishParse, if_error_eq_ok] at h
  obtain ⟨-, h⟩ := h
  split at h
  · rename_i hdefault
    obtain ⟨rfl, rfl, haction⟩ := hdefault
    exact .inr ⟨rfl, rfl, by simpa using haction, (Except.ok.inj h).symm⟩
  · rw [if_error_eq_ok] at h
    obtain ⟨-, h⟩ := h
    split at h
    · cases h
    · rw [if_error_eq_ok] at h
      obtain ⟨-, h⟩ := h
      split at h
      · cases h
      · rename_i decoded hdecode
        obtain rfl := Except.ok.inj h
        obtain rfl := adminRequestDecode_adminRequestEncode (Nat.zero_le _) hdecode
        exact .inl ⟨hdecode, rfl⟩

theorem accepted_of_decode (h : adminRequestDecode (adminRequestEncode r) = .ok r) (hacls : r.acls = []) : r.Accepted :=
  ⟨adminRequestDecode_wellFormed h, by rw [hacls]; exact .nil⟩

theorem parseOperands_default {args rest : List (List Char)} {s' : ParseState}
    (h : parseOperands .acl .default args s = some (rest, s')) : rest = [] ∧ (s' = s ∨ s'.haveAction = true) := by
  unfold parseOperands at h
  simp only [reduceCtorEq, false_and, if_false, and_self, if_true] at h
  split at h
  · cases h
    exact ⟨rfl, .inl rfl⟩
  · obtain ⟨action, -, h⟩ := Option.map_eq_some_iff.mp h
    cases h
    exact ⟨rfl, .inr rfl⟩
  · cases h

theorem parseStats_flags (group : AdminGroup) (args : List (List Char)) : (parseStats group args).1 ≤ 15 := by
  unfold parseStats
  split
  · exact (by decide : adminStats ≤ 15)
  · exact (by decide : (0 : Word) ≤ 15)

theorem adminParseWith_accepted {applyFile : Word → List Char → Except ParseError AdminWireRequest}
    (happly : ∀ flags path r, flags ≤ 15 → applyFile flags path = .ok r → r.Accepted) {argv : List (List Char)}
    (h : adminParseWith lib applyFile argv = .ok r) : r.Accepted := by
  unfold adminParseWith at h
  split at h
  · cases h
  · split at h
    · cases h
    · rename_i args _ group _
      dsimp only at h
      generalize (parseVerb args).1 = verb at h
      generalize (parseVerb args).2 = args at h
      have hflags := parseStats_flags group args
      generalize (parseStats group args).1 = flags at h hflags
      generalize (parseStats group args).2 = args at h
      split at h
      · exact parseMonitor_accepted h
      · split at h
        · split at h
          · exact happly flags _ r hflags h
          · cases h
        · split at h
          · cases h
          · rename_i hoperands
            split at h
            · cases h
            · rename_i hkeys
              obtain ⟨hdecode, hacls⟩ | ⟨rfl, rfl, haction, rfl⟩ := finishParse_eq_ok h
              · exact accepted_of_decode hdecode hacls
              · obtain ⟨rfl, rfl | hs⟩ := parseOperands_default hoperands
                · cases hkeys
                  exact ParseState.request_accepted hflags zero_mem_replicate rfl
                · cases hkeys
                  rw [hs] at haction
                  cases haction

end Commands

section Files

variable {lib : CLibrary} {s s' : ApplyState} {r : AdminWireRequest}

theorem zero_mem_strcpy {n : ℕ} (out : Vector Byte n) {t : List Byte} (h : t.length < n) : 0 ∈ (strcpy out t).toList := by
  have hlen : (t ++ 0 :: out.toList.drop (t.length + 1)).length = n := by
    rw [List.length_append, List.length_cons, List.length_drop, Vector.length_toList]
    omega
  rw [strcpy, toList_bytesAt hlen.ge, List.take_of_length_le hlen.le]
  exact List.mem_append_right _ List.mem_cons_self

theorem takeWhile_length_lt {l : List Byte} (h : 0 ∈ l) : (l.takeWhile (· ≠ 0)).length < l.length := by
  induction l with
  | nil => cases h
  | cons b l ih =>
    by_cases hb : b = 0
    · rw [List.takeWhile_cons_of_neg (by simpa using hb)]
      exact Nat.succ_pos _
    · rw [List.takeWhile_cons_of_pos (by simpa using hb)]
      exact Nat.succ_lt_succ (ih ((List.mem_cons.mp h).resolve_left (Ne.symm hb)))

structure ApplyState.Valid (s : ApplyState) : Prop where
  count : s.acls.length ≤ netAclMax
  prefs : (s.acls.map (·.rule.pref)).Nodup
  records : ∀ a ∈ s.acls, a.rule.iif = netIifNone ∧ 0 ∈ a.dev.toList

theorem applyState_valid : ApplyState.Valid {} := ⟨Nat.zero_le _, .nil, nofun⟩

theorem applyRecord_dev {entry : AdminWireRequest} (h : entry.Accepted) : 0 ∈ (applyRecord entry).dev.toList := by
  obtain ⟨_, _, hformed⟩ := h.wellFormed
  apply zero_mem_strcpy
  have := takeWhile_length_lt hformed.dev
  rwa [Vector.length_toList] at this

theorem ApplyState.Valid.add (h : s.Valid) {entry : AdminWireRequest} (hentry : entry.Accepted)
    (hcount : s.acls.length ≠ netAclMax) (hpref : ¬ s.acls.any (fun b => b.rule.pref == (applyRecord entry).rule.pref)) :
    ApplyState.Valid { s with acls := s.acls ++ [applyRecord entry] } := by
  refine ⟨?_, ?_, ?_⟩
  · rw [List.length_append, List.length_singleton]
    have := h.count
    omega
  · rw [List.map_append, List.map_singleton]
    refine h.prefs.append (List.nodup_singleton _) fun pref hmem hnew => ?_
    obtain ⟨a, ha, rfl⟩ := List.mem_map.mp hmem
    exact hpref (List.any_eq_true.mpr ⟨a, ha, beq_iff_eq.mpr (List.mem_singleton.mp hnew)⟩)
  · intro a ha
    obtain ha | ha := List.mem_append.mp ha
    · exact h.records a ha
    · obtain rfl := List.mem_singleton.mp ha
      exact ⟨rfl, applyRecord_dev hentry⟩

theorem applyLine_valid {line : List Char} {eof : Bool} (hs : s.Valid) (h : applyLine lib line eof s = .ok s') : s'.Valid := by
  unfold applyLine at h
  dsimp only at h
  rw [if_error_eq_ok, if_error_eq_ok] at h
  obtain ⟨-, -, h⟩ := h
  split at h
  · obtain rfl := Except.ok.inj h
    exact hs
  · split at h
    · split at h
      · rw [if_error_eq_ok] at h
        obtain rfl := Except.ok.inj h.2
        exact ⟨hs.count, hs.prefs, hs.records⟩
      · cases h
    · rw [if_error_eq_ok] at h
      obtain ⟨hcount, h⟩ := h
      split at h
      · cases h
      · rename_i entry hentry
        rw [if_error_eq_ok] at h
        obtain ⟨hpref, h⟩ := h
        obtain rfl := Except.ok.inj h
        exact hs.add (adminParseWith_accepted (fun _ _ _ _ h => by cases h) hentry) hcount hpref

theorem applyLines_valid {n n' : ℕ} {lines : List (List Char × Bool)} (hs : s.Valid)
    (h : applyLines lib n s lines = .ok (s', n')) : s'.Valid := by
  induction lines generalizing n s with
  | nil =>
    cases h
    exact hs
  | cons line lines ih =>
    rw [applyLines] at h
    split at h
    · cases h
    · rename_i hline
      exact ih (applyLine_valid hs hline) h

theorem applyFile_accepted {flags : Word} {path : List Char} (hflags : flags ≤ 15) (h : applyFile lib flags path = .ok r) :
    r.Accepted := by
  unfold applyFile at h
  dsimp only at h
  split at h
  · cases h
  · split at h
    · cases h
    · rename_i s n hlines
      rw [if_error_eq_ok] at h
      obtain rfl := Except.ok.inj h.2
      have hvalid := applyLines_valid applyState_valid hlines
      refine ⟨⟨.acl, .apply, rfl, rfl, hflags, hvalid.count, fun _ => ⟨rfl, rfl⟩, zero_mem_replicate,
        fun a ha => (hvalid.records a ha).2, ?_⟩, hvalid.prefs⟩
      change (if s.acls.any (fun a => a.rule.iif != netIifNone) then Except.error Errno.einval else Except.ok ()) = _
      rw [if_neg]
      simpa using fun a ha => (hvalid.records a ha).1

end Files

theorem adminParse_accepted {lib : CLibrary} {argv : List (List Char)} {r : AdminWireRequest}
    (h : adminParse lib argv = .ok r) : r.Accepted :=
  adminParseWith_accepted (fun _ _ _ hflags => applyFile_accepted hflags) h

def AdminWireRequest.withOptions (r : AdminWireRequest) (json brief stats : Bool) : AdminWireRequest :=
  { r with flags := r.flags ||| ((if json then adminJson else 0) ||| (if brief then adminBrief else 0) |||
      (if stats then adminStats else 0)) }

theorem flags_or_le {flags extra : Word} (h : flags ≤ 15) (hextra : extra ≤ 15) : flags ||| extra ≤ 15 := by
  have hlt := Nat.or_lt_two_pow (show flags.toNat < 2 ^ 4 from Nat.lt_succ_of_le h)
    (show extra.toNat < 2 ^ 4 from Nat.lt_succ_of_le hextra)
  rw [BitVec.le_def, BitVec.toNat_or]
  exact Nat.le_of_lt_succ hlt

theorem AdminWireRequest.WellFormed.withOptions {r : AdminWireRequest} {group : AdminGroup} {verb : AdminVerb}
    (h : r.WellFormed group verb) (json brief stats : Bool) : (r.withOptions json brief stats).WellFormed group verb := by
  have hextra : (if json then adminJson else 0) ||| (if brief then adminBrief else 0) ||| (if stats then adminStats else 0) ≤
      (15 : Word) := by
    cases json <;> cases brief <;> cases stats <;> decide
  exact ⟨h.hgroup, h.hverb, flags_or_le h.flags hextra, h.count, h.records, h.dev, h.devs, h.checked⟩

def AdminWireRequest.UnusedZero (r : AdminWireRequest) (group : AdminGroup) (verb : AdminVerb) : Prop :=
  ∃ mask device, commandFields r.v verb group = .ok (mask, device) ∧ ∀ w i, (w, i) ∈ r.v.words.zipIdx → i ∉ mask → w = 0

theorem AdminWireRequest.WellFormed.unusedZero {r : AdminWireRequest} {group : AdminGroup} {verb : AdminVerb}
    (h : r.WellFormed group verb) : r.UnusedZero group verb := by
  have hcheck := h.checked
  rw [adminRequestCheck, if_error_eq_ok, except_bind_eq_ok] at hcheck
  obtain ⟨-, ⟨mask, device⟩, hfields, hcheck⟩ := hcheck
  dsimp only at hcheck
  rw [if_error_eq_ok] at hcheck
  refine ⟨mask, device, hfields, fun w i hmem hi => ?_⟩
  by_contra hw
  apply hcheck.1
  rw [List.any_eq_true]
  exact ⟨(w, i), hmem, by simpa [hi] using hw⟩

/-- The daemon decodes every request that the parser accepts, with any further options, to the same request. -/
theorem parsed_requests_decode (lib : CLibrary) (argv : List (List Char)) (r : AdminWireRequest) (json brief stats : Bool)
    (h : adminParse lib argv = .ok r) :
    adminRequestDecode (adminRequestEncode (r.withOptions json brief stats)) = .ok (r.withOptions json brief stats) ∧
    0 ∈ r.dev.toList ∧ (∀ a ∈ r.acls, 0 ∈ a.dev.toList) ∧
    (∃ group verb, adminGroup r.group = some group ∧ adminVerb r.verb = some verb ∧ r.UnusedZero group verb) ∧
    r.acls.length ≤ 128 ∧ (r.acls.map (·.rule.pref)).Nodup := by
  have haccepted := adminParse_accepted h
  obtain ⟨group, verb, hformed⟩ := haccepted.wellFormed
  exact ⟨(hformed.withOptions json brief stats).decodes, hformed.dev, hformed.devs,
    ⟨group, verb, hformed.hgroup, hformed.hverb, hformed.unusedZero⟩, hformed.count, haccepted.prefs⟩

def oneFileLibrary : CLibrary where
  scanLladdr := fun _ => none
  fopen := fun _ => .ok ⟨"default drop\n10 dport 22 proto tcp iif eth0 accept\n".toList, false⟩
  strerror := fun _ => []

def applyRules : List (List Char) := ["acl".toList, "apply".toList, "rules".toList]

theorem parsed_requests_decode_apply : ∃ r, adminParse oneFileLibrary applyRules = .ok r ∧
    adminRequestDecode (adminRequestEncode (r.withOptions true false true)) = .ok (r.withOptions true false true) ∧
    r.acls.length = 1 := by
  have hparsed : ((adminParse oneFileLibrary applyRules).map fun r => r.acls.length).toOption = some 1 := by decide +kernel
  cases h : adminParse oneFileLibrary applyRules with
  | error e =>
    rw [h] at hparsed
    cases hparsed
  | ok r =>
    rw [h] at hparsed
    exact ⟨r, rfl, (parsed_requests_decode oneFileLibrary applyRules r true false true h).1, Option.some.inj hparsed⟩

end PulsarNetstack
