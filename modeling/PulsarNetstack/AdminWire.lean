import PulsarNetstack.IpcCodec

namespace PulsarNetstack

def adminMagic : Word := 0x50534d47
def adminVersion : Word := 1
def adminHeaderSize : ℕ := 32
def adminRequestBase : ℕ := 144
def adminAclRecord : ℕ := 116
def adminResponseMax : ℕ := 131072

def converted (_ : ℕ) : Bool := false

structure AdminHeader where
  id : Word
  length : Word
  result : Word
  generation : BitVec 64
  deriving DecidableEq, Repr

def adminHeaderEncode (h : AdminHeader) : List Byte :=
  putFields converted 0 [adminMagic, adminVersion, h.id, h.length, h.result, (h.generation >>> 32).setWidth 32,
    h.generation.setWidth 32, 0]

def adminHeaderDecode (b : List Byte) : Except Errno AdminHeader :=
  if getWord b 0 ≠ adminMagic ∨ getWord b 4 ≠ adminVersion ∨ getWord b 28 ≠ 0 then .error .eproto
  else
    let h : AdminHeader := {
      id := getWord b 8
      length := getWord b 12
      result := getWord b 16
      generation := (getWord b 20).setWidth 64 <<< 32 ||| (getWord b 24).setWidth 64 }
    if h.id = 0 ∨ adminResponseMax < h.length.toNat then .error .eproto else .ok h

section Header

theorem shiftLeft_or_setWidth (hi lo : Word) : hi.setWidth 64 <<< 32 ||| lo.setWidth 64 = hi ++ lo := by
  ext i h
  simp
  grind

theorem high_append_low (g : BitVec 64) : ((g >>> 32).setWidth 32 : Word) ++ (g.setWidth 32 : Word) = g := by
  ext i h
  simp
  grind

theorem high_append (hi lo : Word) : ((hi ++ lo : BitVec 64) >>> 32).setWidth 32 = hi := by
  ext i h
  simp
  grind

theorem low_append (hi lo : Word) : (hi ++ lo : BitVec 64).setWidth 32 = lo := by
  ext i h
  simp
  grind

theorem getFields_converted (b : List Byte) : getFields converted 0 8 b =
    [getWord b 0, getWord b 4, getWord b 8, getWord b 12, getWord b 16, getWord b 20, getWord b 24, getWord b 28] := by
  simp only [getFields, converted, getWord_drop]
  rfl

theorem adminHeaderDecode_adminHeaderEncode {h : AdminHeader} (hid : h.id ≠ 0) (hlen : h.length.toNat ≤ adminResponseMax)
    (payload : List Byte) : adminHeaderDecode (adminHeaderEncode h ++ payload) = .ok h := by
  have hwords := getFields_putFields converted 0 [adminMagic, adminVersion, h.id, h.length, h.result,
    (h.generation >>> 32).setWidth 32, h.generation.setWidth 32, 0] payload
  change getFields converted 0 8 (adminHeaderEncode h ++ payload) = _ at hwords
  rw [getFields_converted] at hwords
  simp only [List.cons.injEq, and_true] at hwords
  obtain ⟨h₀, h₁, h₂, h₃, h₄, h₅, h₆, h₇⟩ := hwords
  rw [adminHeaderDecode, h₀, h₁, h₂, h₃, h₄, h₅, h₆, h₇, shiftLeft_or_setWidth, high_append_low]
  dsimp only
  rw [if_neg (by decide), if_neg (not_or.mpr ⟨hid, Nat.not_lt.mpr hlen⟩)]

theorem adminHeaderEncode_adminHeaderDecode {b : List Byte} {h : AdminHeader} (hlen : b.length = adminHeaderSize)
    (hdecode : adminHeaderDecode b = .ok h) : adminHeaderEncode h = b := by
  have hbytes : putFields converted 0 (getFields converted 0 8 b) = b := by
    rw [putFields_getFields converted 0 (by rw [hlen]; decide), List.take_of_length_le (by rw [hlen]; decide)]
  rw [getFields_converted] at hbytes
  rw [adminHeaderDecode, if_error_eq_ok] at hdecode
  obtain ⟨hchecks, hdecode⟩ := hdecode
  dsimp only at hdecode
  rw [if_error_eq_ok] at hdecode
  simp only [not_or, not_not, ne_eq] at hchecks
  obtain ⟨h₀, h₁, h₇⟩ := hchecks
  rw [← hbytes, ← Except.ok.inj hdecode.2, adminHeaderEncode, shiftLeft_or_setWidth, high_append, low_append, h₀, h₁, h₇]

end Header

structure AdminWireAcl where
  rule : NetAcl
  dev : Vector Byte 64
  deriving DecidableEq

structure AdminWireRequest where
  group : Word
  verb : Word
  flags : Word
  v : AdminFields
  dev : Vector Byte 64
  acls : List AdminWireAcl

def AdminFields.words (v : AdminFields) : List Word :=
  [v.pref, v.src, v.srcPrefix, v.dst, v.dstPrefix, v.proto, v.sportMin, v.sportMax, v.dportMin, v.dportMax, v.ports,
    v.action, v.table, v.gateway, v.ip, v.prefixLen]

def AdminFields.ofWords (w : ℕ → Word) : AdminFields where
  pref := w 0
  src := w 1
  srcPrefix := w 2
  dst := w 3
  dstPrefix := w 4
  proto := w 5
  sportMin := w 6
  sportMax := w 7
  dportMin := w 8
  dportMax := w 9
  ports := w 10
  action := w 11
  table := w 12
  gateway := w 13
  ip := w 14
  prefixLen := w 15

def NetAcl.words (a : NetAcl) : List Word :=
  [a.pref, a.src, a.srcPrefix, a.dst, a.dstPrefix, a.iif, a.proto, a.sportMin, a.sportMax, a.dportMin, a.dportMax,
    a.ports, a.drop]

def NetAcl.ofWords (w : ℕ → Word) : NetAcl where
  pref := w 0
  src := w 1
  srcPrefix := w 2
  dst := w 3
  dstPrefix := w 4
  iif := w 5
  proto := w 6
  sportMin := w 7
  sportMax := w 8
  dportMin := w 9
  dportMax := w 10
  ports := w 11
  drop := w 12

def addressField (i : ℕ) : Bool := i == 1 || i == 3 || i == 13 || i == 14

def aclAddressField (j : ℕ) : Bool := j == 1 || j == 3

def encodeAcl (a : AdminWireAcl) : List Byte := putFields aclAddressField 0 a.rule.words ++ a.dev.toList

def adminRequestEncode (r : AdminWireRequest) : List Byte :=
  if netAclMax < r.acls.length then []
  else
    putFields converted 0 [r.group, r.verb, r.flags, BitVec.ofNat 32 r.acls.length] ++ putFields addressField 0 r.v.words ++
      r.dev.toList ++ r.acls.flatMap encodeAcl

def adminGroups : List AdminGroup :=
  [.status, .stats, .link, .addr, .route, .rule, .neigh, .acl, .app, .socket, .monitor]

def adminVerbs : List AdminVerb := [.show, .add, .replace, .del, .flush, .get, .set, .apply, .default]

def adminGroup (w : Word) : Option AdminGroup := if w = 0 then none else adminGroups[w.toNat - 1]?

def adminVerb (w : Word) : Option AdminVerb := if w = 0 then none else adminVerbs[w.toNat - 1]?

def commandValid (verb : AdminVerb) : AdminGroup → Bool
  | .status | .stats | .app | .socket | .monitor => verb == .show
  | .link => verb == .show || verb == .set
  | .addr | .neigh => verb == .show || verb == .add || verb == .replace || verb == .del || verb == .flush
  | .route => verb != .set && verb != .apply && verb != .default
  | .rule => verb == .show || verb == .add || verb == .del || verb == .flush
  | .acl => verb == .show || verb == .add || verb == .del || verb == .flush || verb == .apply || verb == .default

def commandFields (v : AdminFields) (verb : AdminVerb) : AdminGroup → Except Errno (List ℕ × Bool)
  | .link =>
    if verb = .set then
      if v.ports = 1 then .ok ([10, 11], true)
      else if v.ports = 2 then .ok ([10, 14], true)
      else .error .einval
    else .ok ([], true)
  | .addr => .ok (if verb = .add ∨ verb = .replace ∨ verb = .del then [14, 15] else [], true)
  | .route =>
    if verb = .get then .ok ([14, 15, 1, 2], false)
    else
      let writes := verb = .add ∨ verb = .replace
      .ok ([12] ++ (if verb ≠ .show ∧ verb ≠ .flush then [14, 15] else []) ++ (if writes then [13, 11] else []), writes)
  | .rule =>
    if verb = .add then .ok ([0, 1, 2, 3, 4, 11, 12], true)
    else .ok (if verb = .del then [0] else [], false)
  | .acl =>
    if verb = .add then .ok (List.range 12, true)
    else .ok (if verb = .del then [0] else if verb = .default ∨ verb = .apply then [11] else [], false)
  | .neigh =>
    .ok ((if verb ≠ .show ∧ verb ≠ .flush then [14] else []) ++ (if verb = .add ∨ verb = .replace then [6, 7] else []), true)
  | .monitor =>
    -- The filter is a group from `ADM_LINK` to `ADM_ACL`.
    if v.proto ≠ 0 ∧ (v.proto < 3 ∨ 8 < v.proto) then .error .einval else .ok ([5], false)
  | .status | .stats | .app | .socket => .ok ([], false)

def adminRequestCheck (r : AdminWireRequest) (group : AdminGroup) (verb : AdminVerb) : Except Errno Unit := do
  if !commandValid verb group then .error .eopnotsupp
  else
    let (mask, device) ← commandFields r.v verb group
    if r.v.words.zipIdx.any fun p => !mask.contains p.2 && p.1 != 0 then .error .einval
    else if !device && r.dev.toList.head? != some 0 then .error .einval
    else if r.acls.any fun a => a.rule.iif != netIifNone then .error .einval
    else .ok ()

def aclAt (b : List Byte) : AdminWireAcl where
  rule := .ofWords fun j => (getFields aclAddressField 0 13 b).getD j 0
  dev := bytesAt 64 (b.drop 52)

def decodeAcls : ℕ → List Byte → Except Errno (List AdminWireAcl)
  | 0, _ => .ok []
  | count + 1, b => do
    let a := aclAt b
    if !a.dev.toList.contains 0 then .error .einval
    else
      let rest ← decodeAcls count (b.drop adminAclRecord)
      return a :: rest

def adminRequestDecode (b : List Byte) : Except Errno AdminWireRequest := do
  if b.length < adminRequestBase then .error .eproto
  else
    let count := (getWord b 12).toNat
    match adminGroup (getWord b 0), adminVerb (getWord b 4) with
    | some group, some verb =>
      if 15 < getWord b 8 ∨ netAclMax < count ∨ b.length ≠ adminRequestBase + count * adminAclRecord ∨
          (count ≠ 0 ∧ (group ≠ .acl ∨ verb ≠ .apply)) then .error .einval
      else
        let dev := bytesAt 64 (b.drop 80)
        if !dev.toList.contains 0 then .error .einval
        else
          let acls ← decodeAcls count (b.drop adminRequestBase)
          let r : AdminWireRequest := {
            group := getWord b 0, verb := getWord b 4, flags := getWord b 8
            v := .ofWords fun i => (getFields addressField 0 16 (b.drop 16)).getD i 0
            dev := dev, acls := acls }
          adminRequestCheck r group verb
          return r
    | _, _ => .error .einval

section Request

variable {b rest : List Byte} {r r' : AdminWireRequest} {acls : List AdminWireAcl} {count : ℕ}

theorem AdminFields.ofWords_words (v : AdminFields) : AdminFields.ofWords (fun i => v.words.getD i 0) = v := rfl

theorem AdminFields.words_ofWords {ws : List Word} (h : ws.length = 16) :
    (AdminFields.ofWords fun i => ws.getD i 0).words = ws := by
  match ws, h with
  | [_, _, _, _, _, _, _, _, _, _, _, _, _, _, _, _], _ => rfl

theorem NetAcl.ofWords_words (a : NetAcl) : NetAcl.ofWords (fun j => a.words.getD j 0) = a := rfl

theorem NetAcl.words_ofWords {ws : List Word} (h : ws.length = 13) : (NetAcl.ofWords fun j => ws.getD j 0).words = ws := by
  match ws, h with
  | [_, _, _, _, _, _, _, _, _, _, _, _, _], _ => rfl

theorem encodeAcl_length (a : AdminWireAcl) : (encodeAcl a).length = adminAclRecord := by
  rw [encodeAcl, List.length_append, putFields_length, Vector.length_toList]
  rfl

theorem drop_encodeAcl (a : AdminWireAcl) (rest : List Byte) : (encodeAcl a ++ rest).drop adminAclRecord = rest := by
  rw [← encodeAcl_length a, List.drop_left]

theorem aclAt_encodeAcl (a : AdminWireAcl) (rest : List Byte) : aclAt (encodeAcl a ++ rest) = a := by
  have hlen : (putFields aclAddressField 0 a.rule.words).length = 52 := putFields_length _ _ _
  have hrule : getFields aclAddressField 0 13 (encodeAcl a ++ rest) = a.rule.words := by
    rw [encodeAcl, List.append_assoc]
    exact getFields_putFields aclAddressField 0 a.rule.words _
  have hdev : (encodeAcl a ++ rest).drop 52 = a.dev.toList ++ rest := by
    rw [encodeAcl, List.append_assoc, ← hlen, List.drop_left]
  rw [aclAt, hrule, hdev, NetAcl.ofWords_words, bytesAt_toList_append]

theorem encodeAcl_aclAt (h : adminAclRecord ≤ b.length) : encodeAcl (aclAt b) = b.take adminAclRecord := by
  unfold adminAclRecord at h
  rw [encodeAcl, aclAt, NetAcl.words_ofWords (getFields_length _ _ _ _), putFields_getFields _ _ (by omega),
    toList_bytesAt (by rw [List.length_drop]; omega), adminAclRecord, ← List.take_add]

theorem decodeAcls_succ (h : decodeAcls (count + 1) b = .ok acls) :
    ∃ rest, decodeAcls count (b.drop adminAclRecord) = .ok rest ∧ acls = aclAt b :: rest := by
  rw [decodeAcls] at h
  rw [if_error_eq_ok, except_bind_eq_ok] at h
  obtain ⟨-, rest, hrest, hacls⟩ := h
  exact ⟨rest, hrest, (Except.ok.inj hacls).symm⟩

theorem decodeAcls_encodeAcl {l : List AdminWireAcl} (h : decodeAcls acls.length (acls.flatMap encodeAcl) = .ok l) :
    l = acls := by
  induction acls generalizing l with
  | nil => exact (Except.ok.inj h).symm
  | cons a acls ih =>
    rw [List.length_cons, List.flatMap_cons] at h
    obtain ⟨rest, hrest, rfl⟩ := decodeAcls_succ h
    rw [drop_encodeAcl] at hrest
    rw [aclAt_encodeAcl, ih hrest]

theorem encodeAcl_decodeAcls (hlen : b.length = count * adminAclRecord) (h : decodeAcls count b = .ok acls) :
    acls.length = count ∧ acls.flatMap encodeAcl = b := by
  induction count generalizing b acls with
  | zero =>
    obtain rfl := Except.ok.inj h
    rw [Nat.zero_mul] at hlen
    exact ⟨rfl, (List.length_eq_zero_iff.mp hlen).symm⟩
  | succ count ih =>
    obtain ⟨rest, hrest, rfl⟩ := decodeAcls_succ h
    rw [Nat.succ_mul] at hlen
    obtain ⟨hcount, hbytes⟩ := ih (by rw [List.length_drop]; omega) hrest
    refine ⟨by rw [List.length_cons, hcount], ?_⟩
    rw [List.flatMap_cons, encodeAcl_aclAt (by omega), hbytes, List.take_append_drop]

structure Decoded (b : List Byte) (r : AdminWireRequest) : Prop where
  count : (getWord b 12).toNat ≤ netAclMax
  length : b.length = adminRequestBase + (getWord b 12).toNat * adminAclRecord
  group : r.group = getWord b 0
  verb : r.verb = getWord b 4
  flags : r.flags = getWord b 8
  v : r.v = .ofWords fun i => (getFields addressField 0 16 (b.drop 16)).getD i 0
  dev : r.dev = bytesAt 64 (b.drop 80)
  acls : decodeAcls (getWord b 12).toNat (b.drop adminRequestBase) = .ok r.acls

theorem adminRequestDecode_eq_ok (h : adminRequestDecode b = .ok r) : Decoded b r := by
  rw [adminRequestDecode, if_error_eq_ok] at h
  obtain ⟨-, h⟩ := h
  dsimp only at h
  split at h
  · rw [if_error_eq_ok, if_error_eq_ok, except_bind_eq_ok] at h
    obtain ⟨hchecks, -, acls, hacls, h⟩ := h
    rw [except_bind_eq_ok] at h
    obtain ⟨-, -, h⟩ := h
    simp only [not_or, not_lt, not_not, ne_eq] at hchecks
    obtain ⟨-, hcount, hlength, -⟩ := hchecks
    obtain rfl := Except.ok.inj h
    exact ⟨hcount, hlength, rfl, rfl, rfl, rfl, rfl, hacls⟩
  · cases h

theorem getFields_converted_four (b : List Byte) :
    getFields converted 0 4 b = [getWord b 0, getWord b 4, getWord b 8, getWord b 12] := by
  simp only [getFields, converted, getWord_drop]
  rfl

structure Encoded (b : List Byte) (r : AdminWireRequest) : Prop where
  group : getWord b 0 = r.group
  verb : getWord b 4 = r.verb
  flags : getWord b 8 = r.flags
  count : (getWord b 12).toNat = r.acls.length
  v : (AdminFields.ofWords fun i => (getFields addressField 0 16 (b.drop 16)).getD i 0) = r.v
  dev : bytesAt 64 (b.drop 80) = r.dev
  records : b.drop adminRequestBase = r.acls.flatMap encodeAcl

theorem adminRequestEncode_encoded (hacls : r.acls.length ≤ netAclMax) : Encoded (adminRequestEncode r) r := by
  have hb : adminRequestEncode r = putFields converted 0 [r.group, r.verb, r.flags, BitVec.ofNat 32 r.acls.length] ++
      (putFields addressField 0 r.v.words ++ (r.dev.toList ++ r.acls.flatMap encodeAcl)) := by
    rw [adminRequestEncode, if_neg (Nat.not_lt.mpr hacls), List.append_assoc, List.append_assoc]
  generalize adminRequestEncode r = b at *
  have hwords : getFields converted 0 4 b = [r.group, r.verb, r.flags, BitVec.ofNat 32 r.acls.length] := by
    rw [hb]
    exact getFields_putFields converted 0 [r.group, r.verb, r.flags, BitVec.ofNat 32 r.acls.length] _
  rw [getFields_converted_four] at hwords
  simp only [List.cons.injEq, and_true] at hwords
  obtain ⟨hgroup, hverb, hflags, hcount⟩ := hwords
  -- The three parts after the first sixteen bytes.
  have hdrop : b.drop 16 = putFields addressField 0 r.v.words ++ (r.dev.toList ++ r.acls.flatMap encodeAcl) := by
    rw [hb]
    exact List.drop_left' (putFields_length _ _ _)
  have hdev : b.drop 80 = r.dev.toList ++ r.acls.flatMap encodeAcl := by
    rw [show 80 = 16 + 64 from rfl, ← List.drop_drop, hdrop]
    exact List.drop_left' (putFields_length _ _ _)
  refine ⟨hgroup, hverb, hflags, ?_, ?_, by rw [hdev, bytesAt_toList_append], ?_⟩
  · rw [hcount, BitVec.toNat_ofNat]
    apply Nat.mod_eq_of_lt
    unfold netAclMax at hacls
    omega
  · have hfields := getFields_putFields addressField 0 r.v.words (r.dev.toList ++ r.acls.flatMap encodeAcl)
    change getFields addressField 0 16 _ = _ at hfields
    rw [hdrop, hfields, AdminFields.ofWords_words]
  · rw [show adminRequestBase = 80 + 64 from rfl, ← List.drop_drop, hdev]
    exact List.drop_left' Vector.length_toList

theorem adminRequestDecode_adminRequestEncode (hacls : r.acls.length ≤ netAclMax)
    (h : adminRequestDecode (adminRequestEncode r) = .ok r') : r' = r := by
  have hd := adminRequestDecode_eq_ok h
  have he := adminRequestEncode_encoded hacls
  have hacls' : r'.acls = r.acls := by
    have := hd.acls
    rw [he.count, he.records] at this
    exact decodeAcls_encodeAcl this
  cases r'
  cases r
  simp only [AdminWireRequest.mk.injEq]
  exact ⟨hd.group.trans he.group, hd.verb.trans he.verb, hd.flags.trans he.flags, hd.v.trans he.v, hd.dev.trans he.dev,
    hacls'⟩

theorem adminRequestEncode_adminRequestDecode (h : adminRequestDecode b = .ok r) :
    adminRequestEncode r = b ∧ b.length = adminRequestBase + r.acls.length * adminAclRecord := by
  have hd := adminRequestDecode_eq_ok h
  have hbase : adminRequestBase ≤ b.length := by rw [hd.length]; exact Nat.le_add_right _ _
  obtain ⟨hcount, hrecords⟩ := encodeAcl_decodeAcls (by rw [List.length_drop, hd.length, Nat.add_sub_cancel_left]) hd.acls
  have hwords : putFields converted 0 [r.group, r.verb, r.flags, BitVec.ofNat 32 r.acls.length] = b.take 16 := by
    rw [hd.group, hd.verb, hd.flags, hcount, BitVec.ofNat_toNat, BitVec.setWidth_eq, ← getFields_converted_four]
    exact putFields_getFields converted 0 (by unfold adminRequestBase at hbase; omega)
  have hfields : putFields addressField 0 r.v.words = (b.drop 16).take 64 := by
    rw [hd.v, AdminFields.words_ofWords (getFields_length _ _ _ _)]
    exact putFields_getFields addressField 0 (by rw [List.length_drop]; unfold adminRequestBase at hbase; omega)
  have hdev : r.dev.toList = (b.drop 80).take 64 := by
    rw [hd.dev]
    exact toList_bytesAt (by rw [List.length_drop]; unfold adminRequestBase at hbase; omega)
  refine ⟨?_, by rw [hcount]; exact hd.length⟩
  rw [adminRequestEncode, if_neg (Nat.not_lt.mpr (hcount ▸ hd.count)), hwords, hfields, hdev, hrecords, ← List.take_add,
    ← List.take_add]
  exact List.take_append_drop _ _

structure AdminWireRequest.WellFormed (r : AdminWireRequest) (group : AdminGroup) (verb : AdminVerb) : Prop where
  hgroup : adminGroup r.group = some group
  hverb : adminVerb r.verb = some verb
  flags : r.flags ≤ 15
  count : r.acls.length ≤ netAclMax
  records : r.acls ≠ [] → group = .acl ∧ verb = .apply
  dev : 0 ∈ r.dev.toList
  devs : ∀ a ∈ r.acls, 0 ∈ a.dev.toList
  checked : adminRequestCheck r group verb = .ok ()

theorem adminRequestEncode_length (hacls : r.acls.length ≤ netAclMax) :
    (adminRequestEncode r).length = adminRequestBase + r.acls.length * adminAclRecord := by
  have hrecords (acls : List AdminWireAcl) : (acls.flatMap encodeAcl).length = acls.length * adminAclRecord := by
    induction acls with
    | nil => exact (Nat.zero_mul _).symm
    | cons a acls ih =>
      rw [List.flatMap_cons, List.length_append, encodeAcl_length, ih, List.length_cons, Nat.succ_mul, Nat.add_comm]
  rw [adminRequestEncode, if_neg (Nat.not_lt.mpr hacls), List.length_append, List.length_append, List.length_append,
    putFields_length, putFields_length, Vector.length_toList, hrecords]
  rfl

theorem decodeAcls_encoded (h : ∀ a ∈ acls, 0 ∈ a.dev.toList) :
    decodeAcls acls.length (acls.flatMap encodeAcl) = .ok acls := by
  induction acls with
  | nil => rfl
  | cons a acls ih =>
    obtain ⟨ha, hacls⟩ := List.forall_mem_cons.mp h
    rw [List.length_cons, List.flatMap_cons, decodeAcls, aclAt_encodeAcl, drop_encodeAcl, ih hacls, if_neg (by simpa using ha)]
    rfl

theorem AdminWireRequest.WellFormed.decodes {group : AdminGroup} {verb : AdminVerb} (h : r.WellFormed group verb) :
    adminRequestDecode (adminRequestEncode r) = .ok r := by
  have he := adminRequestEncode_encoded h.count
  have hlen := adminRequestEncode_length h.count
  generalize adminRequestEncode r = b at *
  rw [adminRequestDecode, if_neg (by rw [hlen]; omega)]
  dsimp only
  rw [he.group, he.verb, he.flags, he.count, he.v, he.dev, he.records, decodeAcls_encoded h.devs, h.hgroup, h.hverb]
  dsimp only
  have hchecks : ¬ (15 < r.flags ∨ netAclMax < r.acls.length ∨
      b.length ≠ adminRequestBase + r.acls.length * adminAclRecord ∨
      (r.acls.length ≠ 0 ∧ (group ≠ .acl ∨ verb ≠ .apply))) := by
    rintro (hf | hc | hl | ⟨hn, hv⟩)
    · exact absurd h.flags (BitVec.not_le.mpr hf)
    · exact absurd h.count (Nat.not_le.mpr hc)
    · exact hl hlen
    · obtain ⟨hg, hv'⟩ := h.records fun hnil => hn (by rw [hnil]; rfl)
      exact hv.elim (absurd hg) (absurd hv')
  rw [if_neg hchecks, if_neg (by simpa using h.dev)]
  change (adminRequestCheck r group verb >>= fun _ => Except.ok r) = _
  rw [h.checked]
  rfl

theorem decodeAcls_devs (h : decodeAcls count b = .ok acls) : ∀ a ∈ acls, 0 ∈ a.dev.toList := by
  induction count generalizing b acls with
  | zero =>
    obtain rfl := Except.ok.inj h
    exact nofun
  | succ count ih =>
    rw [decodeAcls, if_error_eq_ok, except_bind_eq_ok] at h
    obtain ⟨hdev, rest, hrest, h⟩ := h
    obtain rfl := Except.ok.inj h
    refine List.forall_mem_cons.mpr ⟨?_, ih hrest⟩
    simpa using hdev

theorem adminRequestDecode_wellFormed (h : adminRequestDecode b = .ok r) : ∃ group verb, r.WellFormed group verb := by
  have hd := adminRequestDecode_eq_ok h
  have hlength := (encodeAcl_decodeAcls (by rw [List.length_drop, hd.length, Nat.add_sub_cancel_left]) hd.acls).1
  rw [adminRequestDecode, if_error_eq_ok] at h
  replace h := h.2
  dsimp only at h
  split at h
  · rename_i group verb hgroup hverb
    rw [if_error_eq_ok, if_error_eq_ok, except_bind_eq_ok] at h
    obtain ⟨hchecks, hdev, acls, hacls, h⟩ := h
    rw [except_bind_eq_ok] at h
    obtain ⟨⟨⟩, hcheck, h⟩ := h
    obtain rfl := Except.ok.inj h
    simp only [not_or, not_lt, not_and, not_not, ne_eq] at hchecks
    obtain ⟨hflags, hcount, -, hrecords⟩ := hchecks
    refine ⟨group, verb, hgroup, hverb, BitVec.not_lt.mp hflags, hlength.trans_le hcount, fun hne => ?_, by simpa using hdev,
      decodeAcls_devs hacls, hcheck⟩
    exact hrecords fun hzero => hne (List.length_eq_zero_iff.mp (hlength.trans hzero))
  · cases h

end Request

def bufferString (b : List Byte) : String := String.ofList ((b.takeWhile (· != 0)).map fun x => Char.ofNat x.toNat)

def AdminWireRequest.request (w : AdminWireRequest) : Option AdminRequest := do
  let group ← adminGroup w.group
  let verb ← adminVerb w.verb
  return { group := group, verb := verb, v := w.v, dev := bufferString w.dev.toList
           acls := w.acls.map fun a => { rule := a.rule, dev := bufferString a.dev.toList } }

theorem adminRequestDecode_request {b : List Byte} {w : AdminWireRequest} (h : adminRequestDecode b = .ok w) :
    ∃ r, w.request = some r := by
  have hd := adminRequestDecode_eq_ok h
  rw [adminRequestDecode, if_error_eq_ok] at h
  replace h := h.2
  dsimp only at h
  split at h
  · rename_i group verb hgroup hverb
    rw [AdminWireRequest.request, hd.group, hd.verb, hgroup, hverb]
    exact ⟨_, rfl⟩
  · cases h

/-- Accepted byte strings and accepted values determine each other. -/
theorem codecs_bijective :
    (∀ m : IpcMessage, m.Typed → m.id ≠ 0 → m.data.length ≤ ipcPayloadMax → ipcDecode (ipcEncode m) = .ok m.header) ∧
    (∀ header m, header.length = ipcHeaderSize → ipcDecode header = .ok m → ipcEncode m = header) ∧
    (∀ h : AdminHeader, h.id ≠ 0 → h.length.toNat ≤ adminResponseMax → adminHeaderDecode (adminHeaderEncode h) = .ok h) ∧
    (∀ b h, b.length = adminHeaderSize → adminHeaderDecode b = .ok h → adminHeaderEncode h = b) ∧
    (∀ r r' : AdminWireRequest, r.acls.length ≤ netAclMax → adminRequestDecode (adminRequestEncode r) = .ok r' → r' = r) ∧
    ∀ b r, adminRequestDecode b = .ok r →
      adminRequestEncode r = b ∧ b.length = adminRequestBase + r.acls.length * adminAclRecord := by
  refine ⟨fun m ht hid hlen => ?_, fun header m => ipcEncode_ipcDecode, fun h hid hlen => ?_,
    fun b h => adminHeaderEncode_adminHeaderDecode, fun r r' => adminRequestDecode_adminRequestEncode,
    fun b r => adminRequestEncode_adminRequestDecode⟩
  · have := ipcDecode_ipcEncode ht hid hlen []
    rwa [List.append_nil] at this
  · have := adminHeaderDecode_adminHeaderEncode hid hlen []
    rwa [List.append_nil] at this

def sshRule : NetAcl :=
  { pref := 10, src := 0x0100000a, srcPrefix := 32, dst := 0, dstPrefix := 0, iif := netIifNone, proto := 6,
    sportMin := 0, sportMax := 65535, dportMin := 22, dportMax := 22, ports := 2, drop := 0 }

def applyRequest : AdminWireRequest where
  group := 8
  verb := 8
  flags := 0
  v := { action := 1 }
  dev := Vector.replicate 64 0
  acls := [⟨sshRule, Vector.replicate 64 0⟩]

theorem codecs_bijective_applyRequest : ∃ r, adminRequestDecode (adminRequestEncode applyRequest) = .ok r ∧
    r = applyRequest := by
  have haccepted : (adminRequestDecode (adminRequestEncode applyRequest)).toBool = true := by decide +kernel
  cases h : adminRequestDecode (adminRequestEncode applyRequest) with
  | error e => rw [h] at haccepted; cases haccepted
  | ok r => exact ⟨r, rfl, codecs_bijective.2.2.2.2.1 applyRequest r (by decide) h⟩

end PulsarNetstack
