import PulsarNetstack.AdminSnapshots
import PulsarNetstack.KeyedSort
import PulsarNetstack.NodeVerdicts

namespace PulsarNetstack

open KeyedSort

variable {c c' : NetConfig} {ports : ℕ} {links : List AdminLink} {rt : Routing}

def addAcl (a : AdminAcl) : AdminRequest where
  group := .acl
  verb := .add
  dev := a.dev
  v := { pref := a.rule.pref, src := a.rule.src, srcPrefix := a.rule.srcPrefix, dst := a.rule.dst
         dstPrefix := a.rule.dstPrefix, proto := a.rule.proto, sportMin := a.rule.sportMin, sportMax := a.rule.sportMax
         dportMin := a.rule.dportMin, dportMax := a.rule.dportMax, ports := a.rule.ports, action := a.rule.drop }

def applyAcls (default : Word) (acls : List AdminAcl) : AdminRequest where
  group := .acl
  verb := .apply
  v := { action := default }
  acls := acls

def mutateEach (links : List AdminLink) (c : NetConfig) (requests : List AdminRequest) : Except Errno NetConfig :=
  requests.foldlM (fun c r => adminMutate ⟨c, links⟩ r) c

def iifNamed (links : List AdminLink) (name : String) : Word :=
  match namedDevice ⟨{}, links⟩ name with
  | .ok dev => iifOf dev
  | .error _ => netIifNone

def aclRule (links : List AdminLink) (a : AdminAcl) : NetAcl := { a.rule with iif := iifNamed links a.dev }

structure ValidAcl (links : List AdminLink) (a : AdminAcl) : Prop where
  device : ∃ dev, namedDevice ⟨{}, links⟩ a.dev = .ok dev
  alone : validateAcl links.length [] (aclRule links a) = .ok ()

def policyRule (links : List AdminLink) (r : AdminRequest) : NetRule where
  pref := r.v.pref
  src := r.v.src
  srcPrefix := r.v.srcPrefix
  dst := r.v.dst
  dstPrefix := r.v.dstPrefix
  iif := iifNamed links r.dev
  table := r.v.table
  type := r.v.action

structure ValidRule (links : List AdminLink) (r : AdminRequest) : Prop where
  group : r.group = .rule
  verb : r.verb = .add
  device : ∃ dev, namedDevice ⟨{}, links⟩ r.dev = .ok dev
  alone : validateRule links.length [] (policyRule links r) = .ok ()

theorem namedDevice_ok {name : String} (h : ∃ dev, namedDevice ⟨{}, links⟩ name = .ok dev) (c : NetConfig) :
    ∃ dev, namedDevice ⟨c, links⟩ name = .ok dev ∧ iifOf dev = iifNamed links name := by
  obtain ⟨dev, hdev⟩ := h
  refine ⟨dev, hdev, ?_⟩
  rw [iifNamed, hdev]

section Validation

theorem getLast_any_le {α : Type} {k : α → Word} {before : List α} {n : Word} (hbefore : ∀ b ∈ before, k b < n) :
    ¬ (before.getLast?.any fun p => decide (n ≤ k p)) = true := by
  intro hany
  obtain ⟨p, hp, hle⟩ := (Option.any_eq_true _ _).mp hany
  exact BitVec.not_lt.mpr (of_decide_eq_true hle) (hbefore p (List.mem_of_getLast? hp))

theorem validateAcl_of_alone {before : List NetAcl} {a : NetAcl} (h : validateAcl ports [] a = .ok ())
    (hbefore : ∀ b ∈ before, b.pref < a.pref) : validateAcl ports before a = .ok () := by
  rw [validateAcl, if_error_eq_ok] at h ⊢
  refine ⟨fun hbad => h.1 ?_, rfl⟩
  simpa only [getLast_any_le hbefore, List.getLast?_nil, Option.any_none, Bool.false_eq_true] using hbad

theorem validateRule_of_alone {before : List NetRule} {r : NetRule} (h : validateRule ports [] r = .ok ())
    (hbefore : ∀ b ∈ before, b.pref < r.pref) : validateRule ports before r = .ok () := by
  rw [validateRule, if_error_eq_ok] at h ⊢
  refine ⟨fun hbad => h.1 ?_, rfl⟩
  simpa only [getLast_any_le hbefore, List.getLast?_nil, Option.any_none, Bool.false_eq_true] using hbad

theorem validateEach_sortOn {α : Type} {k : α → Word} {check : List α → α → Except Errno Unit} {l : List α}
    (halone : ∀ a ∈ l, check [] a = .ok ()) (hkeys : (l.map k).Nodup)
    (hcheck : ∀ before a, check [] a = .ok () → (∀ b ∈ before, k b < k a) → check before a = .ok ()) :
    validateEach check [] (sortOn k l) = .ok () := by
  refine validateEach_of_pairwise (P := fun a => check [] a = .ok ()) (fun a ha => halone a (mem_sortOn.mp ha)) ?_ hcheck
  exact sortOn_pairwise hkeys fun a b hle hne => BitVec.not_le.mp fun h => hne (BitVec.le_antisymm hle h)

end Validation

def RoutesPrepared (c : NetConfig) : Prop :=
  c.routesIndexed = decide (2 < c.routes.length) ∧ (2 < c.routes.length → c.routeIndex = buildRouteIndex c.routes)

theorem Published.routesPrepared (h : Published rt c) : RoutesPrepared c := by
  obtain ⟨c₁, hprepare⟩ := h.prepared
  rcases (netConfigPrepare_eq_ok hprepare).2 with ⟨hle, rfl⟩ | ⟨hlt, rfl⟩
  · exact ⟨(decide_eq_false (Nat.not_lt.mpr hle)).symm, fun hlt => absurd hlt (Nat.not_lt.mpr hle)⟩
  · exact ⟨(decide_eq_true hlt).symm, fun _ => rfl⟩

theorem netConfigPrepare_eq_self (hok : NetConfigOk c ports) (h : RoutesPrepared c) : netConfigPrepare c ports = .ok c := by
  obtain ⟨c', hprepare⟩ := netConfigPrepare_of_ok hok
  rw [hprepare]
  obtain ⟨hindexed, hindex⟩ := h
  rcases (netConfigPrepare_eq_ok hprepare).2 with ⟨hle, rfl⟩ | ⟨hlt, rfl⟩
  · rw [decide_eq_false (Nat.not_lt.mpr hle)] at hindexed
    rw [← hindexed]
  · rw [decide_eq_true hlt] at hindexed
    rw [← hindexed, ← hindex hlt]

theorem foldlM_eq_ok {σ ι ε : Type} {f : σ → ι → Except ε σ} {S : List ι → σ} (l : List ι)
    (hstep : ∀ done a rest, l = done ++ a :: rest → f (S done) a = .ok (S (done ++ [a]))) : l.foldlM f (S []) = .ok (S l) := by
  suffices hall : ∀ rest done, l = done ++ rest → rest.foldlM f (S done) = .ok (S l) from hall l [] rfl
  intro rest
  induction rest with
  | nil =>
    rintro done rfl
    rw [List.append_nil]
    rfl
  | cons a rest ih =>
    rintro done hl
    rw [List.foldlM_cons, hstep done a rest hl]
    exact ih (done ++ [a]) (by rw [hl, List.append_assoc]; rfl)

theorem sortOn_room {α : Type} {k : α → Word} {l : List α} {a : α} {max : ℕ} (hlength : (l ++ [a]).length ≤ max)
    (hkeys : ((l ++ [a]).map k).Nodup) :
    (sortOn k l).findIdx (fun p => k p == k a) = (sortOn k l).length ∧ (sortOn k l).length ≠ max := by
  constructor
  · rw [List.findIdx_eq_length]
    intro p hp
    rw [beq_eq_false_iff_ne]
    rw [List.map_append, List.nodup_append] at hkeys
    exact hkeys.2.2 _ (List.mem_map_of_mem (mem_sortOn.mp hp)) _ (List.mem_singleton_self _)
  · rw [List.length_append, List.length_singleton] at hlength
    rw [length_sortOn]
    omega

theorem mutateEach_build {α β : Type} (k : β → Word) (conv : α → β) (command : α → AdminRequest)
    (build : List β → ℕ → NetConfig) (alone : β → Prop) {valid : α → Prop} {max bound : ℕ} (hvalid : ∀ a, valid a → alone (conv a))
    (hadd : ∀ done a steps, valid a → (done ++ [conv a]).length ≤ max → (∀ b ∈ done ++ [conv a], alone b) →
      ((done ++ [conv a]).map k).Nodup → steps < bound →
      adminMutate ⟨build done steps, links⟩ (command a) = .ok (build (done ++ [conv a]) (steps + 1)))
    {l : List α} (hl : ∀ a ∈ l, valid a) (hlength : l.length ≤ max) (hkeys : (l.map fun a => k (conv a)).Nodup)
    (hbound : l.length ≤ bound) :
    mutateEach links (build [] 0) (l.map command) = .ok (build (l.map conv) l.length) := by
  rw [mutateEach, List.foldlM_map]
  apply foldlM_eq_ok (S := fun done => build (done.map conv) done.length)
  rintro done a rest rfl
  have hpart : (done ++ [a]).Sublist (done ++ a :: rest) := by simp
  have hshort := hpart.length_le
  rw [List.length_append, List.length_singleton] at hshort
  have hmap : (done ++ [a]).map conv = done.map conv ++ [conv a] := List.map_append
  rw [hmap, List.length_append, List.length_singleton]
  apply hadd _ _ _ (hl a (by simp))
  · rw [← hmap, List.length_map, List.length_append, List.length_singleton]
    omega
  · intro b hb
    rw [← hmap] at hb
    obtain ⟨b', hb', rfl⟩ := List.mem_map.mp hb
    exact hvalid b' (hl b' (hpart.subset hb'))
  · rw [← hmap, List.map_map]
    exact hkeys.sublist (hpart.map _)
  · omega

section Acls

def withAcls (c : NetConfig) (acls : List NetAcl) (steps : ℕ) : NetConfig :=
  { c with acls := sortAcls acls, generation := c.generation + steps }

theorem withAcls_prepare (hok : NetConfigOk c ports) (hprepared : RoutesPrepared c) {acls : List NetAcl} (steps : ℕ)
    (hlength : acls.length ≤ netAclMax) (halone : ∀ a ∈ acls, validateAcl ports [] a = .ok ())
    (hprefs : (acls.map NetAcl.pref).Nodup) :
    netConfigPrepare (withAcls c acls steps) ports = .ok (withAcls c acls steps) := by
  have hvalid : validateEach (validateAcl ports) [] (sortAcls acls) = .ok () :=
    validateEach_sortOn halone hprefs fun _ _ => validateAcl_of_alone
  apply netConfigPrepare_eq_self
  · exact { hok with acls_length := (length_sortOn (k := NetAcl.pref) acls).trans_le hlength, acls := hvalid }
  · exact hprepared

theorem adminMutate_addAcl (hok : NetConfigOk c links.length) (hprepared : RoutesPrepared c) {done : List NetAcl} {a : AdminAcl}
    {steps : ℕ} (hdevice : ∃ dev, namedDevice ⟨{}, links⟩ a.dev = .ok dev)
    (hlength : (done ++ [aclRule links a]).length ≤ netAclMax)
    (halone : ∀ b ∈ done ++ [aclRule links a], validateAcl links.length [] b = .ok ())
    (hprefs : ((done ++ [aclRule links a]).map NetAcl.pref).Nodup) (hgeneration : c.generation + steps < 18446744073709551615) :
    adminMutate ⟨withAcls c done steps, links⟩ (addAcl a) = .ok (withAcls c (done ++ [aclRule links a]) (steps + 1)) := by
  obtain ⟨dev, hdev, hiif⟩ := namedDevice_ok hdevice (withAcls c done steps)
  obtain ⟨hindex, hroom⟩ : (sortAcls done).findIdx (fun p => p.pref == a.rule.pref) = (sortAcls done).length ∧
      (sortAcls done).length ≠ netAclMax := sortOn_room (k := NetAcl.pref) (a := aclRule links a) hlength hprefs
  have hedit : editConfig ⟨withAcls c done steps, links⟩ (addAcl a) =
      .ok { withAcls c done steps with acls := sortAcls (done ++ [aclRule links a]) } := by
    have hnew : sortAcls (sortAcls done ++ [aclRule links a]) = sortAcls (done ++ [aclRule links a]) :=
      sortOn_concat (k := NetAcl.pref) hprefs
    rw [editConfig]
    change (namedDevice ⟨withAcls c done steps, links⟩ a.dev).bind _ = _
    rw [hdev]
    change mutateAcls ⟨withAcls c done steps, links⟩ (addAcl a) dev = _
    unfold mutateAcls
    dsimp only [addAcl, withAcls]
    rw [hindex, if_neg (Nat.lt_irrefl _), if_neg hroom, hiif, ← hnew]
    rfl
  rw [adminMutate, hedit]
  change (if c.generation + steps = 18446744073709551615 then _ else _) = _
  rw [if_neg hgeneration.ne]
  exact withAcls_prepare hok hprepared (steps + 1) hlength halone hprefs

theorem requestAcls_eq {acls : List AdminAcl} (h : ∀ a ∈ acls, ∃ dev, namedDevice ⟨{}, links⟩ a.dev = .ok dev) :
    requestAcls ⟨c, links⟩ acls = .ok (acls.map (aclRule links)) := by
  induction acls with
  | nil => rfl
  | cons a acls ih =>
    obtain ⟨dev, hdev, hiif⟩ := namedDevice_ok (h a List.mem_cons_self) c
    rw [requestAcls, hdev, ih fun b hb => h b (List.mem_cons_of_mem a hb), List.map_cons, aclRule, ← hiif]
    rfl

theorem adminMutate_applyAcls (hok : NetConfigOk c links.length) (hprepared : RoutesPrepared c) {acls : List AdminAcl}
    (hdevice : ∀ a ∈ acls, ∃ dev, namedDevice ⟨{}, links⟩ a.dev = .ok dev) (hlength : acls.length ≤ netAclMax)
    (halone : ∀ b ∈ acls.map (aclRule links), validateAcl links.length [] b = .ok ())
    (hprefs : ((acls.map (aclRule links)).map NetAcl.pref).Nodup) (hgeneration : c.generation < 18446744073709551615) :
    adminMutate ⟨c, links⟩ (applyAcls c.defaultDrop acls) = .ok (withAcls c (acls.map (aclRule links)) 1) := by
  have hedit : editConfig ⟨c, links⟩ (applyAcls c.defaultDrop acls) =
      .ok { c with acls := sortAcls (acls.map (aclRule links)) } := by
    change mutateAcls ⟨c, links⟩ (applyAcls c.defaultDrop acls) none = _
    unfold mutateAcls
    change (if netAclMax < acls.length then .error .enospc else (requestAcls ⟨c, links⟩ acls).bind _) = _
    rw [if_neg (Nat.not_lt.mpr hlength), requestAcls_eq hdevice]
    rfl
  rw [adminMutate, hedit]
  change (if c.generation = 18446744073709551615 then _ else _) = _
  rw [if_neg hgeneration.ne]
  exact withAcls_prepare hok hprepared 1 (by rwa [List.length_map]) halone hprefs

theorem mutateEach_addAcl (hok : NetConfigOk c links.length) (hprepared : RoutesPrepared c) (hnone : c.acls = [])
    {acls : List AdminAcl} (hvalid : ∀ a ∈ acls, ValidAcl links a) (hlength : acls.length ≤ netAclMax)
    (hprefs : (acls.map fun a => a.rule.pref).Nodup) (hgeneration : c.generation + acls.length < 18446744073709551615) :
    mutateEach links c (acls.map addAcl) = .ok (withAcls c (acls.map (aclRule links)) acls.length) := by
  have hstart : c = withAcls c [] 0 := by
    unfold withAcls sortAcls
    rw [List.mergeSort_nil, ← hnone]
    rfl
  nth_rewrite 1 [hstart]
  refine mutateEach_build NetAcl.pref (aclRule links) addAcl (withAcls c) (fun b => validateAcl links.length [] b = .ok ())
    (fun _ h => ValidAcl.alone h) ?_ hvalid hlength hprefs le_rfl
  intro done a steps ha hlength halone hprefs hsteps
  exact adminMutate_addAcl hok hprepared ha.device hlength halone hprefs (by omega)

end Acls

section Rules

def withRules (c : NetConfig) (rules : List NetRule) (steps : ℕ) : NetConfig :=
  { c with rules := sortRules rules, generation := c.generation + steps }

theorem withRules_prepare (hok : NetConfigOk c ports) (hprepared : RoutesPrepared c) {rules : List NetRule} (steps : ℕ)
    (hlength : rules.length ≤ netRuleMax) (halone : ∀ r ∈ rules, validateRule ports [] r = .ok ())
    (hprefs : (rules.map NetRule.pref).Nodup) :
    netConfigPrepare (withRules c rules steps) ports = .ok (withRules c rules steps) := by
  have hvalid : validateEach (validateRule ports) [] (sortRules rules) = .ok () :=
    validateEach_sortOn halone hprefs fun _ _ => validateRule_of_alone
  apply netConfigPrepare_eq_self
  · exact { hok with rules_length := (length_sortOn (k := NetRule.pref) rules).trans_le hlength, rules := hvalid }
  · exact hprepared

theorem mutateRules_add {r : AdminRequest} (hverb : r.verb = .add)
    (hindex : c.rules.findIdx (fun p => p.pref == r.v.pref) = c.rules.length) (hroom : c.rules.length ≠ netRuleMax)
    (dev : Option ℕ) : mutateRules c r dev = .ok { c with rules := sortRules (c.rules ++
      [{ pref := r.v.pref, src := r.v.src, srcPrefix := r.v.srcPrefix, dst := r.v.dst, dstPrefix := r.v.dstPrefix
         iif := iifOf dev, table := r.v.table, type := r.v.action }]) } := by
  unfold mutateRules
  rw [hverb, hindex]
  dsimp only
  rw [if_neg (Nat.lt_irrefl _), if_neg hroom]

theorem adminMutate_addRule (hok : NetConfigOk c links.length) (hprepared : RoutesPrepared c) {done : List NetRule}
    {r : AdminRequest} {steps : ℕ} (hr : ValidRule links r) (hlength : (done ++ [policyRule links r]).length ≤ netRuleMax)
    (halone : ∀ b ∈ done ++ [policyRule links r], validateRule links.length [] b = .ok ())
    (hprefs : ((done ++ [policyRule links r]).map NetRule.pref).Nodup)
    (hgeneration : c.generation + steps < 18446744073709551615) :
    adminMutate ⟨withRules c done steps, links⟩ r = .ok (withRules c (done ++ [policyRule links r]) (steps + 1)) := by
  obtain ⟨dev, hdev, hiif⟩ := namedDevice_ok hr.device (withRules c done steps)
  obtain ⟨hindex, hroom⟩ : (sortRules done).findIdx (fun p => p.pref == r.v.pref) = (sortRules done).length ∧
      (sortRules done).length ≠ netRuleMax := sortOn_room (k := NetRule.pref) (a := policyRule links r) hlength hprefs
  have hedit : editConfig ⟨withRules c done steps, links⟩ r =
      .ok { withRules c done steps with rules := sortRules (done ++ [policyRule links r]) } := by
    have hnew : sortRules (sortRules done ++ [policyRule links r]) = sortRules (done ++ [policyRule links r]) :=
      sortOn_concat (k := NetRule.pref) hprefs
    rw [editConfig, hdev, hr.group]
    refine (mutateRules_add hr.verb hindex hroom dev).trans ?_
    rw [hiif, ← hnew]
    rfl
  rw [adminMutate, hedit]
  change (if c.generation + steps = 18446744073709551615 then _ else _) = _
  rw [if_neg hgeneration.ne]
  exact withRules_prepare hok hprepared (steps + 1) hlength halone hprefs

theorem mutateEach_addRule (hok : NetConfigOk c links.length) (hprepared : RoutesPrepared c) (hnone : c.rules = [])
    {requests : List AdminRequest} (hvalid : ∀ r ∈ requests, ValidRule links r) (hlength : requests.length ≤ netRuleMax)
    (hprefs : (requests.map fun r => r.v.pref).Nodup) (hgeneration : c.generation + requests.length < 18446744073709551615) :
    mutateEach links c requests = .ok (withRules c (requests.map (policyRule links)) requests.length) := by
  have hstart : c = withRules c [] 0 := by
    unfold withRules sortRules
    rw [List.mergeSort_nil, ← hnone]
    rfl
  nth_rewrite 1 [hstart]
  nth_rewrite 1 [← List.map_id requests]
  refine mutateEach_build NetRule.pref (policyRule links) id (withRules c)
    (fun b => validateRule links.length [] b = .ok ()) (fun _ h => ValidRule.alone h) ?_ hvalid hlength hprefs le_rfl
  intro done r steps hr hlength halone hprefs hsteps
  exact adminMutate_addRule hok hprepared hr hlength halone hprefs (by omega)

end Rules

/-- The rules of a snapshot do not depend on the order in which they are entered, nor on whether they come one by one or
together. -/
theorem rule_sets_order_free (h : Published rt c) (hlinks : links.length = rt.ports.length) :
    (∀ acls : List AdminAcl, c.acls = [] → acls.length ≤ netAclMax → (∀ a ∈ acls, ValidAcl links a) →
      (acls.map fun a => a.rule.pref).Nodup → c.generation + acls.length < 18446744073709551615 →
      ∃ added applied : NetConfig, added.acls.length = acls.length ∧ applied.acls = added.acls ∧
        applied.defaultDrop = added.defaultDrop ∧ (∀ k, netAclClassify applied k = netAclClassify added k) ∧
        ∀ order, order.Perm acls → mutateEach links c (order.map addAcl) = .ok added ∧
          adminMutate ⟨c, links⟩ (applyAcls c.defaultDrop order) = .ok applied) ∧
    (∀ requests : List AdminRequest, c.rules = [] → requests.length ≤ netRuleMax → (∀ r ∈ requests, ValidRule links r) →
      (requests.map fun r => r.v.pref).Nodup → c.generation + requests.length < 18446744073709551615 →
      ∃ added : NetConfig, added.rules.length = requests.length ∧
        ∀ order, order.Perm requests → ∃ c', mutateEach links c order = .ok c' ∧ c'.rules = added.rules ∧
          ∀ (r : Routing) (dst src iif : Word) (out : RouteResult),
            ipv4RouteQuery { r with network := some c' } dst src iif out =
              ipv4RouteQuery { r with network := some added } dst src iif out) := by
  have hok : NetConfigOk c links.length := by
    rw [hlinks]
    exact netConfigValidate_eq_ok.mp h.snapshotOk.valid
  have hprepared := h.routesPrepared
  constructor
  · intro acls hnone hlength hvalid hprefs hgeneration
    have hkeys : ((acls.map (aclRule links)).map NetAcl.pref).Nodup := by
      rw [List.map_map]
      exact hprefs
    refine ⟨withAcls c (acls.map (aclRule links)) acls.length, withAcls c (acls.map (aclRule links)) 1, ?_, rfl, rfl,
      fun _ => rfl, fun order horder => ?_⟩
    · exact (length_sortOn (k := NetAcl.pref) _).trans (List.length_map _)
    · have hvalid' : ∀ a ∈ order, ValidAcl links a := fun a ha => hvalid a (horder.mem_iff.mp ha)
      have hsorted : sortAcls (order.map (aclRule links)) = sortAcls (acls.map (aclRule links)) :=
        (sortOn_eq_of_perm (k := NetAcl.pref) (horder.map (aclRule links)).symm hkeys).symm
      have hsame (steps : ℕ) : withAcls c (order.map (aclRule links)) steps = withAcls c (acls.map (aclRule links)) steps := by
        rw [withAcls, hsorted]
        rfl
      have hlength' : order.length ≤ netAclMax := horder.length_eq.trans_le hlength
      constructor
      · rw [mutateEach_addAcl hok hprepared hnone hvalid' hlength' ((horder.map _).nodup_iff.mpr hprefs)
          (by rwa [horder.length_eq]), hsame, horder.length_eq]
      · rw [adminMutate_applyAcls hok hprepared (fun a ha => (hvalid' a ha).device) hlength', hsame]
        · intro b hb
          obtain ⟨a, ha, rfl⟩ := List.mem_map.mp hb
          exact (hvalid' a ha).alone
        · exact (((horder.map _).map _).nodup_iff).mpr hkeys
        · omega
  · intro requests hnone hlength hvalid hprefs hgeneration
    have hkeys : ((requests.map (policyRule links)).map NetRule.pref).Nodup := by
      rw [List.map_map]
      exact hprefs
    refine ⟨withRules c (requests.map (policyRule links)) requests.length, ?_, fun order horder => ?_⟩
    · exact (length_sortOn (k := NetRule.pref) _).trans (List.length_map _)
    · have hsorted : sortRules (order.map (policyRule links)) = sortRules (requests.map (policyRule links)) :=
        (sortOn_eq_of_perm (k := NetRule.pref) (horder.map (policyRule links)).symm hkeys).symm
      have hadded := mutateEach_addRule hok hprepared hnone (fun r hr => hvalid r (horder.mem_iff.mp hr))
        (horder.length_eq.trans_le hlength) ((horder.map _).nodup_iff.mpr hprefs) (by rwa [horder.length_eq])
      rw [withRules, hsorted, horder.length_eq] at hadded
      exact ⟨_, hadded, rfl, fun _ _ _ _ _ => rfl⟩

def sshAcl : AdminAcl where
  rule := { pref := 20, src := 0, srcPrefix := 0, dst := 0, dstPrefix := 0, iif := 0, proto := 6, sportMin := 0, sportMax := 65535
            dportMin := 22, dportMax := 22, ports := 2, drop := 1 }
  dev := "eth0"

def gatewayAcl : AdminAcl where
  rule := { pref := 10, src := htonl 0x0a000002, srcPrefix := 32, dst := 0, dstPrefix := 0, iif := 0, proto := 0, sportMin := 0
            sportMax := 65535, dportMin := 0, dportMax := 65535, ports := 0, drop := 0 }
  dev := ""

def policyRequest (pref : Word) : AdminRequest where
  group := .rule
  verb := .add
  v := { pref := pref, table := netTableMain }

theorem rule_sets_order_free_two : (∃ added : NetConfig, added.acls.length = 2 ∧
    mutateEach startLinks startConfig [addAcl sshAcl, addAcl gatewayAcl] = .ok added ∧
    mutateEach startLinks startConfig [addAcl gatewayAcl, addAcl sshAcl] = .ok added) ∧
    ∃ first second, mutateEach startLinks startConfig [policyRequest 10, policyRequest 20] = .ok first ∧
      mutateEach startLinks startConfig [policyRequest 20, policyRequest 10] = .ok second ∧ first.rules.length = 2 ∧
      second.rules = first.rules := by
  have hpublished : Published startRouting startConfig := .init netConfigInit_startRouting
  constructor
  · have hssh : ValidAcl startLinks sshAcl := ⟨⟨some 0, by decide⟩, by decide⟩
    have hgateway : ValidAcl startLinks gatewayAcl := ⟨⟨none, by decide⟩, by decide⟩
    have hvalid : ∀ a ∈ [sshAcl, gatewayAcl], ValidAcl startLinks a :=
      List.forall_mem_cons.mpr ⟨hssh, List.forall_mem_singleton.mpr hgateway⟩
    obtain ⟨added, applied, hlength, -, -, -, horders⟩ := (rule_sets_order_free hpublished rfl).1 [sshAcl, gatewayAcl] rfl
      (by decide) hvalid (by decide) (by decide)
    exact ⟨added, hlength, (horders _ (.refl _)).1, (horders [gatewayAcl, sshAcl] (List.Perm.swap _ _ _)).1⟩
  · have hvalid : ∀ r ∈ [policyRequest 10, policyRequest 20], ValidRule startLinks r :=
      List.forall_mem_cons.mpr ⟨⟨rfl, rfl, ⟨none, by decide⟩, by decide⟩,
        List.forall_mem_singleton.mpr ⟨rfl, rfl, ⟨none, by decide⟩, by decide⟩⟩
    obtain ⟨added, hlength, horders⟩ := (rule_sets_order_free hpublished rfl).2 [policyRequest 10, policyRequest 20] rfl
      (by decide) hvalid (by decide) (by decide)
    obtain ⟨first, hfirst, hrules, -⟩ := horders _ (.refl _)
    obtain ⟨second, hsecond, hrules', -⟩ := horders [policyRequest 20, policyRequest 10] (List.Perm.swap _ _ _)
    exact ⟨first, second, hfirst, hsecond, hrules ▸ hlength, hrules'.trans hrules.symm⟩

end PulsarNetstack
