import PulsarNetstack.AdminWire
import PulsarNetstack.OnLink
import PulsarNetstack.RouteMigration

namespace PulsarNetstack

def netMaskChecked (prefixLen : Word) : Option Word := if 32 < prefixLen then none else some (netMask prefixLen)

def netMatchChecked (ip network prefixLen : Word) : Option Bool := do
  let mask ← netMaskChecked prefixLen
  return ip &&& mask == network

def netPrefixValidChecked (ip prefixLen : Word) : Option Bool :=
  if prefixLen ≤ 32 then do
    let mask ← netMaskChecked prefixLen
    return ip &&& ~~~ mask == 0
  else some false

def netHostChecked (ip prefixLen : Word) : Option Bool :=
  if 32 < prefixLen then some false
  else do
    let mask ← netMaskChecked prefixLen
    return decide (31 ≤ prefixLen) || (ip &&& ~~~ mask != 0 && ip &&& ~~~ mask != ~~~ mask)

def andChecked (x y : Option Bool) : Option Bool := x.bind fun b => if b then y else some false

def thenChecked {α β : Type} (x : Option (Except Errno α)) (f : α → Option (Except Errno β)) : Option (Except Errno β) :=
  x.bind fun
    | .ok a => f a
    | .error e => some (.error e)

def addConnectedChecked : List NetRoute → List NetAddress → Option (Except Errno (List NetRoute))
  | routes, [] => some (.ok routes)
  | routes, a :: addresses =>
    (netMaskChecked a.prefixLen).bind fun _ =>
      if routes.any (isConnectedOf a) then addConnectedChecked routes addresses
      else if routes.length = netRouteMax then some (.error .enospc)
      else addConnectedChecked (routes ++ [connectedRoute a]) addresses

def netConnectedRebuildChecked (c : NetConfig) : Option (Except Errno NetConfig) :=
  if netAddrMax < c.addresses.length ∨ netRouteMax < c.routes.length then some (.error .einval)
  else if c.addresses.any fun a => decide (32 < a.prefixLen) then some (.error .einval)
  else thenChecked (addConnectedChecked (c.routes.filter fun r => r.connected == 0) c.addresses) fun routes =>
    some (.ok { c with routesIndexed := false, routes := routes })

def validateEachChecked {α : Type} (check : List α → α → Option (Except Errno Unit)) :
    List α → List α → Option (Except Errno Unit)
  | _, [] => some (.ok ())
  | before, a :: rest => thenChecked (check before a) fun _ => validateEachChecked check (before ++ [a]) rest

def validateAddressChecked (ports : ℕ) (before : List NetAddress) (a : NetAddress) : Option (Except Errno Unit) :=
  if ports ≤ a.dev.toNat ∨ 32 < a.prefixLen ∨ !netUnicast a.ip then some (.error .einval)
  else do
    let host ← netHostChecked a.ip a.prefixLen
    if !host then some (.error .einval)
    else if before.any fun b => b.ip == a.ip then some (.error .eexist)
    else some (.ok ())

def attachedChecked (gateway : Word) (a : NetAddress) : Option Bool := do
  let mask ← netMaskChecked a.prefixLen
  netMatchChecked gateway (a.ip &&& mask) a.prefixLen

def gatewayRefusedChecked (gateway : Word) (a : NetAddress) : Option Bool :=
  if a.ip == gateway then some true
  else andChecked (attachedChecked gateway a) ((netHostChecked gateway a.prefixLen).map not)

def onLinkAddressChecked (r : NetRoute) (a : NetAddress) : Option Bool :=
  if a.dev == r.dev then andChecked (attachedChecked r.gateway a) (netHostChecked r.gateway a.prefixLen) else some false

def addressLoopChecked (r : NetRoute) : Bool → List NetAddress → Option (Except Errno Bool)
  | reachable, [] => some (.ok reachable)
  | reachable, a :: addresses => do
    let refused ← gatewayRefusedChecked r.gateway a
    if refused then some (.error .einval)
    else do
      let onLink ← onLinkAddressChecked r a
      addressLoopChecked r (reachable || onLink) addresses

def consults (r p : NetRoute) : Bool :=
  p.table == r.table && p.dev == r.dev && p.type == netUnicastAction && p.gateway == 0

def onLinkRouteChecked (r p : NetRoute) : Option Bool :=
  if consults r p then andChecked (netMatchChecked r.gateway p.ip p.prefixLen) (netHostChecked r.gateway p.prefixLen)
  else some false

def routeLoopChecked (r : NetRoute) : Bool → List NetRoute → Option Bool
  | reachable, [] => some reachable
  | reachable, p :: routes => do
    let onLink ← onLinkRouteChecked r p
    routeLoopChecked r (reachable || onLink) routes

def gatewayChecked (c : NetConfig) (r : NetRoute) : Option (Except Errno Unit) :=
  thenChecked (addressLoopChecked r false c.addresses) fun reachable => do
    let reachable ← routeLoopChecked r reachable c.routes
    if reachable then some (.ok ()) else some (.error .enetunreach)

def validateRouteChecked (c : NetConfig) (ports : ℕ) (before : List NetRoute) (r : NetRoute) :
    Option (Except Errno Unit) := do
  let valid ← netPrefixValidChecked r.ip r.prefixLen
  if !valid ∨ r.table = 0 ∨ r.table = netTableLocal ∨ netProhibit < r.type ∨
      1 < r.connected ∨ (r.type = netUnicastAction ∧ ports ≤ r.dev.toNat) ∨ (r.type ≠ 0 ∧ r.gateway ≠ 0) then
    some (.error .einval)
  else if before.any (routeClash r) then some (.error .eexist)
  else if r.gateway = 0 then some (.ok ())
  else if !netUnicast r.gateway then some (.error .einval)
  else gatewayChecked c r

def validateRuleChecked (ports : ℕ) (before : List NetRule) (r : NetRule) : Option (Except Errno Unit) :=
  if r.pref = 0 ∨ 32766 ≤ r.pref then some (.error .einval)
  else do
    let valid ← andChecked (netPrefixValidChecked r.src r.srcPrefix) (netPrefixValidChecked r.dst r.dstPrefix)
    if !valid ∨ (r.iif ≠ netIifNone ∧ ports ≤ r.iif.toNat) ∨ netProhibit < r.type ∨
        (r.type = 0 ∧ (r.table = 0 ∨ r.table = netTableLocal)) ∨
        (before.getLast?.any fun p => decide (r.pref ≤ p.pref)) then some (.error .einval)
    else some (.ok ())

def validateAclChecked (ports : ℕ) (before : List NetAcl) (a : NetAcl) : Option (Except Errno Unit) := do
  let valid ← andChecked (netPrefixValidChecked a.src a.srcPrefix) (netPrefixValidChecked a.dst a.dstPrefix)
  if !valid ∨ (a.iif ≠ netIifNone ∧ ports ≤ a.iif.toNat) ∨ 255 < a.proto ∨ 1 < a.drop ∨ 3 < a.ports ∨
      (a.ports ≠ 0 ∧ a.proto ≠ 6 ∧ a.proto ≠ 17) ∨ a.sportMax < a.sportMin ∨ a.dportMax < a.dportMin ∨
      65535 < a.sportMax ∨ 65535 < a.dportMax ∨ (before.getLast?.any fun p => decide (a.pref ≤ p.pref)) then
    some (.error .einval)
  else some (.ok ())

def netConfigValidateChecked (c : NetConfig) (ports : ℕ) : Option (Except Errno Unit) :=
  if netAddrMax < c.addresses.length ∨ netRouteMax < c.routes.length ∨ netRuleMax < c.rules.length ∨
      netAclMax < c.acls.length ∨ 1 < c.defaultDrop then some (.error .einval)
  else
    thenChecked (validateEachChecked (validateAddressChecked ports) [] c.addresses) fun _ =>
    thenChecked (validateEachChecked (validateRouteChecked c ports) [] c.routes) fun _ =>
    thenChecked (validateEachChecked (validateRuleChecked ports) [] c.rules) fun _ =>
    validateEachChecked (validateAclChecked ports) [] c.acls

def netConfigPrepareChecked (c : NetConfig) (ports : ℕ) : Option (Except Errno NetConfig) :=
  let c := { c with routesIndexed := false }
  thenChecked (netConfigValidateChecked c ports) fun _ =>
    if c.routes.length ≤ 2 then some (.ok c)
    else do
      -- The masks of the index.
      let _ ← c.routes.mapM fun r => netMaskChecked r.prefixLen
      some (.ok { c with routeIndex := buildRouteIndex c.routes, routesIndexed := true })

def mutateAddressesChecked (c : NetConfig) (r : AdminRequest) (dev : Option ℕ) : Option (Except Errno NetConfig) :=
  match dev with
  | none => some (.error .enodev)
  | some dev =>
    let dev : Word := BitVec.ofNat 32 dev
    let i := c.addresses.findIdx fun a => a.ip == r.v.ip && a.dev == dev
    let new : NetAddress := { ip := r.v.ip, prefixLen := r.v.prefixLen, dev := dev }
    match r.verb with
    | .flush => netConnectedRebuildChecked { c with addresses := c.addresses.filter fun a => a.dev != dev }
    | .del =>
      if c.addresses[i]?.all fun a => a.prefixLen != r.v.prefixLen then some (.error .enoent)
      else netConnectedRebuildChecked { c with addresses := c.addresses.eraseIdx i }
    | .add | .replace =>
      if i < c.addresses.length ∧ r.verb = .add then some (.error .eexist)
      else if i < c.addresses.length then netConnectedRebuildChecked { c with addresses := c.addresses.set i new }
      else if i = netAddrMax then some (.error .enospc)
      else netConnectedRebuildChecked { c with addresses := c.addresses ++ [new] }
    | _ => some (.error .eopnotsupp)

def editConfigChecked (view : AdminView) (r : AdminRequest) : Option (Except Errno NetConfig) :=
  thenChecked (some (namedDevice view r.dev)) fun dev =>
    match r.group with
    | .addr => mutateAddressesChecked view.config r dev
    | .route => some (mutateRoutes view r dev)
    | .rule => some (mutateRules view.config r dev)
    | .acl => some (mutateAcls view r dev)
    | _ => some (.error .eopnotsupp)

def adminMutateChecked (view : AdminView) (r : AdminRequest) : Option (Except Errno NetConfig) :=
  thenChecked (editConfigChecked view r) fun c =>
    if c.generation = 18446744073709551615 then some (.error .eoverflow)
    else netConfigPrepareChecked { c with generation := c.generation + 1 } view.links.length

section Agreement

variable {α β : Type} {x : Except Errno α} {f : α → Option (Except Errno β)} {g : α → Except Errno β}
variable {ip network prefixLen gateway : Word} {a : NetAddress} {r p : NetRoute} {c : NetConfig} {ports : ℕ}

theorem thenChecked_some (h : ∀ a, x = .ok a → f a = some (g a)) : thenChecked (some x) f = some (x >>= g) := by
  cases x with
  | error e => rfl
  | ok a => exact h a rfl

@[simp] theorem andChecked_some (a b : Bool) : andChecked (some a) (some b) = some (a && b) := by
  cases a <;> rfl

theorem netMaskChecked_of_le (h : prefixLen ≤ 32) : netMaskChecked prefixLen = some (netMask prefixLen) :=
  if_neg (BitVec.not_lt.mpr h)

theorem netMaskChecked_of_lt (h : 32 < prefixLen) : netMaskChecked prefixLen = none := if_pos h

theorem netMatchChecked_of_le (h : prefixLen ≤ 32) :
    netMatchChecked ip network prefixLen = some (netMatch ip network prefixLen) := by
  rw [netMatchChecked, netMaskChecked_of_le h]
  rfl

theorem netPrefixValidChecked_eq : netPrefixValidChecked ip prefixLen = some (netPrefixValid ip prefixLen) := by
  by_cases h : prefixLen ≤ 32
  · rw [netPrefixValidChecked, if_pos h, netMaskChecked_of_le h, netPrefixValid, decide_eq_true h]
    rfl
  · rw [netPrefixValidChecked, if_neg h, netPrefixValid, decide_eq_false h, Bool.false_and]

theorem netHostChecked_eq : netHostChecked ip prefixLen = some (netHost ip prefixLen) := by
  by_cases h : 32 < prefixLen
  · rw [netHostChecked, if_pos h, netHost, if_pos h]
  · rw [netHostChecked, if_neg h, netMaskChecked_of_le (BitVec.not_lt.mp h), netHost, if_neg h]
    rfl

theorem addConnectedChecked_eq {addresses : List NetAddress} {routes : List NetRoute}
    (h : ∀ a ∈ addresses, a.prefixLen ≤ 32) :
    addConnectedChecked routes addresses = some (addConnected routes addresses) := by
  induction addresses generalizing routes with
  | nil => rfl
  | cons a addresses ih =>
    have ih (routes : List NetRoute) : addConnectedChecked routes addresses = some (addConnected routes addresses) :=
      ih fun b hb => h b (.tail _ hb)
    rw [addConnectedChecked, netMaskChecked_of_le (h a List.mem_cons_self), Option.bind_some, addConnected, ih, ih,
      apply_ite some, apply_ite some]

theorem netConnectedRebuildChecked_eq : netConnectedRebuildChecked c = some (netConnectedRebuild c) := by
  rw [netConnectedRebuildChecked, netConnectedRebuild]
  split_ifs with hlength hprefix
  · rfl
  · rfl
  · have hle (a : NetAddress) (ha : a ∈ c.addresses) : a.prefixLen ≤ 32 := by
      apply BitVec.not_lt.mp
      intro hlt
      exact hprefix (List.any_eq_true.mpr ⟨a, ha, decide_eq_true hlt⟩)
    rw [addConnectedChecked_eq hle]
    exact thenChecked_some fun _ _ => rfl

theorem mutateAddressesChecked_eq {r : AdminRequest} {dev : Option ℕ} :
    mutateAddressesChecked c r dev = some (mutateAddresses c r dev) := by
  cases dev with
  | none => rfl
  | some dev =>
    obtain ⟨group, verb, v, name, acls⟩ := r
    simp only [mutateAddressesChecked, mutateAddresses, netConnectedRebuildChecked_eq]
    cases verb <;> dsimp only <;> split_ifs <;> rfl

theorem editConfigChecked_eq {view : AdminView} {r : AdminRequest} :
    editConfigChecked view r = some (editConfig view r) := by
  apply thenChecked_some
  intro dev _
  rw [mutateAddressesChecked_eq]
  cases r.group <;> rfl

theorem validateEachChecked_eq {check' : List α → α → Option (Except Errno Unit)} {check : List α → α → Except Errno Unit}
    {before l : List α} (h : ∀ before, ∀ a ∈ l, check' before a = some (check before a)) :
    validateEachChecked check' before l = some (validateEach check before l) := by
  induction l generalizing before with
  | nil => rfl
  | cons a l ih =>
    rw [validateEachChecked, h before a List.mem_cons_self]
    exact thenChecked_some fun _ _ => ih fun before b hb => h before b (.tail _ hb)

theorem validateAddressChecked_eq (before : List NetAddress) :
    validateAddressChecked ports before a = some (validateAddress ports before a) := by
  rw [validateAddressChecked, validateAddress, netHostChecked_eq]
  simp only [Option.bind_eq_bind, Option.bind_some, apply_ite some]
  split_ifs <;> first | rfl | grind

theorem validateRuleChecked_eq (before : List NetRule) (r : NetRule) :
    validateRuleChecked ports before r = some (validateRule ports before r) := by
  rw [validateRuleChecked, validateRule, netPrefixValidChecked_eq, netPrefixValidChecked_eq, andChecked_some]
  simp only [Option.bind_eq_bind, Option.bind_some, Bool.not_and, Bool.or_eq_true, ← apply_ite some]
  congr 1
  split_ifs <;> first | rfl | grind

theorem validateAclChecked_eq (before : List NetAcl) (a : NetAcl) :
    validateAclChecked ports before a = some (validateAcl ports before a) := by
  rw [validateAclChecked, validateAcl, netPrefixValidChecked_eq, netPrefixValidChecked_eq, andChecked_some]
  simp only [Option.bind_eq_bind, Option.bind_some, Bool.not_and, Bool.or_eq_true, ← apply_ite some, or_assoc]

end Agreement

section Routes

variable {a : NetAddress} {r p new : NetRoute} {c c' : NetConfig} {ports : ℕ} {before : List NetRoute} {gateway : Word}

theorem attachedChecked_eq (ha : a.prefixLen ≤ 32) :
    attachedChecked gateway a = some (netMatch gateway a.network a.prefixLen) := by
  rw [attachedChecked, netMaskChecked_of_le ha]
  exact netMatchChecked_of_le ha

theorem gatewayRefusedChecked_eq (ha : a.prefixLen ≤ 32) :
    gatewayRefusedChecked gateway a = some (gatewayRefused gateway a) := by
  rw [gatewayRefusedChecked, attachedChecked_eq ha, netHostChecked_eq, Option.map_some, andChecked_some, gatewayRefused]
  cases a.ip == gateway <;> rfl

theorem onLinkAddressChecked_eq (ha : a.prefixLen ≤ 32) : onLinkAddressChecked r a = some (onLinkAddress r a) := by
  rw [onLinkAddressChecked, attachedChecked_eq ha, netHostChecked_eq, andChecked_some, onLinkAddress, Bool.and_assoc]
  cases a.dev == r.dev <;> rfl

theorem addressLoopChecked_eq {addresses : List NetAddress} (h : ∀ a ∈ addresses, a.prefixLen ≤ 32) (reachable : Bool) :
    addressLoopChecked r reachable addresses = some (if addresses.any (gatewayRefused r.gateway) then .error .einval
      else .ok (reachable || addresses.any (onLinkAddress r))) := by
  induction addresses generalizing reachable with
  | nil => simp [addressLoopChecked]
  | cons a addresses ih =>
    have ha := h a List.mem_cons_self
    rw [addressLoopChecked, gatewayRefusedChecked_eq ha, onLinkAddressChecked_eq ha, List.any_cons, List.any_cons]
    simp only [Option.bind_eq_bind, Option.bind_some, ih fun b hb => h b (.tail _ hb)]
    cases gatewayRefused r.gateway a with
    | true => rfl
    | false => rw [if_neg Bool.false_ne_true, Bool.false_or, Bool.or_assoc]

def Stray (r p : NetRoute) : Prop := consults r p = true ∧ 32 < p.prefixLen

theorem onLinkRouteChecked_eq (h : ¬ Stray r p) : onLinkRouteChecked r p = some (onLinkRoute r p) := by
  have honLink : onLinkRoute r p =
      (consults r p && (netMatch r.gateway p.ip p.prefixLen && netHost r.gateway p.prefixLen)) := by
    rw [onLinkRoute, consults, Bool.and_assoc _ (netMatch _ _ _)]
  rw [onLinkRouteChecked, honLink]
  split
  · rename_i hconsults
    have hle : p.prefixLen ≤ 32 := BitVec.not_lt.mp fun hlt => h ⟨hconsults, hlt⟩
    rw [netMatchChecked_of_le hle, netHostChecked_eq, andChecked_some, hconsults, Bool.true_and]
  · rename_i hconsults
    rw [eq_false_of_ne_true hconsults, Bool.false_and]

theorem Stray.onLinkRouteChecked (h : Stray r p) : onLinkRouteChecked r p = none := by
  rw [PulsarNetstack.onLinkRouteChecked, if_pos h.1, netMatchChecked, netMaskChecked_of_lt h.2]
  rfl

theorem routeLoopChecked_eq {routes : List NetRoute} (h : ∀ p ∈ routes, ¬ Stray r p) (reachable : Bool) :
    routeLoopChecked r reachable routes = some (reachable || routes.any (onLinkRoute r)) := by
  induction routes generalizing reachable with
  | nil => simp [routeLoopChecked]
  | cons p routes ih =>
    rw [routeLoopChecked, onLinkRouteChecked_eq (h p List.mem_cons_self), List.any_cons, ← Bool.or_assoc]
    exact ih (fun q hq => h q (.tail _ hq)) _

theorem Stray.routeLoopChecked {routes : List NetRoute} (h : Stray r p) (hp : p ∈ routes) (reachable : Bool) :
    routeLoopChecked r reachable routes = none := by
  induction routes generalizing reachable with
  | nil => cases hp
  | cons q routes ih =>
    rw [PulsarNetstack.routeLoopChecked]
    rcases List.mem_cons.mp hp with rfl | hp
    · rw [h.onLinkRouteChecked]
      rfl
    · cases PulsarNetstack.onLinkRouteChecked r q with
      | none => rfl
      | some onLink => exact ih hp _

theorem validateRouteChecked_eq (haddresses : ∀ a ∈ c.addresses, a.prefixLen ≤ 32)
    (h : r.prefixLen ≤ 32 → r.gateway ≠ 0 → ∀ p ∈ c.routes, ¬ Stray r p) (before : List NetRoute) :
    validateRouteChecked c ports before r = some (validateRoute c ports before r) := by
  rw [validateRouteChecked, validateRoute, netPrefixValidChecked_eq, Option.bind_eq_bind, Option.bind_some]
  split_ifs with hchecks hclash hgateway hunicast hrefused honLink
  · rfl
  · rfl
  · rfl
  · rfl
  all_goals
    have hvalid : netPrefixValid r.ip r.prefixLen = true := by
      by_contra hn
      exact hchecks (.inl (by rw [eq_false_of_ne_true hn]; rfl))
    have hle : r.prefixLen ≤ 32 := netPrefixValid_le hvalid
    rw [gatewayChecked, addressLoopChecked_eq haddresses]
  · rw [if_pos hrefused]
    rfl
  · rw [if_neg hrefused]
    change (routeLoopChecked r _ c.routes).bind _ = _
    rw [routeLoopChecked_eq (h hle hgateway), Bool.false_or, honLink]
    rfl
  · rw [if_neg hrefused]
    change (routeLoopChecked r _ c.routes).bind _ = _
    rw [routeLoopChecked_eq (h hle hgateway), Bool.false_or, eq_false_of_ne_true honLink]
    rfl

theorem Stray.validateRouteChecked (h : Stray r p) (hp : p ∈ c'.routes) (haddresses : ∀ a ∈ c.addresses, a.prefixLen ≤ 32)
    (hsame : c'.addresses = c.addresses) (hgateway : r.gateway ≠ 0) (hvalid : validateRoute c ports before r = .ok ()) :
    validateRouteChecked c' ports before r = none := by
  rw [validateRoute, if_error_eq_ok, if_error_eq_ok, if_neg hgateway, if_error_eq_ok, if_error_eq_ok] at hvalid
  obtain ⟨hchecks, hclash, hunicast, hrefused, -⟩ := hvalid
  rw [PulsarNetstack.validateRouteChecked, netPrefixValidChecked_eq, Option.bind_eq_bind, Option.bind_some, if_neg hchecks,
    if_neg hclash, if_neg hgateway, if_neg hunicast, gatewayChecked, hsame, addressLoopChecked_eq haddresses, if_neg hrefused]
  change (PulsarNetstack.routeLoopChecked r _ c'.routes).bind _ = _
  rw [h.routeLoopChecked hp]
  rfl

theorem validateRoute_mono (hsame : c'.addresses = c.addresses) (hroutes : c.routes ⊆ c'.routes)
    (h : validateRoute c ports before r = .ok ()) : validateRoute c' ports before r = .ok () := by
  by_cases hgateway : r.gateway = 0
  · rw [validateRoute, if_error_eq_ok, if_error_eq_ok, if_pos hgateway] at h ⊢
    exact h
  · rw [validateRoute, if_error_eq_ok, if_error_eq_ok, if_neg hgateway, if_error_eq_ok, if_error_eq_ok] at h ⊢
    obtain ⟨hchecks, hclash, hunicast, hrefused, hlink⟩ := h
    refine ⟨hchecks, hclash, hunicast, by rwa [hsame], ?_⟩
    apply if_pos
    rw [hsame, Bool.or_eq_true]
    by_contra hn
    rw [if_neg] at hlink
    · cases hlink
    · intro hany
      rcases Bool.or_eq_true_iff.mp hany with hany | hany
      · exact hn (.inl hany)
      · obtain ⟨p, hp, hlink⟩ := List.any_eq_true.mp hany
        exact hn (.inr (List.any_eq_true.mpr ⟨p, hroutes hp, hlink⟩))

theorem validateEachChecked_none {α : Type} {check : List α → α → Option (Except Errno Unit)} {before l rest : List α}
    (hstep : ∀ l₁ a l₂, l = l₁ ++ a :: l₂ → check (before ++ l₁) a = none ∨ check (before ++ l₁) a = some (.ok ()))
    (hnone : ∃ l₁ a l₂, l = l₁ ++ a :: l₂ ∧ check (before ++ l₁) a = none) :
    validateEachChecked check before (l ++ rest) = none := by
  induction l generalizing before with
  | nil =>
    obtain ⟨l₁, a, l₂, hl, -⟩ := hnone
    simp at hl
  | cons b l ih =>
    rw [List.cons_append, validateEachChecked]
    rcases hfirst : check before b with _ | _ | _
    · rfl
    · have := hstep [] b l rfl
      simp [hfirst] at this
    · apply ih
      · intro l₁ a l₂ hl
        have := hstep (b :: l₁) a l₂ (by rw [hl]; rfl)
        rwa [List.append_cons] at this
      · obtain ⟨l₁, a, l₂, hl, hnone⟩ := hnone
        cases l₁ with
        | nil =>
          obtain ⟨rfl, rfl⟩ := List.cons.inj hl
          rw [List.append_nil, hfirst] at hnone
          cases hnone
        | cons d l₁ =>
          obtain ⟨rfl, rfl⟩ := List.cons.inj hl
          rw [List.append_cons] at hnone
          exact ⟨l₁, a, l₂, rfl, hnone⟩

theorem Stray.validateRoutesChecked (h : Stray r new) (hr : r ∈ c.routes) (hgateway : r.gateway ≠ 0)
    (hok : NetConfigOk c ports) (hsame : c'.addresses = c.addresses) (hroutes : c'.routes = c.routes ++ [new]) :
    validateEachChecked (PulsarNetstack.validateRouteChecked c' ports) [] c'.routes = none := by
  have haddresses (a : NetAddress) : a ∈ c.addresses → a.prefixLen ≤ 32 := hok.address_prefixLen
  have hnew : new ∈ c'.routes := by
    rw [hroutes]
    exact List.mem_append_right _ (List.mem_singleton_self new)
  have hsub : c.routes ⊆ c'.routes := by
    rw [hroutes]
    exact List.subset_append_left _ _
  have hvalid (l₁ : List NetRoute) (q : NetRoute) (l₂ : List NetRoute) (hl : c.routes = l₁ ++ q :: l₂) :
      validateRoute c ports ([] ++ l₁) q = .ok () := validateEach_eq_ok.mp hok.routes l₁ q l₂ hl
  rw [hroutes]
  apply validateEachChecked_none
  · intro l₁ q l₂ hl
    by_cases hstray : q.gateway ≠ 0 ∧ Stray q new
    · exact .inl (hstray.2.validateRouteChecked hnew haddresses hsame hstray.1 (hvalid l₁ q l₂ hl))
    · right
      rw [validateRouteChecked_eq (hsame ▸ haddresses)]
      · rw [validateRoute_mono hsame hsub (hvalid l₁ q l₂ hl)]
      · intro _ hq p hp
        rw [hroutes, List.mem_append, List.mem_singleton] at hp
        rcases hp with hp | rfl
        · exact fun hs => BitVec.not_lt.mpr (hok.route_prefixLen hp) hs.2
        · exact fun hs => hstray ⟨hq, hs⟩
  · obtain ⟨l₁, l₂, hl⟩ := List.append_of_mem hr
    exact ⟨l₁, r, l₂, hl, h.validateRouteChecked hnew haddresses hsame hgateway (hvalid l₁ r l₂ hl)⟩

end Routes

section Prepare

variable {r p new : NetRoute} {c c' : NetConfig} {ports : ℕ}

theorem netConfigValidateChecked_eq
    (h : ∀ r ∈ c.routes, r.prefixLen ≤ 32 → r.gateway ≠ 0 → ∀ p ∈ c.routes, ¬ Stray r p) :
    netConfigValidateChecked c ports = some (netConfigValidate c ports) := by
  rw [netConfigValidateChecked, netConfigValidate]
  split_ifs
  · rfl
  · rw [validateEachChecked_eq fun before a _ => validateAddressChecked_eq before]
    apply thenChecked_some
    intro _ haddresses
    have hle (a : NetAddress) (ha : a ∈ c.addresses) : a.prefixLen ≤ 32 := by
      obtain ⟨before, hb⟩ := validateEach_mem haddresses ha
      rw [validateAddress, if_error_eq_ok] at hb
      exact BitVec.not_lt.mp fun hlt => hb.1 (.inr (.inl hlt))
    rw [validateEachChecked_eq fun before r hr => validateRouteChecked_eq hle (h r hr) before]
    apply thenChecked_some
    intro _ _
    rw [validateEachChecked_eq fun before r _ => validateRuleChecked_eq before r]
    apply thenChecked_some
    intro _ _
    exact validateEachChecked_eq fun before a _ => validateAclChecked_eq before a

theorem mapM_some {α β : Type} {f : α → Option β} {g : α → β} {l : List α} (h : ∀ a ∈ l, f a = some (g a)) :
    l.mapM f = some (l.map g) := by
  induction l with
  | nil => rfl
  | cons a l ih =>
    have htail := ih fun b hb => h b (.tail _ hb)
    rw [List.mapM_cons, h a List.mem_cons_self, htail]
    rfl

theorem netConfigPrepareChecked_eq
    (h : ∀ r ∈ c.routes, r.prefixLen ≤ 32 → r.gateway ≠ 0 → ∀ p ∈ c.routes, ¬ Stray r p) :
    netConfigPrepareChecked c ports = some (netConfigPrepare c ports) := by
  have hvalidate : netConfigValidateChecked { c with routesIndexed := false } ports = _ := netConfigValidateChecked_eq h
  rw [netConfigPrepareChecked, hvalidate]
  apply thenChecked_some
  intro _ hok
  have hmasks : c.routes.mapM (fun r => netMaskChecked r.prefixLen) = some (c.routes.map fun r => netMask r.prefixLen) := by
    apply mapM_some
    intro r hr
    exact netMaskChecked_of_le ((netConfigValidate_eq_ok.mp hok).route_prefixLen hr)
  dsimp only
  rw [hmasks]
  split_ifs <;> rfl

theorem Stray.netConfigPrepareChecked (h : Stray r new) (hr : r ∈ c.routes) (hgateway : r.gateway ≠ 0)
    (hok : NetConfigOk c ports) (hspace : c.routes.length < netRouteMax) (generation : ℕ) :
    netConfigPrepareChecked { c with routes := c.routes ++ [new], generation := generation } ports = none := by
  have hroutes : validateEachChecked (PulsarNetstack.validateRouteChecked
      { c with routes := c.routes ++ [new], generation := generation, routesIndexed := false } ports) []
        (c.routes ++ [new]) = none := h.validateRoutesChecked hr hgateway hok rfl rfl
  have hlength : ¬ (netAddrMax < c.addresses.length ∨ netRouteMax < (c.routes ++ [new]).length ∨
      netRuleMax < c.rules.length ∨ netAclMax < c.acls.length ∨ 1 < c.defaultDrop) := by
    rw [List.length_append, List.length_singleton]
    simp only [not_or, not_lt, BitVec.not_lt]
    exact ⟨hok.addresses_length, hspace, hok.rules_length, hok.acls_length, hok.defaultDrop⟩
  rw [PulsarNetstack.netConfigPrepareChecked, netConfigValidateChecked]
  dsimp only
  rw [if_neg hlength, validateEachChecked_eq fun before a _ => validateAddressChecked_eq before, hok.addresses, hroutes]
  rfl

end Prepare

section Requests

variable {c c' : NetConfig} {view : AdminView} {r : AdminRequest} {dev : Option ℕ} {ports : ℕ}

theorem addConnected_mem {addresses : List NetAddress} {routes routes' : List NetRoute} {p : NetRoute}
    (h : addConnected routes addresses = .ok routes') (hp : p ∈ routes') :
    p ∈ routes ∨ ∃ a ∈ addresses, p = connectedRoute a := by
  induction addresses generalizing routes with
  | nil =>
    obtain rfl := Except.ok.inj h
    exact .inl hp
  | cons a addresses ih =>
    rw [addConnected] at h
    split at h
    · rcases ih h with hold | ⟨b, hb, rfl⟩
      · exact .inl hold
      · exact .inr ⟨b, .tail _ hb, rfl⟩
    · rcases ih (if_error_eq_ok.mp h).2 with hold | ⟨b, hb, rfl⟩
      · rcases List.mem_append.mp hold with hold | hnew
        · exact .inl hold
        · exact .inr ⟨a, List.mem_cons_self, List.mem_singleton.mp hnew⟩
      · exact .inr ⟨b, .tail _ hb, rfl⟩

theorem netConnectedRebuild_prefixLen (hroutes : ∀ p ∈ c.routes, p.prefixLen ≤ 32) (h : netConnectedRebuild c = .ok c') :
    ∀ p ∈ c'.routes, p.prefixLen ≤ 32 := by
  rw [netConnectedRebuild, if_error_eq_ok, if_error_eq_ok, except_bind_eq_ok] at h
  obtain ⟨-, hprefix, routes, hadd, hc⟩ := h
  obtain rfl := Except.ok.inj hc
  intro p hp
  rcases addConnected_mem hadd hp with hold | ⟨a, ha, rfl⟩
  · exact hroutes p (List.mem_filter.mp hold).1
  · apply BitVec.not_lt.mp
    intro hlt
    exact hprefix (List.any_eq_true.mpr ⟨a, ha, decide_eq_true hlt⟩)

def requestRoute (r : AdminRequest) (dev : Option ℕ) : NetRoute :=
  { ip := r.v.ip, prefixLen := r.v.prefixLen, gateway := r.v.gateway
    dev := BitVec.ofNat 32 (dev.getD 0), table := r.v.table, type := r.v.action }

theorem mutateRoutes_prefixLen (hroutes : ∀ p ∈ view.config.routes, p.prefixLen ≤ 32)
    (hle : r.verb = .add ∨ r.verb = .replace → r.v.prefixLen ≤ 32) (h : mutateRoutes view r dev = .ok c') :
    ∀ p ∈ c'.routes, p.prefixLen ≤ 32 := by
  rw [mutateRoutes, if_error_eq_ok] at h
  replace h := h.2
  dsimp only at h
  -- What a new route does to the list, at its place or at the end.
  have hplace {i : ℕ} (hverb : r.verb = .add ∨ r.verb = .replace)
      (h : (if i < view.config.routes.length then
          Except.ok { view.config with routes := view.config.routes.set i (requestRoute r dev) }
        else if i = netRouteMax then .error Errno.enospc
        else .ok { view.config with routes := view.config.routes ++ [requestRoute r dev] }) = .ok c') :
      ∀ p ∈ c'.routes, p.prefixLen ≤ 32 := by
    intro p hp
    split at h
    · obtain rfl := Except.ok.inj h
      rcases List.mem_or_eq_of_mem_set hp with hold | rfl
      · exact hroutes p hold
      · exact hle hverb
    · obtain rfl := Except.ok.inj (if_error_eq_ok.mp h).2
      rcases List.mem_append.mp hp with hold | hnew
      · exact hroutes p hold
      · rw [List.mem_singleton.mp hnew]
        exact hle hverb
  split at h
  · obtain rfl := Except.ok.inj h
    exact fun p hp => hroutes p (List.mem_filter.mp hp).1
  · split at h
    · cases h
    · obtain rfl := Except.ok.inj (if_error_eq_ok.mp h).2
      exact fun p hp => hroutes p (List.mem_of_mem_eraseIdx hp)
  · rename_i hverb
    rw [if_error_eq_ok, if_error_eq_ok] at h
    exact hplace (.inl hverb) h.2.2
  · rename_i hverb
    rw [if_error_eq_ok, if_error_eq_ok] at h
    exact hplace (.inr hverb) h.2.2
  · cases h

theorem mutateRoutes_overlong (hroutes : ∀ p ∈ view.config.routes, p.prefixLen ≤ 32)
    (hverb : r.verb = .add ∨ r.verb = .replace) (hlt : 32 < r.v.prefixLen) :
    mutateRoutes view r dev =
      if r.v.table = 0 ∨ r.v.table = netTableLocal then .error .eperm
      else if r.v.action = 0 ∧ !linkReady view dev then .error .enetdown
      else if view.config.routes.length = netRouteMax then .error .enospc
      else .ok { view.config with routes := view.config.routes ++ [requestRoute r dev] } := by
  have hfind : (view.config.routes.findIdx fun p =>
      p.table == r.v.table && p.ip == r.v.ip && p.prefixLen == r.v.prefixLen) = view.config.routes.length := by
    rw [List.findIdx_eq_length]
    intro p hp
    rw [Bool.and_eq_false_iff]
    right
    apply beq_false_of_ne
    intro he
    exact BitVec.not_lt.mpr (hroutes p hp) (he ▸ hlt)
  rw [mutateRoutes, hfind]
  dsimp only
  rw [List.getElem?_eq_none (Nat.le_refl _), Option.any_none]
  rcases hverb with hverb | hverb <;> simp [hverb, requestRoute]

structure StrayPrefix (view : AdminView) (r : AdminRequest) : Prop where
  group : r.group = .route
  verb : r.verb = .add ∨ r.verb = .replace
  prefixLen : 32 < r.v.prefixLen
  action : r.v.action = 0
  gateway : r.v.gateway = 0
  space : view.config.routes.length < netRouteMax
  generation : view.config.generation ≠ 18446744073709551615
  peer : ∃ dev, namedDevice view r.dev = .ok (some dev) ∧ linkReady view (some dev) = true ∧
    ∃ p ∈ view.config.routes, p.gateway ≠ 0 ∧ p.table = r.v.table ∧ p.dev = BitVec.ofNat 32 dev

theorem NetConfigOk.route_table (h : NetConfigOk c ports) {p : NetRoute} (hp : p ∈ c.routes) :
    ¬ (p.table = 0 ∨ p.table = netTableLocal) := by
  obtain ⟨before, hb⟩ := validateEach_mem h.routes hp
  rw [validateRoute, if_error_eq_ok] at hb
  rintro (ht | ht)
  · exact hb.1 (.inr (.inl ht))
  · exact hb.1 (.inr (.inr (.inl ht)))

theorem StrayPrefix.adminMutateChecked (h : StrayPrefix view r) (hok : NetConfigOk view.config view.links.length) :
    adminMutateChecked view r = none := by
  obtain ⟨dev, hdev, hready, p, hp, hgateway, htable, hpdev⟩ := h.peer
  have hedit : editConfig view r =
      .ok { view.config with routes := view.config.routes ++ [requestRoute r (some dev)] } := by
    rw [editConfig, hdev, h.group]
    change mutateRoutes view r (some dev) = _
    rw [mutateRoutes_overlong (fun p => hok.route_prefixLen) h.verb h.prefixLen, if_neg (htable ▸ hok.route_table hp),
      if_neg (by rw [hready]; simp), if_neg (Nat.ne_of_lt h.space)]
  have hstray : Stray p (requestRoute r (some dev)) := by
    refine ⟨?_, h.prefixLen⟩
    simp [consults, requestRoute, htable, hpdev, h.action, h.gateway, netUnicastAction]
  rw [PulsarNetstack.adminMutateChecked, editConfigChecked_eq, hedit]
  change (if view.config.generation = 18446744073709551615 then _ else _) = _
  rw [if_neg h.generation]
  exact hstray.netConfigPrepareChecked hp hgateway hok h.space _

theorem editConfig_stray (hok : NetConfigOk view.config view.links.length) (hedit : editConfig view r = .ok c')
    (hgeneration : c'.generation ≠ 18446744073709551615) (h : ¬ StrayPrefix view r) :
    ∀ p ∈ c'.routes, p.prefixLen ≤ 32 → p.gateway ≠ 0 → ∀ q ∈ c'.routes, ¬ Stray p q := by
  have hroutes (p : NetRoute) : p ∈ view.config.routes → p.prefixLen ≤ 32 := hok.route_prefixLen
  have hbounded (hle : ∀ q ∈ c'.routes, q.prefixLen ≤ 32) :
      ∀ p ∈ c'.routes, p.prefixLen ≤ 32 → p.gateway ≠ 0 → ∀ q ∈ c'.routes, ¬ Stray p q :=
    fun _ _ _ _ q hq hs => BitVec.not_lt.mpr (hle q hq) hs.2
  have hsame := (editConfig_edit hedit).generation
  rw [editConfig, except_bind_eq_ok] at hedit
  obtain ⟨dev, hdev, hedit⟩ := hedit
  split at hedit
  · obtain ⟨addresses, hrebuild⟩ := mutateAddresses_rebuild hedit
    exact hbounded (netConnectedRebuild_prefixLen (c := { view.config with addresses := addresses }) hroutes hrebuild)
  · rename_i hgroup
    by_cases hlong : (r.verb = .add ∨ r.verb = .replace) ∧ 32 < r.v.prefixLen
    · obtain ⟨hverb, hlt⟩ := hlong
      rw [mutateRoutes_overlong hroutes hverb hlt, if_error_eq_ok, if_error_eq_ok, if_error_eq_ok] at hedit
      obtain ⟨-, hready, hspace, hc⟩ := hedit
      obtain rfl := Except.ok.inj hc
      intro p hp hple hgateway q hq hstray
      -- Both routes are known: an old one with a gateway, and the new one.
      have hq : q = requestRoute r dev := by
        rcases List.mem_append.mp hq with hold | hnew
        · exact absurd (hroutes q hold) (BitVec.not_le.mpr hstray.2)
        · exact List.mem_singleton.mp hnew
      have hpeer : p ∈ view.config.routes := by
        rcases List.mem_append.mp hp with hold | hnew
        · exact hold
        · rw [List.mem_singleton.mp hnew] at hple
          exact absurd hple (BitVec.not_le.mpr hlt)
      obtain ⟨hconsults, -⟩ := hstray
      rw [hq] at hconsults
      simp only [consults, requestRoute, Bool.and_eq_true, beq_iff_eq] at hconsults
      obtain ⟨⟨⟨htable, hpdev⟩, haction⟩, hdirect⟩ := hconsults
      have hready : linkReady view dev = true := by
        by_contra hn
        exact hready ⟨haction, by rw [eq_false_of_ne_true hn]; rfl⟩
      cases dev with
      | none => cases hready
      | some dev =>
        exact h ⟨hgroup, hverb, hlt, haction, hdirect, lt_of_le_of_ne hok.routes_length hspace, hsame ▸ hgeneration,
          dev, hdev, hready, p, hpeer, hgateway, htable.symm, hpdev.symm⟩
    · apply hbounded
      exact mutateRoutes_prefixLen hroutes (fun hverb => BitVec.not_lt.mp fun hlt => hlong ⟨hverb, hlt⟩) hedit
  · obtain ⟨rules, rfl⟩ := mutateRules_eq_ok hedit
    exact hbounded hroutes
  · obtain ⟨acls, defaultDrop, rfl⟩ := mutateAcls_eq_ok hedit
    exact hbounded hroutes
  · cases hedit

theorem adminMutateChecked_iff (hok : NetConfigOk view.config view.links.length) :
    adminMutateChecked view r = some (adminMutate view r) ↔ ¬ StrayPrefix view r := by
  constructor
  · intro h hstray
    rw [hstray.adminMutateChecked hok] at h
    cases h
  · intro h
    rw [adminMutateChecked, editConfigChecked_eq]
    apply thenChecked_some
    intro c' hedit
    rw [apply_ite some]
    split_ifs with hgeneration
    · rfl
    · have hroutes := editConfig_stray hok hedit hgeneration h
      exact netConfigPrepareChecked_eq hroutes

end Requests

/-- `admin_mutate` computes every mask of a request within 32 bits, unless the request names a stray prefix. -/
theorem prefix_shifts_defined {rt : Routing} {c : NetConfig} {links : List AdminLink} {b : List Byte} {w : AdminWireRequest}
    (hpublished : Published rt c) (hlinks : links.length = rt.ports.length) (hdecode : adminRequestDecode b = .ok w) :
    ∃ r, w.request = some r ∧
      (adminMutateChecked ⟨c, links⟩ r ≠ none ↔ ¬ StrayPrefix ⟨c, links⟩ r) ∧
      ∀ result, adminMutateChecked ⟨c, links⟩ r = some result → result = adminMutate ⟨c, links⟩ r := by
  obtain ⟨r, hr⟩ := adminRequestDecode_request hdecode
  have hok : NetConfigOk c links.length := by
    rw [hlinks]
    exact netConfigValidate_eq_ok.mp hpublished.snapshotOk.valid
  have hiff : adminMutateChecked ⟨c, links⟩ r = some (adminMutate ⟨c, links⟩ r) ↔ ¬ StrayPrefix ⟨c, links⟩ r :=
    adminMutateChecked_iff hok
  have hnone (hstray : StrayPrefix ⟨c, links⟩ r) : adminMutateChecked ⟨c, links⟩ r = none :=
    hstray.adminMutateChecked hok
  refine ⟨r, hr, ⟨fun h hstray => h (hnone hstray), fun h => ?_⟩, ?_⟩
  · rw [hiff.mpr h]
    exact Option.some_ne_none _
  · intro result hresult
    by_cases hstray : StrayPrefix ⟨c, links⟩ r
    · rw [hnone hstray] at hresult
      cases hresult
    · rw [hiff.mpr hstray] at hresult
      exact (Option.some.inj hresult).symm

def tapName : Vector Byte 64 := ⟨#[116, 97, 112, 48] ++ Array.replicate 60 0, by rfl⟩

def tapLinks : List AdminLink := [{ name := "tap0", started := true, adminDown := false }]

def routeRequest (prefixLen : Word) : AdminWireRequest where
  group := 5
  verb := 2
  flags := 0
  v := { table := netTableMain, ip := htonl 0x0a000000, prefixLen := prefixLen }
  dev := tapName
  acls := []

theorem routeRequest_decodes {prefixLen : Word}
    (h : (adminRequestDecode (adminRequestEncode (routeRequest prefixLen))).toBool = true) :
    adminRequestDecode (adminRequestEncode (routeRequest prefixLen)) = .ok (routeRequest prefixLen) := by
  cases hdecode : adminRequestDecode (adminRequestEncode (routeRequest prefixLen)) with
  | error e => rw [hdecode] at h; cases h
  | ok w => rw [adminRequestDecode_adminRequestEncode (Nat.zero_le _) hdecode]

theorem overlong_route_strays : Published gatewayStart gatewaySnapshot ∧ tapLinks.length = gatewayStart.ports.length ∧
    adminRequestDecode (adminRequestEncode (routeRequest 40)) = .ok (routeRequest 40) ∧
    ((routeRequest 40).request.map fun r => adminMutateChecked ⟨gatewaySnapshot, tapLinks⟩ r) = some none := by
  have hinit : netConfigInit gatewayStart = .ok gatewaySnapshot := by decide
  exact ⟨.init hinit, rfl, routeRequest_decodes (by decide +kernel), by decide +kernel⟩

theorem prefix_shifts_defined_routeRequest : Published gatewayStart gatewaySnapshot ∧
    ∃ r, (routeRequest 24).request = some r ∧ adminMutateChecked ⟨gatewaySnapshot, tapLinks⟩ r ≠ none := by
  have hinit : netConfigInit gatewayStart = .ok gatewaySnapshot := by decide
  have hdecode : adminRequestDecode (adminRequestEncode (routeRequest 24)) = .ok (routeRequest 24) :=
    routeRequest_decodes (by decide +kernel)
  obtain ⟨r, hr, hiff, -⟩ := prefix_shifts_defined (.init hinit) (rfl : tapLinks.length = gatewayStart.ports.length)
    hdecode
  refine ⟨.init hinit, r, hr, hiff.mpr ?_⟩
  intro hstray
  obtain rfl := Option.some.inj hr
  exact absurd hstray.prefixLen (by decide)

end PulsarNetstack
