import PulsarNetstack.Neighbour

namespace PulsarNetstack

open LinearProbing

structure Binding where
  mac : Mac
  permanent : Bool
  deriving DecidableEq, Repr

/-- What the neighbour table is for: a finite map from device and address to a link-layer address. -/
abbrev NeighbourMap := NeighbourKey → Option Binding

namespace NeighbourMap

variable (m : NeighbourMap)

noncomputable def size : ℕ := {k | m k ≠ none}.ncard

open Classical in
noncomputable def learn (dev : Word16) (ip : Word) (mac : Mac) : NeighbourMap × Except Errno Unit :=
  if ip = 0 ∨ !validAssignedEtherAddr mac then (m, .error .einval)
  else
    match m (dev, ip) with
    | some b => (if b.permanent then m else Function.update m (dev, ip) (some ⟨mac, false⟩), .ok ())
    | none =>
      if m.size = neighbourCapacity then (m, .error .enospc)
      else (Function.update m (dev, ip) (some ⟨mac, false⟩), .ok ())

open Classical in
noncomputable def set (rt : Routing) (dev : Word16) (ip : Word) (mac : Mac) (replace : Bool) :
    NeighbourMap × Except Errno Unit :=
  if (netifById rt dev.toNat).isNone ∨ !ipv4DestinationValid rt ip ∨ !validAssignedEtherAddr mac then
    (m, .error .einval)
  else
    match m (dev, ip) with
    | some _ => if replace then (Function.update m (dev, ip) (some ⟨mac, true⟩), .ok ()) else (m, .error .eexist)
    | none =>
      if m.size = neighbourCapacity then (m, .error .enospc)
      else (Function.update m (dev, ip) (some ⟨mac, true⟩), .ok ())

def delete (dev : Word16) (ip : Word) : NeighbourMap × Except Errno Unit :=
  if (m (dev, ip)).isSome then (Function.update m (dev, ip) none, .ok ()) else (m, .error .enoent)

def flush (dev : Word16) : NeighbourMap × Except Errno Unit := (fun k => if k.1 = dev then none else m k, .ok ())

noncomputable def step : NeighbourOp → NeighbourMap × Except Errno Unit
  | .learn dev ip mac => m.learn dev ip mac
  | .set rt dev ip mac replace => m.set rt dev ip mac replace
  | .delete dev ip => m.delete dev ip
  | .flush dev => m.flush dev

noncomputable def run : NeighbourMap → List NeighbourOp → NeighbourMap × List (Except Errno Unit)
  | m, [] => (m, [])
  | m, op :: ops =>
    let r := run (m.step op).1 ops
    (r.1, (m.step op).2 :: r.2)

end NeighbourMap

def NeighbourEntry.binding (e : NeighbourEntry) : Binding := ⟨e.mac, e.permanent⟩

def neighbourMap (t : NeighbourTable) : NeighbourMap := fun k => (neighbourScheme.lookup t k).map NeighbourEntry.binding

abbrev NeighbourOk (t : NeighbourTable) : Prop := neighbourScheme.WellFormed t

variable {t : NeighbourTable} {dev : Word16} {ip : Word} {mac : Mac} {rt : Routing}

theorem emptyNeighbours_ok : NeighbourOk emptyNeighbours :=
  ⟨0, fun _ _ h => absurd h (by simp [neighbourScheme, emptyNeighbours]),
    fun _ h => absurd h (by simp [neighbourScheme, emptyNeighbours]),
    fun _ h => absurd h (by simp [neighbourScheme, emptyNeighbours])⟩

theorem neighbourMap_empty : neighbourMap emptyNeighbours = fun _ => none := by
  obtain ⟨r, h⟩ := emptyNeighbours_ok
  funext k
  have hn : neighbourScheme.lookup emptyNeighbours k = none := by
    rw [h.lookup_eq_none_iff, Scheme.mem_keys]
    rintro ⟨j, hu, -⟩
    exact absurd hu (by simp [neighbourScheme, emptyNeighbours])
  rw [neighbourMap, hn]
  rfl

theorem neighbourMap_eq_none_iff (k : NeighbourKey) : neighbourMap t k = none ↔ neighbourScheme.lookup t k = none := by
  simp [neighbourMap]

theorem neighbourMap_size (h : NeighbourOk t) : (neighbourMap t).size = (neighbourScheme.keys t).card := by
  obtain ⟨r, h⟩ := h
  rw [NeighbourMap.size, ← Set.ncard_coe_finset]
  congr 1
  ext k
  rw [Set.mem_ofPred_eq, Ne, neighbourMap_eq_none_iff, h.lookup_eq_none_iff, not_not]
  rfl

inductive Slot (t : NeighbourTable) (dev : Word16) (ip : Word) : Option (Fin neighbourCapacity) → Prop
  | full (hk : neighbourMap t (dev, ip) = none) (hs : (neighbourMap t).size = neighbourCapacity) : Slot t dev ip none
  | free (j : Fin neighbourCapacity) (hu : (t j).inUse = false) (hk : neighbourMap t (dev, ip) = none)
      (hs : (neighbourMap t).size ≠ neighbourCapacity) : Slot t dev ip (some j)
  | found (j : Fin neighbourCapacity) (hu : (t j).inUse = true) (hd : (t j).netifId = dev) (hi : (t j).ip = ip)
      (hk : neighbourMap t (dev, ip) = some (t j).binding) : Slot t dev ip (some j)

theorem findSlot_cases (h : NeighbourOk t) (dev : Word16) (ip : Word) : Slot t dev ip (findSlot t dev ip) := by
  have hsize := neighbourMap_size h
  obtain ⟨r, h⟩ := h
  have hnone := h.probe_eq_none_iff (k := (dev, ip))
  rw [← neighbourMap_eq_none_iff, ← hsize] at hnone
  generalize hp : findSlot t dev ip = p
  unfold findSlot at hp
  cases p with
  | none => exact .full (hnone.mp hp).1 (hnone.mp hp).2
  | some j =>
    by_cases hu : (t j).inUse = true
    · have hkey : neighbourScheme.key (t j) = (dev, ip) := (Scheme.probe_some hp).1.resolve_left (by simp [neighbourScheme, hu])
      obtain ⟨hd, hi⟩ := Prod.mk.inj hkey
      refine .found j hu hd hi ?_
      rw [neighbourMap, h.lookup_eq_some_iff.mpr ⟨j, rfl, hu, hkey⟩]
      rfl
    · have hu : (t j).inUse = false := by simpa using hu
      have hk : neighbourMap t (dev, ip) = none := by
        rw [neighbourMap_eq_none_iff, h.lookup_eq_none_iff, Scheme.mem_keys]
        rintro ⟨i, hi, hkey⟩
        exact h.absent_of_probe hp hu i hi hkey
      refine .free j hu hk fun hs => ?_
      rw [hnone.mpr ⟨hk, hs⟩] at hp
      exact absurd hp (by simp)

theorem write_slot (h : NeighbourOk t) {j : Fin neighbourCapacity} (hp : findSlot t dev ip = some j) {e : NeighbourEntry}
    (he : e.inUse = true) (hd : e.netifId = dev) (hi : e.ip = ip) :
    NeighbourOk (Function.update t j e) ∧
      neighbourMap (Function.update t j e) = Function.update (neighbourMap t) (dev, ip) (some e.binding) := by
  have hslot := hp ▸ findSlot_cases h dev ip
  obtain ⟨r, h⟩ := h
  have hkey : neighbourScheme.key e = (dev, ip) := Prod.ext hd hi
  have hold : neighbourScheme.used (t j) = true → neighbourScheme.key (t j) = (dev, ip) := by
    intro hu
    exact (Scheme.probe_some hp).1.resolve_left (by simp [hu])
  obtain ⟨r', h'⟩ : ∃ r', neighbourScheme.Ordered (Function.update t j e) r' := by
    by_cases hu : (t j).inUse = true
    · exact ⟨r, h.replace hu he (hkey.trans (hold hu).symm)⟩
    · exact ⟨j + 1, h.insert hp (Bool.eq_false_of_not_eq_true hu) hkey⟩
  refine ⟨⟨r', h'⟩, ?_⟩
  funext k
  rw [neighbourMap, h.lookup_update h' hold he hkey]
  by_cases hk : k = (dev, ip)
  · simp [hk]
  · simp [hk, neighbourMap]

theorem neighbourLearn_refines (h : NeighbourOk t) (dev : Word16) (ip : Word) (mac : Mac) :
    NeighbourOk (neighbourLearn t dev ip mac).1 ∧ neighbourMap (neighbourLearn t dev ip mac).1 =
      ((neighbourMap t).learn dev ip mac).1 ∧ (neighbourLearn t dev ip mac).2 = ((neighbourMap t).learn dev ip mac).2 := by
  unfold neighbourLearn NeighbourMap.learn
  by_cases hv : ip = 0 ∨ (!validAssignedEtherAddr mac) = true
  · rw [if_pos hv, if_pos hv]
    exact ⟨h, rfl, rfl⟩
  rw [if_neg hv, if_neg hv]
  generalize hp : findSlot t dev ip = p
  cases hp ▸ findSlot_cases h dev ip with
  | full hk hs =>
    simp only [hk, if_pos hs]
    exact ⟨h, trivial, trivial⟩
  | free j hu hk hs =>
    obtain ⟨hok, hmap⟩ := write_slot h hp (e := { ip := ip, netifId := dev, mac := mac, inUse := true }) rfl rfl rfl
    simp only [hu, hk, if_neg hs, Bool.not_false, ↓reduceIte]
    exact ⟨hok, hmap, trivial⟩
  | found j hu hd hi hk =>
    by_cases hperm : (t j).permanent = true
    · simp only [hu, hk, hperm, NeighbourEntry.binding, Bool.not_true, Bool.false_eq_true, ↓reduceIte]
      exact ⟨h, trivial, trivial⟩
    · obtain ⟨hok, hmap⟩ := write_slot h hp (e := { t j with mac := mac }) hu hd hi
      have hperm : (t j).permanent = false := by simpa using hperm
      rw [hk]
      simp only [hu, hperm, NeighbourEntry.binding, Bool.not_true, Bool.not_false, Bool.false_eq_true, ↓reduceIte] at hok hmap ⊢
      exact ⟨hok, hmap, trivial⟩

theorem neighbourSet_refines (h : NeighbourOk t) (rt : Routing) (dev : Word16) (ip : Word) (mac : Mac) (replace : Bool) :
    NeighbourOk (neighbourSet rt t dev ip mac replace).1 ∧ neighbourMap (neighbourSet rt t dev ip mac replace).1 =
      ((neighbourMap t).set rt dev ip mac replace).1 ∧
      (neighbourSet rt t dev ip mac replace).2 = ((neighbourMap t).set rt dev ip mac replace).2 := by
  unfold neighbourSet NeighbourMap.set
  by_cases hv : (netifById rt dev.toNat).isNone = true ∨ (!ipv4DestinationValid rt ip) = true ∨
      (!validAssignedEtherAddr mac) = true
  · rw [if_pos hv, if_pos hv]
    exact ⟨h, rfl, rfl⟩
  rw [if_neg hv, if_neg hv]
  obtain ⟨-, hdst, hmac⟩ : _ ∧ ¬ _ ∧ ¬ _ := by simpa only [not_or] using hv
  have hip : ip ≠ 0 := ipv4DestinationValid_ne_zero rt (by simpa using hdst)
  -- The entry is permanent by then, so that `neighbour_update` leaves it alone.
  have hwrite {j : Fin neighbourCapacity} (hp : findSlot t dev ip = some j) (t' : NeighbourTable)
      (ht' : t' = Function.update t j { ip := ip, netifId := dev, mac := mac, inUse := true, permanent := true }) :
      NeighbourOk (neighbourLearn t' dev ip mac).1 ∧ neighbourMap (neighbourLearn t' dev ip mac).1 =
        Function.update (neighbourMap t) (dev, ip) (some ⟨mac, true⟩) ∧ (neighbourLearn t' dev ip mac).2 = .ok () := by
    obtain ⟨hok, hmap⟩ := write_slot h hp
      (e := { ip := ip, netifId := dev, mac := mac, inUse := true, permanent := true }) rfl rfl rfl
    rw [← ht'] at hok hmap
    obtain ⟨hok', hmap', hres⟩ := neighbourLearn_refines hok dev ip mac
    have hlearn : (neighbourMap t').learn dev ip mac = (neighbourMap t', .ok ()) := by
      rw [NeighbourMap.learn, if_neg (not_or.mpr ⟨hip, hmac⟩), hmap]
      simp [NeighbourEntry.binding]
    rw [hlearn] at hmap' hres
    exact ⟨hok', hmap'.trans hmap, hres⟩
  generalize hp : findSlot t dev ip = p at hwrite
  cases hp ▸ findSlot_cases h dev ip with
  | full hk hs =>
    simp only [hk, if_pos hs]
    exact ⟨h, trivial, trivial⟩
  | free j hu hk hs =>
    simp only [hu, hk, if_neg hs, Bool.false_and, Bool.false_eq_true, ↓reduceIte]
    exact hwrite rfl _ rfl
  | found j hu hd hi hk =>
    cases replace with
    | false =>
      simp only [hu, hk, Bool.not_false, Bool.and_self, Bool.false_eq_true, ↓reduceIte]
      exact ⟨h, trivial, trivial⟩
    | true =>
      simp only [hk, Bool.not_true, Bool.and_false, Bool.false_eq_true, ↓reduceIte]
      exact hwrite rfl _ rfl

theorem erase_slot (h : NeighbourOk t) {j : Fin neighbourCapacity} (hu : (t j).inUse = true) :
    NeighbourOk (neighbourScheme.erase t j) ∧ neighbourMap (neighbourScheme.erase t j) =
      Function.update (neighbourMap t) ((t j).netifId, (t j).ip) none := by
  obtain ⟨r, h⟩ := h
  refine ⟨⟨r, (h.erase_spec j).1⟩, ?_⟩
  funext k
  rw [neighbourMap, h.lookup_erase hu]
  by_cases hk : k = ((t j).netifId, (t j).ip)
  · simp [hk, neighbourScheme]
  · have hk' : k ≠ neighbourScheme.key (t j) := hk
    rw [Function.update_of_ne hk, Function.update_of_ne hk', neighbourMap]

theorem neighbourDelete_refines (h : NeighbourOk t) (dev : Word16) (ip : Word) :
    NeighbourOk (neighbourDelete t dev ip).1 ∧ neighbourMap (neighbourDelete t dev ip).1 =
      ((neighbourMap t).delete dev ip).1 ∧ (neighbourDelete t dev ip).2 = ((neighbourMap t).delete dev ip).2 := by
  unfold neighbourDelete NeighbourMap.delete
  generalize hp : findSlot t dev ip = p
  cases hp ▸ findSlot_cases h dev ip with
  | full hk hs => simp [hk, h]
  | free j hu hk hs => simp [hk, hu, h]
  | found j hu hd hi hk =>
    obtain ⟨hok, hmap⟩ := erase_slot h hu
    subst hd hi
    simp [hk, hu, hok, hmap]

def FlushedBelow (t : NeighbourTable) (dev : Word16) (i : ℕ) : Prop :=
  ∀ q : Fin neighbourCapacity, q.val < i → (t q).inUse = true → (t q).netifId ≠ dev

theorem flushLoop_spec (dev : Word16) {fuel : ℕ} (h : NeighbourOk t) {i : ℕ} (hi : i ≤ neighbourCapacity)
    (hbelow : FlushedBelow t dev i) (hfuel : (neighbourScheme.keys t).card + (neighbourCapacity - i) < fuel) :
    ∃ t', flushLoop dev fuel t i = some (t', .ok ()) ∧ NeighbourOk t' ∧
      neighbourMap t' = ((neighbourMap t).flush dev).1 := by
  induction fuel generalizing t i with
  | zero => omega
  | succ fuel ih =>
    rw [flushLoop]
    split
    · rename_i hlt
      split
      · rename_i hmine
        obtain ⟨hu, hd⟩ : (t ⟨i, hlt⟩).inUse = true ∧ (t ⟨i, hlt⟩).netifId = dev := by simpa using hmine
        obtain ⟨hok, hmap⟩ := erase_slot h hu
        obtain ⟨r, hr⟩ := h
        have hfind : findSlot t dev (t ⟨i, hlt⟩).ip = some ⟨i, hlt⟩ := hd ▸ hr.probe_of_used hu
        have hdel : neighbourDelete t dev (t ⟨i, hlt⟩).ip = (neighbourScheme.erase t ⟨i, hlt⟩, .ok ()) := by
          simp [neighbourDelete, hfind, hu]
        rw [hdel]
        have hbelow' : FlushedBelow (neighbourScheme.erase t ⟨i, hlt⟩) dev i := by
          intro q hq huq
          obtain ⟨q₀, -, heq, hdist⟩ := (hr.erase_spec ⟨i, hlt⟩).2.1 q huq
          rw [heq] at huq ⊢
          exact hbelow q₀ (Scheme.index_lt (j := ⟨i, hlt⟩) hq hdist) huq
        have hcard : (neighbourScheme.keys (neighbourScheme.erase t ⟨i, hlt⟩)).card + 1 =
            (neighbourScheme.keys t).card := by
          rw [hr.keys_erase hu]
          exact Finset.card_erase_add_one (Scheme.mem_keys.mpr ⟨_, hu, rfl⟩)
        obtain ⟨t', hrun, hok', hmap'⟩ := ih hok hi hbelow' (by omega)
        refine ⟨t', hrun, hok', ?_⟩
        rw [hmap', hmap]
        funext k
        by_cases hk : k.1 = dev
        · simp [NeighbourMap.flush, hk]
        · have hne : k ≠ ((t ⟨i, hlt⟩).netifId, (t ⟨i, hlt⟩).ip) := by
            rintro rfl
            exact hk hd
          simp [NeighbourMap.flush, hk, hne]
      · rename_i hother
        refine ih h hlt ?_ (by omega)
        intro q hq huq
        rcases Nat.lt_or_ge q.val i with hqi | hqi
        · exact hbelow q hqi huq
        · obtain rfl : q = ⟨i, hlt⟩ := Fin.ext (Nat.le_antisymm (Nat.lt_succ_iff.mp hq) hqi)
          simpa [huq] using hother
    · rename_i hge
      refine ⟨t, rfl, h, ?_⟩
      funext k
      by_cases hk : k.1 = dev
      · simp only [NeighbourMap.flush, hk, ↓reduceIte]
        obtain ⟨r, hr⟩ := h
        rw [neighbourMap_eq_none_iff, hr.lookup_eq_none_iff, Scheme.mem_keys]
        rintro ⟨q, hu, hkey⟩
        exact hbelow q (by omega) hu ((congrArg Prod.fst hkey).trans hk)
      · simp [NeighbourMap.flush, hk]

theorem neighbourFlush_refines (h : NeighbourOk t) (dev : Word16) : ∃ t', neighbourFlush t dev = some (t', .ok ()) ∧
    NeighbourOk t' ∧ neighbourMap t' = ((neighbourMap t).flush dev).1 := by
  have hcard : (neighbourScheme.keys t).card ≤ neighbourCapacity := by
    obtain ⟨r, hr⟩ := h
    rw [hr.card_keys]
    exact (Finset.card_le_univ _).trans (by rw [Fintype.card_fin])
  apply flushLoop_spec dev h (Nat.zero_le _)
  · intro q hq
    omega
  · unfold flushFuel
    omega

theorem neighbourStep_refines (h : NeighbourOk t) (op : NeighbourOp) : ∃ t', NeighbourOk t' ∧
    neighbourStep t op = some (t', ((neighbourMap t).step op).2) ∧ neighbourMap t' = ((neighbourMap t).step op).1 := by
  cases op with
  | learn dev ip mac =>
    obtain ⟨hok, hmap, hres⟩ := neighbourLearn_refines h dev ip mac
    exact ⟨_, hok, congrArg some (Prod.ext rfl hres), hmap⟩
  | set rt dev ip mac replace =>
    obtain ⟨hok, hmap, hres⟩ := neighbourSet_refines h rt dev ip mac replace
    exact ⟨_, hok, congrArg some (Prod.ext rfl hres), hmap⟩
  | delete dev ip =>
    obtain ⟨hok, hmap, hres⟩ := neighbourDelete_refines h dev ip
    exact ⟨_, hok, congrArg some (Prod.ext rfl hres), hmap⟩
  | flush dev =>
    obtain ⟨t', hrun, hok, hmap⟩ := neighbourFlush_refines h dev
    exact ⟨t', hok, hrun, hmap⟩

theorem neighbourRun_refines (h : NeighbourOk t) (ops : List NeighbourOp) : ∃ t', NeighbourOk t' ∧
    neighbourRun t ops = some (t', ((neighbourMap t).run ops).2) ∧ neighbourMap t' = ((neighbourMap t).run ops).1 := by
  induction ops generalizing t with
  | nil => exact ⟨t, h, rfl, rfl⟩
  | cons op ops ih =>
    obtain ⟨t₁, hok₁, hstep, hmap₁⟩ := neighbourStep_refines h op
    obtain ⟨t₂, hok₂, hrun, hmap₂⟩ := ih hok₁
    refine ⟨t₂, hok₂, ?_, ?_⟩
    · simp [neighbourRun, hstep, hrun, NeighbourMap.run, hmap₁]
    · rw [hmap₂, hmap₁]
      rfl

theorem lookupLoop_eq (t : NeighbourTable) (dev : Word16) (ip : Word) (slots : List (Fin neighbourCapacity)) :
    lookupLoop t dev ip slots = ((slots.find? fun j => !neighbourScheme.used (t j) ||
      decide (neighbourScheme.key (t j) = (dev, ip))).bind fun j =>
        if neighbourScheme.used (t j) then some (t j) else none).map NeighbourEntry.mac := by
  induction slots with
  | nil => rfl
  | cons j slots ih =>
    rw [lookupLoop]
    by_cases hu : (t j).inUse = true
    · by_cases hk : (t j).ip = ip ∧ (t j).netifId = dev
      · obtain ⟨rfl, rfl⟩ := hk
        simp [neighbourScheme, hu]
      · have hk' : ((t j).ip == ip && (t j).netifId == dev) = false := by simpa using hk
        have hpass : (!neighbourScheme.used (t j) || decide (neighbourScheme.key (t j) = (dev, ip))) = false := by
          simpa [neighbourScheme, hu] using fun hd hi => hk ⟨hi, hd⟩
        simp only [hk', ih, List.find?_cons, hpass, hu, Bool.not_true, Bool.false_eq_true, ↓reduceIte]
    · simp [neighbourScheme, hu]

theorem neighbourLookup_eq (t : NeighbourTable) (dev : Word16) (ip : Word) :
    neighbourLookup t dev ip = ((neighbourMap t (dev, ip)).map (Except.ok ∘ Binding.mac)).getD (.error .enoent) := by
  have hl : lookupLoop t dev ip (neighbourScheme.sequence (dev, ip)) =
      (neighbourScheme.lookup t (dev, ip)).map NeighbourEntry.mac := lookupLoop_eq t dev ip _
  rw [neighbourLookup, hl, neighbourMap]
  cases neighbourScheme.lookup t (dev, ip) <;> rfl

theorem neighbourLookup_update {j : Fin neighbourCapacity} (hp : findSlot t dev ip = some j) {e : NeighbourEntry}
    (he : e.inUse = true) (hd : e.netifId = dev) (hi : e.ip = ip) :
    neighbourLookup (Function.update t j e) dev ip = .ok e.mac := by
  have hprobe : neighbourScheme.probe (Function.update t j e) (dev, ip) = some j :=
    Scheme.probe_update hp (Prod.ext hd hi)
  have hlookup : neighbourScheme.lookup (Function.update t j e) (dev, ip) = some e := by
    rw [Scheme.lookup, hprobe, Option.bind_some, Function.update_self]
    exact if_pos he
  rw [neighbourLookup_eq, neighbourMap, hlookup]
  rfl

theorem neighbourLearn_learns {j : Fin neighbourCapacity} (hip : ip ≠ 0) (hmac : validAssignedEtherAddr mac = true)
    (hp : findSlot t dev ip = some j) : (neighbourLearn t dev ip mac).2 = .ok () ∧
      neighbourLookup (neighbourLearn t dev ip mac).1 dev ip =
        .ok (if (t j).inUse && (t j).permanent then (t j).mac else mac) := by
  have hkey : (t j).inUse = true → (t j).netifId = dev ∧ (t j).ip = ip := by
    intro hu
    have := (Scheme.probe_some hp).1.resolve_left (by simp [neighbourScheme, hu])
    exact Prod.mk.inj this
  have hvalid : ¬ (ip = 0 ∨ (!validAssignedEtherAddr mac) = true) := by
    rw [hmac]
    exact fun h => h.elim hip Bool.false_ne_true
  rw [neighbourLearn, if_neg hvalid, hp]
  dsimp only
  by_cases hu : (t j).inUse = true
  · obtain ⟨hd, hi⟩ := hkey hu
    by_cases hperm : (t j).permanent = true
    · simp only [hu, hperm, Bool.not_true, Bool.false_eq_true, if_false, Bool.and_self, if_true]
      refine ⟨trivial, ?_⟩
      have := neighbourLookup_update hp hu hd hi
      rwa [Function.update_eq_self] at this
    · simp only [hu, eq_false_of_ne_true hperm, Bool.not_true, Bool.not_false, Bool.false_eq_true, if_false, if_true,
        Bool.and_false]
      exact ⟨trivial, neighbourLookup_update hp rfl hd hi⟩
  · simp only [eq_false_of_ne_true hu, Bool.not_false, if_true, Bool.false_and, Bool.false_eq_true, if_false]
    exact ⟨trivial, neighbourLookup_update hp rfl rfl rfl⟩

theorem neighbourMap_eq_some_iff (h : NeighbourOk t) (b : Binding) : neighbourMap t (dev, ip) = some b ↔
    ∃ j, t j = { ip := ip, netifId := dev, mac := b.mac, inUse := true, permanent := b.permanent } := by
  obtain ⟨r, h⟩ := h
  simp only [neighbourMap, Option.map_eq_some_iff, h.lookup_eq_some_iff]
  constructor
  · rintro ⟨e, ⟨j, rfl, hu, hkey⟩, rfl⟩
    obtain ⟨rfl, rfl⟩ := Prod.mk.inj hkey
    refine ⟨j, ?_⟩
    change (t j).inUse = true at hu
    rw [← hu]
    rfl
  · rintro ⟨j, hj⟩
    exact ⟨t j, ⟨j, rfl, by rw [hj]; rfl, by rw [hj]; rfl⟩, by rw [hj]; rfl⟩

/-- Every sequence of operations on the table runs to its end with the results of the same operations on the map,
and then the table has exactly the entries of the map and `neighbour_lookup` finds them. -/
theorem neighbourTable_refines (ops : List NeighbourOp) :
    ∃ t, neighbourRun emptyNeighbours ops = some (t, (NeighbourMap.run (fun _ => none) ops).2) ∧
      (∀ dev ip, neighbourLookup t dev ip =
        (((NeighbourMap.run (fun _ => none) ops).1 (dev, ip)).map (Except.ok ∘ Binding.mac)).getD (.error .enoent)) ∧
      ∀ dev ip b, (NeighbourMap.run (fun _ => none) ops).1 (dev, ip) = some b ↔
        ∃ j, t j = { ip := ip, netifId := dev, mac := b.mac, inUse := true, permanent := b.permanent } := by
  obtain ⟨t, hok, hrun, hmap⟩ := neighbourRun_refines emptyNeighbours_ok ops
  rw [neighbourMap_empty] at hrun hmap
  refine ⟨t, hrun, fun dev ip => ?_, fun dev ip b => ?_⟩
  · rw [neighbourLookup_eq, hmap]
  · rw [← hmap, neighbourMap_eq_some_iff hok]

end PulsarNetstack
