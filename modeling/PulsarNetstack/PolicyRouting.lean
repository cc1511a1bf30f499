import Mathlib.Data.List.MinMax
import PulsarNetstack.NetConfigOk
import PulsarNetstack.Routing

namespace PulsarNetstack

variable {rt : Routing} {c c' : NetConfig} {ports : ℕ} {dst src iif table : Word} {routes : List NetRoute}

def Candidate (rt : Routing) (dst table : Word) (r : NetRoute) : Prop :=
  r.table = table ∧ netMatch dst r.ip r.prefixLen = true ∧
    (r.type ≠ 0 ∨ ∃ p, netifById rt r.dev.toNat = some p ∧ p.started = true ∧ p.adminDown = false)

instance (rt : Routing) (dst table : Word) : DecidablePred (Candidate rt dst table) := fun r =>
  decidable_of_iff (r.table = table ∧ netMatch dst r.ip r.prefixLen = true ∧ routeUsable rt r = true) <| by
    simp [Candidate, routeUsable, PortState.up, Option.any_eq_true]

theorem candidate_iff {r : NetRoute} : Candidate rt dst table r ↔
    r.table = table ∧ netMatch dst r.ip r.prefixLen = true ∧ routeUsable rt r = true := by
  simp [Candidate, routeUsable, PortState.up, Option.any_eq_true]

def bestRoute (rt : Routing) (routes : List NetRoute) (dst table : Word) : Option NetRoute :=
  (routes.filter fun r => decide (Candidate rt dst table r)).argmax fun r => r.prefixLen.toNat

inductive Stage
  | action (type pref : Word)
  | lookup (table pref : Word)

def ruleStage (r : NetRule) : Stage := if r.type ≠ 0 then .action r.type r.pref else .lookup r.table r.pref

def policyStages (c : NetConfig) (dst src iif : Word) : List Stage :=
  (c.rules.filter fun r => ruleMatches r dst src iif).map ruleStage ++
    [.lookup netTableMain 32766, .lookup netTableDefault 32767]

def policySearch (rt : Routing) (routes : List NetRoute) (dst src : Word) (out : RouteResult) :
    List Stage → DropReason × RouteResult
  | [] => (.noRoute, out)
  | .action type pref :: _ => (routeAction type, { rulePref := pref, type := type })
  | .lookup table pref :: stages =>
    match bestRoute rt routes dst table with
    | some r => routeOutcome rt dst src table pref r
    | none => policySearch rt routes dst src out stages

/-- The policy that route lookup stands for: a local address, then the validity of the destination, then the stages. -/
def policyReference (rt : Routing) (c : NetConfig) (dst src iif : Word) (out : RouteResult) : DropReason × RouteResult :=
  match localResult rt c dst with
  | some r => (.none, r)
  | none =>
    if ipv4DestinationValid rt dst then policySearch rt c.routes dst src out (policyStages c dst src iif)
    else (.invalidDestination, out)

theorem routeAction_ne_noRoute (type : Word) : routeAction type ≠ .noRoute := by
  unfold routeAction
  split_ifs <;> decide

theorem routeOutcome_ne_noRoute (pref : Word) (r : NetRoute) :
    (routeOutcome rt dst src table pref r).1 ≠ .noRoute := by
  unfold routeOutcome
  dsimp only
  by_cases ht : r.type ≠ 0
  · rw [if_pos ht]
    exact routeAction_ne_noRoute r.type
  · rw [if_neg ht]
    split
    · exact DropReason.noConfusion
    · split
      · exact DropReason.noConfusion
      · dsimp only
        split_ifs <;> exact DropReason.noConfusion

theorem tableLookup_of_best {pref : Word} {out : RouteResult} (hbest : tableBest rt c dst table = bestRoute rt routes dst table) :
    tableLookup rt c dst src table pref out =
      match bestRoute rt routes dst table with
      | some r => routeOutcome rt dst src table pref r
      | none => (.noRoute, out) := by
  rw [tableLookup, hbest]
  cases bestRoute rt routes dst table <;> rfl

theorem tableLookup_policySearch {pref : Word} {out : RouteResult} {stages : List Stage}
    {next : RouteResult → DropReason × RouteResult}
    (hbest : tableBest rt c dst table = bestRoute rt routes dst table)
    (hnext : next out = policySearch rt routes dst src out stages) :
    (if (tableLookup rt c dst src table pref out).1 ≠ .noRoute then tableLookup rt c dst src table pref out
      else next (tableLookup rt c dst src table pref out).2) =
      policySearch rt routes dst src out (.lookup table pref :: stages) := by
  rw [tableLookup_of_best hbest, policySearch]
  cases bestRoute rt routes dst table with
  | some r => exact if_pos (routeOutcome_ne_noRoute pref r)
  | none => exact hnext

theorem ruleLookup_eq_policySearch (hbest : ∀ table, tableBest rt c dst table = bestRoute rt routes dst table)
    (rules : List NetRule) (out : RouteResult) : ruleLookup rt c dst src iif rules out =
      policySearch rt routes dst src out ((rules.filter fun r => ruleMatches r dst src iif).map ruleStage ++
        [.lookup netTableMain 32766, .lookup netTableDefault 32767]) := by
  induction rules with
  | nil =>
    apply tableLookup_policySearch (hbest _)
    rw [tableLookup_of_best (hbest _), policySearch]
    rfl
  | cons r rules ih =>
    rw [ruleLookup]
    by_cases hm : ruleMatches r dst src iif = true
    · rw [List.filter_cons_of_pos (by exact hm), List.map_cons, List.cons_append, ruleStage, if_neg (by rw [hm]; decide)]
      by_cases ht : r.type ≠ 0
      · rw [if_pos ht, if_pos ht]
        rfl
      · rw [if_neg ht, if_neg ht]
        exact tableLookup_policySearch (hbest _) ih
    · rw [List.filter_cons_of_neg (by exact hm), if_pos (by rw [eq_false_of_ne_true hm]; rfl)]
      exact ih

theorem linearScan_eq_bestRoute : routes.foldl (linearStep rt dst table) none = bestRoute rt routes dst table := by
  rw [bestRoute, List.argmax, List.foldl_filter]
  congr 1
  funext best r
  unfold linearStep List.argAux
  by_cases hc : Candidate rt dst table r
  · obtain ⟨ht, hm, hu⟩ := candidate_iff.mp hc
    cases best with
    | none => simp [ht, hm, hu, hc]
    | some b =>
      simp only [ht, hm, hu, hc, ne_eq, not_true_eq_false, Bool.not_true, Bool.false_eq_true, Option.any_some,
        decide_eq_true_eq, false_or, ↓reduceIte, decide_true, BitVec.le_def]
      split_ifs with h1 h2 <;> first | rfl | omega
  · simp only [hc, decide_false, Bool.false_eq_true, ↓reduceIte]
    split_ifs with h1 h2
    · rfl
    · simp only [not_or, ne_eq, not_not, Bool.not_eq_true', Bool.not_eq_false] at h1
      exact absurd (candidate_iff.mpr ⟨h1.1, h1.2.1, h2⟩) hc
    · rfl

def BestAt (rt : Routing) (routes : List NetRoute) (dst table : Word) (k : ℕ) (r : NetRoute) : Prop :=
  routes[k]? = some r ∧ Candidate rt dst table r ∧ ∀ j r', routes[j]? = some r' → Candidate rt dst table r' →
    r'.prefixLen.toNat < r.prefixLen.toNat ∨ r'.prefixLen = r.prefixLen ∧ k ≤ j

theorem BestAt.unique {k k' : ℕ} {r r' : NetRoute} (h : BestAt rt routes dst table k r)
    (h' : BestAt rt routes dst table k' r') : r = r' := by
  have hk : k = k' := by
    rcases h.2.2 k' r' h'.1 h'.2.1 with hlt | ⟨he, hle⟩
    · rcases h'.2.2 k r h.1 h.2.1 with hlt' | ⟨he', -⟩
      · omega
      · rw [he'] at hlt
        omega
    · rcases h'.2.2 k r h.1 h.2.1 with hlt' | ⟨-, hle'⟩
      · rw [he] at hlt'
        omega
      · omega
  subst hk
  exact Option.some.inj (h.1.symm.trans h'.1)

theorem bestRoute_eq_none_iff : bestRoute rt routes dst table = none ↔ ∀ r ∈ routes, ¬ Candidate rt dst table r := by
  rw [bestRoute, List.argmax_eq_none, List.filter_eq_nil_iff]
  simp

theorem bestRoute_concat_of_candidate {last : NetRoute} (hc : Candidate rt dst table last) :
    bestRoute rt (routes ++ [last]) dst table =
      match bestRoute rt routes dst table with
      | none => some last
      | some b => if b.prefixLen.toNat < last.prefixLen.toNat then some last else some b := by
  rw [bestRoute, List.filter_append, List.filter_singleton, decide_eq_true hc, cond_true, List.argmax_concat, ← bestRoute]
  cases bestRoute rt routes dst table <;> rfl

theorem bestRoute_concat_of_not {last : NetRoute} (hc : ¬ Candidate rt dst table last) :
    bestRoute rt (routes ++ [last]) dst table = bestRoute rt routes dst table := by
  rw [bestRoute, List.filter_append, List.filter_singleton, decide_eq_false hc, cond_false, List.append_nil, bestRoute]

theorem bestRoute_bestAt {r : NetRoute} (h : bestRoute rt routes dst table = some r) :
    ∃ k, BestAt rt routes dst table k r := by
  -- The last route replaces the best one before it only with a longer prefix.
  induction routes using List.reverseRecOn generalizing r with
  | nil => simp [bestRoute] at h
  | append_singleton routes last ih =>
    have hold {j : ℕ} {r' : NetRoute} (hj : (routes ++ [last])[j]? = some r') :
        routes[j]? = some r' ∨ j = routes.length ∧ r' = last := by
      rcases lt_trichotomy j routes.length with hlt | rfl | hgt
      · exact .inl (by rwa [List.getElem?_append_left hlt] at hj)
      · exact .inr ⟨rfl, by simpa using hj.symm⟩
      · rw [List.getElem?_eq_none (by simp; omega)] at hj
        cases hj
    by_cases hc : Candidate rt dst table last
    · rw [bestRoute_concat_of_candidate hc] at h
      cases hb : bestRoute rt routes dst table with
      | none =>
        rw [hb] at h
        obtain rfl := Option.some.inj h
        refine ⟨routes.length, by simp, hc, fun j r' hj hr' => ?_⟩
        rcases hold hj with hj | ⟨rfl, rfl⟩
        · exact absurd hr' (bestRoute_eq_none_iff.mp hb r' (List.mem_of_getElem? hj))
        · exact .inr ⟨rfl, le_refl _⟩
      | some b =>
        obtain ⟨k, hk, hcb, hmax⟩ := ih hb
        have hkl : k < routes.length := (List.getElem?_eq_some_iff.mp hk).1
        rw [hb] at h
        dsimp only at h
        split at h
        · rename_i hlt
          obtain rfl := Option.some.inj h
          refine ⟨routes.length, by simp, hc, fun j r' hj hr' => ?_⟩
          rcases hold hj with hj | ⟨rfl, rfl⟩
          · rcases hmax j r' hj hr' with hs | ⟨he, -⟩
            · exact .inl (by omega)
            · exact .inl (by rwa [he])
          · exact .inr ⟨rfl, le_refl _⟩
        · rename_i hge
          obtain rfl := Option.some.inj h
          refine ⟨k, by rwa [List.getElem?_append_left hkl], hcb, fun j r' hj hr' => ?_⟩
          rcases hold hj with hj | ⟨rfl, rfl⟩
          · exact hmax j r' hj hr'
          · by_cases he : r'.prefixLen = b.prefixLen
            · exact .inr ⟨he, by omega⟩
            · exact .inl (by have := BitVec.toNat_inj.not.mpr he; omega)
    · rw [bestRoute_concat_of_not hc] at h
      obtain ⟨k, hk, hcb, hmax⟩ := ih h
      have hkl : k < routes.length := (List.getElem?_eq_some_iff.mp hk).1
      refine ⟨k, by rwa [List.getElem?_append_left hkl], hcb, fun j r' hj hr' => ?_⟩
      rcases hold hj with hj | ⟨-, rfl⟩
      · exact hmax j r' hj hr'
      · exact absurd hr' hc

theorem BestAt.bestRoute_eq {k : ℕ} {r : NetRoute} (h : BestAt rt routes dst table k r) :
    bestRoute rt routes dst table = some r := by
  cases hb : bestRoute rt routes dst table with
  | none => exact absurd h.2.1 (bestRoute_eq_none_iff.mp hb r (List.mem_of_getElem? h.1))
  | some b =>
    obtain ⟨k', hk'⟩ := bestRoute_bestAt hb
    rw [hk'.unique h]

theorem BestAt.append_comm {A B : List NetRoute} {k : ℕ} {r : NetRoute} (h : BestAt rt (A ++ B) dst table k r)
    (hdiffer : ∀ a ∈ A, ∀ b ∈ B, Candidate rt dst table a → Candidate rt dst table b → a.prefixLen ≠ b.prefixLen) :
    ∃ k', BestAt rt (B ++ A) dst table k' r := by
  obtain ⟨hk, hc, hmax⟩ := h
  have hA {j : ℕ} {r' : NetRoute} (hj : A[j]? = some r') : (A ++ B)[j]? = some r' := by
    rw [List.getElem?_append_left (List.getElem?_eq_some_iff.mp hj).1, hj]
  have hB {j : ℕ} {r' : NetRoute} (hj : B[j]? = some r') : (A ++ B)[A.length + j]? = some r' := by
    rw [List.getElem?_append_right (Nat.le_add_right _ _), Nat.add_sub_cancel_left, hj]
  have hsplit {j : ℕ} {r' : NetRoute} (hj : (B ++ A)[j]? = some r') :
      B[j]? = some r' ∨ ∃ i, j = B.length + i ∧ A[i]? = some r' := by
    by_cases hlt : j < B.length
    · rw [List.getElem?_append_left hlt] at hj
      exact .inl hj
    · rw [List.getElem?_append_right (by omega)] at hj
      exact .inr ⟨j - B.length, by omega, hj⟩
  by_cases hlt : k < A.length
  · rw [List.getElem?_append_left hlt] at hk
    refine ⟨B.length + k, ?_, hc, fun j r' hj hc' => ?_⟩
    · rw [List.getElem?_append_right (Nat.le_add_right _ _), Nat.add_sub_cancel_left, hk]
    · rcases hsplit hj with hj | ⟨i, rfl, hi⟩
      · refine .inl ((hmax _ r' (hB hj) hc').resolve_right fun he => ?_)
        exact hdiffer r (List.mem_of_getElem? hk) r' (List.mem_of_getElem? hj) hc hc' he.1.symm
      · exact (hmax i r' (hA hi) hc').imp_right fun he => ⟨he.1, Nat.add_le_add_left he.2 _⟩
  · rw [List.getElem?_append_right (by omega)] at hk
    refine ⟨k - A.length, ?_, hc, fun j r' hj hc' => ?_⟩
    · rw [List.getElem?_append_left (List.getElem?_eq_some_iff.mp hk).1, hk]
    · rcases hsplit hj with hj | ⟨i, rfl, hi⟩
      · exact (hmax _ r' (hB hj) hc').imp_right fun he => ⟨he.1, by omega⟩
      · refine .inl ((hmax i r' (hA hi) hc').resolve_right fun he => ?_)
        exact hdiffer r' (List.mem_of_getElem? hi) r (List.mem_of_getElem? hk) hc' hc he.1

theorem bestRoute_append_comm {A B : List NetRoute}
    (hdiffer : ∀ a ∈ A, ∀ b ∈ B, Candidate rt dst table a → Candidate rt dst table b → a.prefixLen ≠ b.prefixLen) :
    bestRoute rt (A ++ B) dst table = bestRoute rt (B ++ A) dst table := by
  cases hb : bestRoute rt (A ++ B) dst table with
  | none =>
    rw [bestRoute_eq_none_iff] at hb
    refine (bestRoute_eq_none_iff.mpr fun r hr => hb r ?_).symm
    exact List.mem_append.mpr (List.mem_append.mp hr).symm
  | some r =>
    obtain ⟨k, hk⟩ := bestRoute_bestAt hb
    obtain ⟨k', hk'⟩ := hk.append_comm hdiffer
    exact hk'.bestRoute_eq.symm

theorem routeOrder_iff {a b : NetRouteIndex} : routeOrder a b = true ↔ a.table.toNat < b.table.toNat ∨
    a.table.toNat = b.table.toNat ∧ (b.prefixLen < a.prefixLen ∨ a.prefixLen = b.prefixLen ∧ a.route ≤ b.route) := by
  unfold routeOrder
  rw [BitVec.toNat_inj]
  split_ifs with ht hp
  · simp [BitVec.lt_def, ht]
  · simp only [decide_eq_true_eq, not_not.mp ht, lt_irrefl, true_and, false_or]
    omega
  · simp only [decide_eq_true_eq, not_not.mp ht, not_not.mp hp, lt_irrefl, true_and, false_or]

theorem buildRouteIndex_sorted (routes : List NetRoute) :
    (buildRouteIndex routes).Pairwise fun a b => routeOrder a b = true := by
  apply List.pairwise_mergeSort
  · intro a b d hab hbd
    rw [routeOrder_iff] at *
    omega
  · intro a b
    rw [Bool.or_eq_true, routeOrder_iff, routeOrder_iff]
    omega

theorem buildRouteIndex_length (routes : List NetRoute) : (buildRouteIndex routes).length = routes.length := by
  simp [buildRouteIndex, routeIndexEntries]

theorem mem_buildRouteIndex {e : NetRouteIndex} :
    e ∈ buildRouteIndex routes ↔ ∃ i r, routes[i]? = some r ∧ e = routeIndexEntry r i := by
  rw [buildRouteIndex, List.mem_mergeSort, routeIndexEntries, List.mem_map]
  constructor
  · rintro ⟨⟨r, i⟩, hm, rfl⟩
    exact ⟨i, r, List.mem_zipIdx_iff_getElem?.mp hm, rfl⟩
  · rintro ⟨i, r, hi, rfl⟩
    exact ⟨(r, i), List.mem_zipIdx_iff_getElem?.mpr hi, rfl⟩

structure Indexable (routes : List NetRoute) : Prop where
  length : routes.length ≤ 65536
  prefixLen : ∀ r ∈ routes, r.prefixLen.toNat < 256

theorem NetConfigOk.route_prefixLen (h : NetConfigOk c ports) {r : NetRoute} (hr : r ∈ c.routes) : r.prefixLen ≤ 32 := by
  obtain ⟨before, hb⟩ := validateEach_mem h.routes hr
  rw [validateRoute, if_error_eq_ok] at hb
  apply netPrefixValid_le
  by_contra hn
  exact hb.1 (.inl (by rw [eq_false_of_ne_true hn]; rfl))

theorem NetConfigOk.indexable (h : NetConfigOk c ports) : Indexable c.routes where
  length := le_trans h.routes_length (by decide)
  prefixLen := by
    intro r hr
    exact lt_of_le_of_lt (BitVec.le_def.mp (h.route_prefixLen hr)) (by decide)

def Points (rt : Routing) (routes : List NetRoute) (dst table : Word) (e : NetRouteIndex) : Prop :=
  ∃ r, routes[e.route]? = some r ∧ Candidate rt dst table r

structure Describes (routes : List NetRoute) (e : NetRouteIndex) (r : NetRoute) : Prop where
  route : routes[e.route]? = some r
  table : e.table = r.table
  match_iff (dst : Word) : dst &&& e.mask = e.ip ↔ netMatch dst r.ip r.prefixLen = true
  prefixLen : e.prefixLen = r.prefixLen.toNat

theorem Indexable.entry_describes (h : Indexable routes) {i : ℕ} {r : NetRoute} (hi : routes[i]? = some r) :
    Describes routes (routeIndexEntry r i) r ∧ (routeIndexEntry r i).route = i := by
  have hlt : i < routes.length := (List.getElem?_eq_some_iff.mp hi).1
  have hmod : i % 65536 = i := Nat.mod_eq_of_lt (lt_of_lt_of_le hlt h.length)
  refine ⟨⟨?_, rfl, fun dst => ?_, ?_⟩, hmod⟩
  · change routes[i % 65536]? = some r
    rwa [hmod]
  · simp [routeIndexEntry, netMatch]
  · exact Nat.mod_eq_of_lt (h.prefixLen r (List.mem_of_getElem? hi))

theorem Indexable.describes (h : Indexable routes) {e : NetRouteIndex} (he : e ∈ buildRouteIndex routes) :
    ∃ r, Describes routes e r := by
  obtain ⟨i, r, hi, rfl⟩ := mem_buildRouteIndex.mp he
  exact ⟨r, (h.entry_describes hi).1⟩

theorem Describes.points_iff {e : NetRouteIndex} {r : NetRoute} (h : Describes routes e r) :
    Points rt routes dst table e ↔ Candidate rt dst table r := by
  constructor
  · rintro ⟨r', hr', hc⟩
    rwa [Option.some.inj (h.route.symm.trans hr')]
  · exact fun hc => ⟨r, h.route, hc⟩

inductive Scanned (rt : Routing) (routes : List NetRoute) (dst table : Word) (l : List NetRouteIndex) :
    Option NetRoute → Prop
  | found {l₁ l₂ : List NetRouteIndex} {e : NetRouteIndex} {r : NetRoute} (split : l = l₁ ++ e :: l₂)
      (describes : Describes routes e r) (candidate : Candidate rt dst table r)
      (earlier : ∀ e' ∈ l₁, ¬ Points rt routes dst table e') : Scanned rt routes dst table l (some r)
  | nothing (absent : ∀ e ∈ l, ¬ Points rt routes dst table e) : Scanned rt routes dst table l none

theorem Scanned.cons {e : NetRouteIndex} {l : List NetRouteIndex} {o : Option NetRoute}
    (h : Scanned rt routes dst table l o) (he : ¬ Points rt routes dst table e) :
    Scanned rt routes dst table (e :: l) o := by
  cases h with
  | found split describes candidate earlier =>
    exact .found (congrArg (e :: ·) split) describes candidate (List.forall_mem_cons.mpr ⟨he, earlier⟩)
  | nothing absent => exact .nothing (List.forall_mem_cons.mpr ⟨he, absent⟩)

theorem indexedScan_scanned {l : List NetRouteIndex} (hd : ∀ e ∈ l, ∃ r, Describes routes e r)
    (hs : l.Pairwise fun a b => routeOrder a b = true) (hge : ∀ e ∈ l, table ≤ e.table) :
    Scanned rt routes dst table l (indexedScan rt routes dst table l) := by
  induction l with
  | nil => exact .nothing (List.forall_mem_nil _)
  | cons e l ih =>
    obtain ⟨r, hr⟩ := hd e List.mem_cons_self
    have ih := ih (fun e' he' => hd e' (.tail _ he')) hs.tail fun e' he' => hge e' (.tail _ he')
    rw [indexedScan]
    by_cases ht : e.table ≠ table
    · -- The entries are sorted by table, so those that follow are past it as well.
      rw [if_pos ht]
      refine .nothing fun e' he' hp => ?_
      obtain ⟨r', hr'⟩ := hd e' he'
      have htable : e'.table = table := hr'.table.trans (hr'.points_iff.mp hp).1
      rcases List.mem_cons.mp he' with rfl | hm
      · exact ht htable
      · have hord := routeOrder_iff.mp ((List.pairwise_cons.mp hs).1 e' hm)
        have hle := BitVec.le_def.mp (hge e List.mem_cons_self)
        have hne : e.table.toNat ≠ table.toNat := fun h => ht (BitVec.toNat_inj.mp h)
        rw [htable] at hord
        omega
    · rw [if_neg ht]
      by_cases hm : dst &&& e.mask ≠ e.ip
      · rw [if_pos hm]
        exact ih.cons fun hp => hm ((hr.match_iff dst).mpr (hr.points_iff.mp hp).2.1)
      · rw [if_neg hm, hr.route]
        dsimp only
        by_cases hu : routeUsable rt r = true
        · rw [if_pos hu]
          have hc : Candidate rt dst table r :=
            candidate_iff.mpr ⟨hr.table.symm.trans (not_not.mp ht), (hr.match_iff dst).mp (not_not.mp hm), hu⟩
          exact .found (List.nil_append _).symm hr hc (List.forall_mem_nil _)
        · rw [if_neg hu]
          exact ih.cons fun hp => hu (candidate_iff.mp (hr.points_iff.mp hp)).2.2

theorem tableBegin_spec (table : Word) {index : List NetRouteIndex} (hs : index.Pairwise fun a b => routeOrder a b = true) :
    (∀ k < tableBegin index table index.length, ∀ e, index[k]? = some e → e.table < table) ∧
      ∀ k ≥ tableBegin index table index.length, ∀ e, index[k]? = some e → table ≤ e.table := by
  have hmono : index.Pairwise fun a b => decide (b.table < table) = true → decide (a.table < table) = true := by
    apply hs.imp
    intro a b hab hb
    rw [routeOrder_iff] at hab
    rw [decide_eq_true_eq, BitVec.lt_def] at *
    omega
  obtain ⟨hlow, hhigh⟩ := List.lowerBound_spec hmono (Nat.zero_le index.length) (le_refl _)
    (show index.length - 0 < index.length + 1 by omega) (by intro k hk; omega)
    (by intro k hk a ha; rw [List.getElem?_eq_none hk] at ha; cases ha)
  refine ⟨fun k hk e he => of_decide_eq_true (hlow k hk e he), fun k hk e he => ?_⟩
  exact BitVec.not_lt.mp (of_decide_eq_false (hhigh k hk e he))

theorem indexedScan_eq_bestRoute (h : Indexable routes) :
    indexedScan rt routes dst table (((buildRouteIndex routes).take routes.length).drop
      (tableBegin (buildRouteIndex routes) table routes.length)) = bestRoute rt routes dst table := by
  have hsorted := buildRouteIndex_sorted routes
  obtain ⟨hlow, hhigh⟩ := tableBegin_spec table hsorted
  rw [buildRouteIndex_length] at hlow hhigh
  rw [List.take_of_length_le (buildRouteIndex_length routes).le]
  generalize hb : tableBegin (buildRouteIndex routes) table routes.length = b at *
  have hscan : Scanned rt routes dst table ((buildRouteIndex routes).drop b) (indexedScan rt routes dst table _) :=
    indexedScan_scanned (fun e he => h.describes (List.mem_of_mem_drop he)) (hsorted.sublist (List.drop_sublist b _))
    (fun e he => by
      obtain ⟨k, hk⟩ := List.mem_iff_getElem?.mp he
      rw [List.getElem?_drop] at hk
      exact hhigh (b + k) (by omega) e hk)
  -- Every candidate has its entry in the part of the index that is scanned.
  have hentry {j : ℕ} {r : NetRoute} (hj : routes[j]? = some r) (hc : Candidate rt dst table r) :
      routeIndexEntry r j ∈ (buildRouteIndex routes).drop b := by
    obtain ⟨k, hk⟩ := List.mem_iff_getElem?.mp (mem_buildRouteIndex.mpr ⟨j, r, hj, rfl⟩)
    have hbk : b ≤ k := by
      by_contra hlt
      have := BitVec.lt_def.mp (hlow k (by omega) _ hk)
      rw [show (routeIndexEntry r j).table = table from hc.1] at this
      omega
    apply List.mem_iff_getElem?.mpr
    exact ⟨k - b, by rwa [List.getElem?_drop, Nat.add_sub_cancel' hbk]⟩
  generalize indexedScan rt routes dst table _ = o at hscan ⊢
  cases hscan with
  | nothing absent =>
    refine (bestRoute_eq_none_iff.mpr fun r hr hc => ?_).symm
    obtain ⟨j, hj⟩ := List.mem_iff_getElem?.mp hr
    exact absent _ (hentry hj hc) ((h.entry_describes hj).1.points_iff.mpr hc)
  | @found l₁ l₂ e r split describes candidate earlier =>
    refine (BestAt.bestRoute_eq (k := e.route) ⟨describes.route, candidate, fun j r' hj hc => ?_⟩).symm
    obtain ⟨hd, hroute⟩ := h.entry_describes hj
    have hm := hentry hj hc
    have hord := hsorted.sublist (List.drop_sublist b _)
    rw [split] at hm hord
    rcases List.mem_append.mp hm with h1 | h2
    · exact absurd (hd.points_iff.mpr hc) (earlier _ h1)
    · rcases List.mem_cons.mp h2 with rfl | h3
      · have he : r = r' := Option.some.inj (describes.route.symm.trans hd.route)
        exact .inr ⟨by rw [he], le_of_eq hroute⟩
      · have ho := routeOrder_iff.mp ((List.pairwise_cons.mp (List.pairwise_append.mp hord).2.1).1 _ h3)
        rw [describes.table, hd.table, candidate.1, hc.1, describes.prefixLen, hd.prefixLen, hroute] at ho
        rw [← BitVec.toNat_inj]
        omega

theorem tableBest_eq_bestRoute (h : Indexable c.routes) (hindex : c.routesIndexed = true → c.routeIndex = buildRouteIndex c.routes)
    (table : Word) : tableBest rt c dst table = bestRoute rt c.routes dst table := by
  rw [tableBest]
  by_cases hi : c.routesIndexed = true
  · rw [if_pos hi, hindex hi]
    exact indexedScan_eq_bestRoute h
  · rw [if_neg hi]
    exact linearScan_eq_bestRoute

theorem policyRouteQuery_eq_reference (h : Indexable c.routes)
    (hindex : c.routesIndexed = true → c.routeIndex = buildRouteIndex c.routes) (out : RouteResult) :
    policyRouteQuery rt c dst src iif out = policyReference rt c dst src iif out := by
  rw [policyRouteQuery, policyReference]
  cases localResult rt c dst with
  | some r => rfl
  | none =>
    dsimp only
    by_cases hv : ipv4DestinationValid rt dst = true
    · rw [hv, policyStages, ← ruleLookup_eq_policySearch (tableBest_eq_bestRoute h hindex)]
      rfl
    · rw [eq_false_of_ne_true hv]
      rfl

section Source

variable {dev : Word} {addresses : List NetAddress} {best : Word × Word × Word}

def SourceOk (addresses : List NetAddress) (dev ip : Word) : Prop := ip = 0 ∨ ∃ a ∈ addresses, a.dev = dev ∧ a.ip = ip

theorem netSourceStep_sourceOk {a : NetAddress} (ha : a ∈ addresses) (hfirst : SourceOk addresses dev best.1)
    (hbest : SourceOk addresses dev best.2.1) : SourceOk addresses dev (netSourceStep dev dst best a).1 ∧
      SourceOk addresses dev (netSourceStep dev dst best a).2.1 := by
  rw [netSourceStep]
  split
  · exact ⟨hfirst, hbest⟩
  · rename_i hdev
    have hnew : SourceOk addresses dev a.ip := .inr ⟨a, ha, not_not.mp hdev, rfl⟩
    have hfirst' : SourceOk addresses dev (if best.1 = 0 then a.ip else best.1) := by
      split
      · exact hnew
      · exact hfirst
    dsimp only
    split
    · exact ⟨hfirst', hnew⟩
    · exact ⟨hfirst', hbest⟩

theorem netSourceLoop_sourceOk {l : List NetAddress} (hl : ∀ a ∈ l, a ∈ addresses) (hfirst : SourceOk addresses dev best.1)
    (hbest : SourceOk addresses dev best.2.1) : SourceOk addresses dev (l.foldl (netSourceStep dev dst) best).1 ∧
      SourceOk addresses dev (l.foldl (netSourceStep dev dst) best).2.1 := by
  induction l generalizing best with
  | nil => exact ⟨hfirst, hbest⟩
  | cons a l ih =>
    obtain ⟨hfirst', hbest'⟩ := netSourceStep_sourceOk (hl a List.mem_cons_self) hfirst hbest
    exact ih (fun b hb => hl b (.tail _ hb)) hfirst' hbest'

theorem netSource_sourceOk (hnet : rt.network = some c) : SourceOk c.addresses dev (netSource rt dev dst) := by
  have hloop : SourceOk c.addresses dev (c.addresses.foldl (netSourceStep dev dst) (0, 0, 0)).1 ∧
      SourceOk c.addresses dev (c.addresses.foldl (netSourceStep dev dst) (0, 0, 0)).2.1 :=
    netSourceLoop_sourceOk (fun a ha => ha) (.inl rfl) (.inl rfl)
  rw [netSource, hnet]
  dsimp only
  split
  · exact hloop.2
  · exact hloop.1

theorem netSourceLoop_first_ne_zero {l : List NetAddress} (hip : ∀ a ∈ l, a.ip ≠ 0)
    (h : best.1 ≠ 0 ∨ ∃ a ∈ l, a.dev = dev) : (l.foldl (netSourceStep dev dst) best).1 ≠ 0 := by
  induction l generalizing best with
  | nil =>
    rcases h with h | ⟨a, ha, -⟩
    · exact h
    · cases ha
  | cons b l ih =>
    rw [List.foldl_cons]
    have hb := hip b List.mem_cons_self
    apply ih fun a ha => hip a (.tail _ ha)
    rw [netSourceStep]
    split
    · rename_i hdev
      rcases h with h | ⟨a, ha, had⟩
      · exact .inl h
      · rcases List.mem_cons.mp ha with rfl | ha
        · exact absurd had hdev
        · exact .inr ⟨a, ha, had⟩
    · have hfirst : (if best.1 = 0 then b.ip else best.1) ≠ 0 := by
        split
        · exact hb
        · assumption
      dsimp only
      split
      · exact .inl hfirst
      · exact .inl hfirst

theorem netSource_ne_zero (hnet : rt.network = some c) (hip : ∀ a ∈ c.addresses, a.ip ≠ 0) {a : NetAddress}
    (ha : a ∈ c.addresses) (hdev : a.dev = dev) : netSource rt dev dst ≠ 0 := by
  rw [netSource, hnet]
  dsimp only
  split
  · assumption
  · exact netSourceLoop_first_ne_zero hip (.inr ⟨a, ha, hdev⟩)

end Source

inductive Resolved (rt : Routing) (c : NetConfig) (dst src : Word) : RouteResult → Prop
  | own {a : NetAddress} {r : RouteResult} (mem : a ∈ c.addresses) (ip : a.ip = dst) (source : r.sourceIp = dst)
      (isLocal : r.isLocal = true) : Resolved rt c dst src r
  | routed {best : NetRoute} {port : PortState} {table pref source nextHop : Word} (mem : best ∈ c.routes)
      (valid : ipv4DestinationValid rt dst = true) (candidate : Candidate rt dst table best) (unicast : best.type = 0)
      (host : best.gateway = 0 → netHost dst best.prefixLen = true) (port_eq : netifById rt best.dev.toNat = some port)
      (nextHop_eq : nextHop = if best.gateway ≠ 0 then best.gateway else dst)
      (source_eq : source = if src ≠ 0 then src else netSource rt (BitVec.ofNat 32 port.id) nextHop)
      (source_ne : source ≠ 0) :
      Resolved rt c dst src { netifId := best.dev.toNat % 65536, mtu := port.mtu, nextHop := nextHop, sourceIp := source,
                              table := table, rulePref := pref, type := best.type }

theorem routeAction_ne_none {type : Word} (hne : type ≠ 0) (hle : type ≤ netProhibit) : routeAction type ≠ .none := by
  have htypes : type = netBlackhole ∨ type = netUnreachable ∨ type = netProhibit := by
    have hlt : type.toNat ≤ 3 := BitVec.le_def.mp hle
    have hpos : type.toNat ≠ 0 := fun h => hne (BitVec.toNat_inj.mp h)
    have hcases : type.toNat = 1 ∨ type.toNat = 2 ∨ type.toNat = 3 := by omega
    exact hcases.imp (fun h => BitVec.toNat_inj.mp h)
      (Or.imp (fun h => BitVec.toNat_inj.mp h) fun h => BitVec.toNat_inj.mp h)
  rcases htypes with rfl | rfl | rfl <;> decide

theorem routeOutcome_resolved {best : NetRoute} {pref : Word} {r : RouteResult} (hmem : best ∈ c.routes)
    (hvalid : ipv4DestinationValid rt dst = true) (hcandidate : Candidate rt dst table best)
    (htype : best.type ≤ netProhibit) (h : routeOutcome rt dst src table pref best = (.none, r)) :
    Resolved rt c dst src r := by
  rw [routeOutcome] at h
  dsimp only at h
  split at h
  · rename_i hne
    exact absurd (congrArg Prod.fst h) (routeAction_ne_none hne htype)
  · rename_i hunicast
    split at h
    · cases h
    · rename_i hhost
      split at h
      · cases h
      · rename_i port hport
        obtain ⟨hreason, rfl⟩ := Prod.mk.inj h
        refine .routed hmem hvalid hcandidate (not_not.mp hunicast) ?_ hport rfl rfl ?_
        · intro hgateway
          by_contra hn
          exact hhost ⟨hgateway, by rw [eq_false_of_ne_true hn]; rfl⟩
        · intro hzero
          rw [if_neg (not_not.mpr hzero)] at hreason
          cases hreason

theorem bestRoute_mem {r : NetRoute} (h : bestRoute rt routes dst table = some r) :
    r ∈ routes ∧ Candidate rt dst table r := by
  obtain ⟨k, hk, hcandidate, -⟩ := bestRoute_bestAt h
  exact ⟨List.mem_of_getElem? hk, hcandidate⟩

theorem routeOutcome_stage (rt : Routing) (dst src table pref : Word) (best : NetRoute) :
    (routeOutcome rt dst src table pref best).2.table = table ∧ (routeOutcome rt dst src table pref best).2.rulePref = pref := by
  rw [routeOutcome]
  dsimp only
  split
  · exact ⟨rfl, rfl⟩
  split
  · exact ⟨rfl, rfl⟩
  split
  · exact ⟨rfl, rfl⟩
  · exact ⟨rfl, rfl⟩

theorem policySearch_best {stages : List Stage} {out r : RouteResult}
    (hstages : ∀ type pref, .action type pref ∈ stages → routeAction type ≠ .none)
    (h : policySearch rt routes dst src out stages = (.none, r)) :
    ∃ best, bestRoute rt routes dst r.table = some best ∧ routeOutcome rt dst src r.table r.rulePref best = (.none, r) := by
  induction stages with
  | nil => cases h
  | cons stage stages ih =>
    have ih := ih fun type pref hmem => hstages type pref (.tail _ hmem)
    cases stage with
    | action type pref => exact absurd (congrArg Prod.fst h) (hstages type pref List.mem_cons_self)
    | lookup table pref =>
      rw [policySearch] at h
      split at h
      · rename_i best hbest
        have hstage := routeOutcome_stage rt dst src table pref best
        rw [h] at hstage
        obtain ⟨rfl, rfl⟩ := hstage
        exact ⟨best, hbest, h⟩
      · exact ih h

theorem NetConfigOk.route_type (h : NetConfigOk c ports) {p : NetRoute} (hp : p ∈ c.routes) : p.type ≤ netProhibit := by
  obtain ⟨before, hb⟩ := validateEach_mem h.routes hp
  rw [validateRoute, if_error_eq_ok] at hb
  exact BitVec.not_lt.mp fun hlt => hb.1 (.inr (.inr (.inr (.inl hlt))))

theorem NetConfigOk.rule_type (h : NetConfigOk c ports) {p : NetRule} (hp : p ∈ c.rules) : p.type ≤ netProhibit := by
  obtain ⟨before, hb⟩ := validateEach_mem h.rules hp
  rw [validateRule, if_error_eq_ok] at hb
  exact BitVec.not_lt.mp fun hlt => hb.1 (.inr (.inr (.inr (.inr (.inr (.inl hlt))))))

theorem policyStages_action {type pref : Word} (h : NetConfigOk c ports)
    (hmem : .action type pref ∈ policyStages c dst src iif) : routeAction type ≠ .none := by
  rw [policyStages, List.mem_append] at hmem
  rcases hmem with hmem | hmem
  · obtain ⟨rule, hrule, hstage⟩ := List.mem_map.mp hmem
    rw [ruleStage] at hstage
    split at hstage
    · rename_i hne
      obtain ⟨rfl, rfl⟩ := Stage.action.inj hstage
      exact routeAction_ne_none hne (h.rule_type (List.mem_filter.mp hrule).1)
    · cases hstage
  · rcases List.mem_cons.mp hmem with hmem | hmem
    · cases hmem
    · cases List.mem_singleton.mp hmem

theorem policyRouteQuery_cases {r out : RouteResult} (hok : NetConfigOk c ports)
    (hindex : c.routesIndexed = true → c.routeIndex = buildRouteIndex c.routes)
    (h : policyRouteQuery rt c dst src iif out = (.none, r)) :
    (∃ a ∈ c.addresses, a.ip = dst ∧ r.sourceIp = dst ∧ r.isLocal = true) ∨ ipv4DestinationValid rt dst = true ∧
      ∃ best, bestRoute rt c.routes dst r.table = some best ∧ routeOutcome rt dst src r.table r.rulePref best = (.none, r) := by
  rw [policyRouteQuery_eq_reference hok.indexable hindex, policyReference, localResult] at h
  cases hfind : c.addresses.find? fun a => dst == a.ip with
  | some a =>
    rw [hfind] at h
    obtain rfl := (Prod.mk.inj h).2
    have hip := List.find?_some hfind
    exact .inl ⟨a, List.mem_of_find?_eq_some hfind, (beq_iff_eq.mp hip).symm, rfl, rfl⟩
  | none =>
    rw [hfind, Option.map_none] at h
    dsimp only at h
    split at h
    · rename_i hvalid
      exact .inr ⟨hvalid, policySearch_best (fun type pref hmem => policyStages_action hok hmem) h⟩
    · cases h

theorem policyRouteQuery_resolved {r out : RouteResult} (hok : NetConfigOk c ports)
    (hindex : c.routesIndexed = true → c.routeIndex = buildRouteIndex c.routes)
    (h : policyRouteQuery rt c dst src iif out = (.none, r)) : Resolved rt c dst src r := by
  obtain ⟨a, mem, ip, source, isLocal⟩ | ⟨hvalid, best, hbest, houtcome⟩ := policyRouteQuery_cases hok hindex h
  · exact .own mem ip source isLocal
  · obtain ⟨hmem, hcandidate⟩ := bestRoute_mem hbest
    exact routeOutcome_resolved hmem hvalid hcandidate (hok.route_type hmem) houtcome

theorem policyReference_reindex (indexed : Bool) (index : List NetRouteIndex) (out : RouteResult) :
    policyReference { rt with network := some { c with routesIndexed := indexed, routeIndex := index } }
        { c with routesIndexed := indexed, routeIndex := index } dst src iif out =
      policyReference { rt with network := some c } c dst src iif out := by
  have hsearch (stages : List Stage) :
      policySearch { rt with network := some { c with routesIndexed := indexed, routeIndex := index } } c.routes dst src
        out stages = policySearch { rt with network := some c } c.routes dst src out stages := by
    induction stages with
    | nil => rfl
    | cons stage stages ih =>
      cases stage with
      | action type pref => rfl
      | lookup table pref =>
        rw [policySearch, policySearch, ih]
        rfl
  rw [policyReference, policyReference]
  change (match localResult { rt with network := some c } c dst with
    | some r => (DropReason.none, r)
    | none => if ipv4DestinationValid { rt with network := some c } dst = true then _ else _) = _
  rw [← hsearch]
  rfl

theorem netConfigPrepare_rules (h : NetConfigOk c ports) : c.rules.Pairwise fun a b => a.pref < b.pref := by
  have : IsTrans NetRule fun a b => a.pref < b.pref := ⟨fun _ _ _ => BitVec.lt_trans⟩
  apply validateEach_chain h.rules
  intro before a b hc hb
  rw [validateRule, if_error_eq_ok] at hc
  by_contra hn
  exact hc.1 (by simp [hb, BitVec.not_lt.mp hn])

/-- Route lookup follows the policy, with the index and without. -/
theorem ipv4RouteQuery_eq_policyReference {c₀ : NetConfig} (h : netConfigPrepare c₀ ports = .ok c) (rt : Routing)
    (dst src iif : Word) (out : RouteResult) :
    (c.rules.Pairwise fun a b => a.pref < b.pref) ∧
      (c.routesIndexed = true → c.routeIndex = buildRouteIndex c.routes) ∧
      ∀ (indexed : Bool) (index : List NetRouteIndex), (indexed = true → index = buildRouteIndex c.routes) →
        ipv4RouteQuery { rt with network := some { c with routesIndexed := indexed, routeIndex := index } } dst src iif out =
          policyReference { rt with network := some c } c dst src iif out := by
  obtain ⟨hok, hc⟩ := netConfigPrepare_eq_ok h
  have hroutes : c.routes = c₀.routes ∧ c.rules = c₀.rules := by
    rcases hc with ⟨-, rfl⟩ | ⟨-, rfl⟩ <;> exact ⟨rfl, rfl⟩
  refine ⟨hroutes.2 ▸ netConfigPrepare_rules hok, netConfigPrepare_index h, fun indexed index hindex => ?_⟩
  rw [← policyReference_reindex indexed index]
  exact policyRouteQuery_eq_reference (hroutes.1 ▸ hok.indexable) hindex out

def branchConfig : NetConfig where
  addresses := [{ ip := htonl 0x0a000001, prefixLen := 8, dev := 0 }]
  routes := [{ ip := htonl 0x0a000000, prefixLen := 8, dev := 0, table := netTableMain, connected := 1 },
    { ip := htonl 0x0a020000, prefixLen := 16, dev := 1, table := netTableMain },
    { ip := 0, prefixLen := 0, gateway := htonl 0x0a000002, dev := 0, table := netTableMain }]

def branchRouting : Routing where
  ports := [{ id := 0, portId := 0, mtu := 1500, configured := true, started := true },
    { id := 1, portId := 1, mtu := 1500, configured := true, started := true, adminDown := true }]

def branchPrepared : NetConfig :=
  { branchConfig with routesIndexed := true, routeIndex := buildRouteIndex branchConfig.routes }

def branchRoute : RouteResult where
  netifId := 0
  mtu := 1500
  sourceIp := htonl 0x0a000001
  nextHop := htonl 0x0a020003
  table := netTableMain
  rulePref := 32766

theorem branch_routes_over_port_zero :
    netConfigPrepare branchConfig 2 = .ok branchPrepared ∧
      ipv4RouteQuery { branchRouting with network := some branchPrepared } (htonl 0x0a020003) 0 netIifNone {} =
        (.none, branchRoute) := by
  have hv : netConfigValidate { branchConfig with routesIndexed := false } 2 = .ok () := by decide
  have hp : netConfigPrepare branchConfig 2 = .ok branchPrepared := by
    rw [netConfigPrepare, hv]
    rfl
  have hq := (ipv4RouteQuery_eq_policyReference hp branchRouting (htonl 0x0a020003) 0 netIifNone {}).2.2
    true (buildRouteIndex branchPrepared.routes) fun _ => rfl
  refine ⟨hp, Eq.trans hq ?_⟩
  decide

end PulsarNetstack
