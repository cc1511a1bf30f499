import PulsarNetstack.AdminSnapshots
import PulsarNetstack.RuntimeCalls

namespace PulsarNetstack

section LastMatch

variable {α β : Type} [DecidableEq α] {a : α} {l : List α} {f : ℕ → β} {z : β}

theorem foldl_match_absent (n : ℕ) (ha : a ∉ l) :
    (l.zipIdx n).foldl (fun z b => if a = b.1 then f b.2 else z) z = z := by
  induction l generalizing n with
  | nil => rfl
  | cons b l ih =>
    obtain ⟨hb, hl⟩ := not_or.mp (mt List.mem_cons.mpr ha)
    rw [List.zipIdx_cons, List.foldl_cons, if_neg hb, ih (n + 1) hl]

theorem foldl_match_found {i : ℕ} (n : ℕ) (hl : l.Nodup) (hi : l[i]? = some a) :
    (l.zipIdx n).foldl (fun z b => if a = b.1 then f b.2 else z) z = f (n + i) := by
  induction l generalizing n i z with
  | nil => simp at hi
  | cons b l ih =>
    obtain ⟨hb, hl⟩ := List.nodup_cons.mp hl
    rw [List.zipIdx_cons, List.foldl_cons]
    cases i with
    | zero =>
      obtain rfl : b = a := Option.some.inj hi
      rw [if_pos rfl, foldl_match_absent _ hb]
      rfl
    | succ i =>
      rw [List.getElem?_cons_succ] at hi
      rw [ih (n + 1) hl hi, Nat.add_right_comm, Nat.add_assoc]

end LastMatch

theorem NetConfigOk.acls_nodup {c : NetConfig} {ports : ℕ} (h : NetConfigOk c ports) : c.acls.Nodup := by
  apply h.acls_pairwise.imp
  rintro a b hlt rfl
  exact BitVec.lt_irrefl _ hlt

structure AclPhase where
  snapshot : NetConfig
  valid : ∃ ports, NetConfigOk snapshot ports
  packets : List (AclKey × ℕ) := []

namespace AclPhase

variable {p : AclPhase} {a : NetAcl} {i : ℕ}

theorem nodup (p : AclPhase) : p.snapshot.acls.Nodup := p.valid.elim fun _ h => h.acls_nodup

theorem index_unique (p : AclPhase) {j : ℕ} (hi : p.snapshot.acls[i]? = some a) (hj : p.snapshot.acls[j]? = some a) :
    i = j := by
  obtain ⟨hi, rfl⟩ := List.getElem?_eq_some_iff.mp hi
  obtain ⟨hj, he⟩ := List.getElem?_eq_some_iff.mp hj
  exact ((p.nodup.getElem_inj_iff).mp he).symm

def account (p : AclPhase) (k : AclKey) (bytes : ℕ) : AclPhase := { p with packets := (k, bytes) :: p.packets }

def ruleOf (p : AclPhase) (k : AclKey) : Option NetAcl :=
  (netAclClassify p.snapshot k).bind fun i => p.snapshot.acls[i]?

def charged (p : AclPhase) (a : NetAcl) : List (AclKey × ℕ) := p.packets.filter fun q => p.ruleOf q.1 = some a

theorem charged_account (k : AclKey) (bytes : ℕ) : (p.account k bytes).charged a =
    if p.ruleOf k = some a then (k, bytes) :: p.charged a else p.charged a := by
  change List.filter (fun q => decide (p.ruleOf q.1 = some a)) ((k, bytes) :: p.packets) = _
  simp only [List.filter_cons, decide_eq_true_eq]
  rfl

end AclPhase

inductive AclRun : List AclPhase → AclCounters → Prop
  | start (p : AclPhase) : p.packets = [] → AclRun [p] {}
  | packet {p : AclPhase} {older : List AclPhase} {s : AclCounters} (k : AclKey) (bytes : ℕ) :
      AclRun (p :: older) s → AclRun (p.account k bytes :: older)
        (netAclAccount p.snapshot s (netAclClassify p.snapshot k) bytes).1
  | activate {p : AclPhase} {older : List AclPhase} {s : AclCounters} (next : AclPhase) : next.packets = [] →
      AclRun (p :: older) s → AclRun (next :: p :: older) (netAclCountersMigrate p.snapshot next.snapshot s)

def chargedSinceAbsent (a : NetAcl) (history : List AclPhase) : List (AclKey × ℕ) :=
  (history.takeWhile fun p => a ∈ p.snapshot.acls).flatMap fun p => p.charged a

def traffic (packets : List (AclKey × ℕ)) : ℕ × ℕ := (packets.length, (packets.map Prod.snd).sum)

section Counters

variable {p : AclPhase} {older history : List AclPhase} {a : NetAcl} {s : AclCounters} {i : ℕ}

theorem traffic_cons (k : AclKey) (bytes : ℕ) (packets : List (AclKey × ℕ)) :
    traffic ((k, bytes) :: packets) = ((traffic packets).1 + 1, (traffic packets).2 + bytes) := by
  simp only [traffic, List.length_cons, List.map_cons, List.sum_cons, Nat.add_comm bytes]

theorem chargedSinceAbsent_present (ha : a ∈ p.snapshot.acls) :
    chargedSinceAbsent a (p :: older) = p.charged a ++ chargedSinceAbsent a older := by
  rw [chargedSinceAbsent, List.takeWhile_cons_of_pos (by simpa using ha), List.flatMap_cons]
  rfl

theorem chargedSinceAbsent_absent (ha : a ∉ p.snapshot.acls) : chargedSinceAbsent a (p :: older) = [] := by
  rw [chargedSinceAbsent, List.takeWhile_cons_of_neg (by simpa using ha), List.flatMap_nil]

theorem netAclAccount_rules (k : AclKey) (bytes : ℕ) (hi : p.snapshot.acls[i]? = some a) :
    (netAclAccount p.snapshot s (netAclClassify p.snapshot k) bytes).1.rules i =
      if p.ruleOf k = some a then ((s.rules i).1 + 1, (s.rules i).2 + bytes) else s.rules i := by
  unfold netAclAccount AclPhase.ruleOf
  generalize netAclClassify p.snapshot k = rule
  cases hj : rule.bind fun j => p.snapshot.acls[j]?.map fun a => (j, a) with
  | none =>
    have hnone : (rule.bind fun j => p.snapshot.acls[j]?) = none := by
      cases rule with
      | none => rfl
      | some j => simpa using hj
    rw [hnone, if_neg (Option.some_ne_none a).symm]
    dsimp only
    split <;> rfl
  | some jb =>
    obtain ⟨j, b⟩ := jb
    obtain ⟨j', rfl, hmap⟩ := Option.bind_eq_some_iff.mp hj
    obtain ⟨b', hb, he⟩ := Option.map_eq_some_iff.mp hmap
    obtain ⟨rfl, rfl⟩ := Prod.mk.inj he
    dsimp only [Option.bind_some]
    rw [apply_ite AclCounters.rules, ite_self]
    dsimp only
    by_cases hab : b' = a
    · rw [if_pos (hb.trans (congrArg some hab)), p.index_unique hi (hab ▸ hb), Function.update_self]
    · rw [if_neg fun h => hab (Option.some.inj (hb.symm.trans h)), Function.update_of_ne]
      rintro rfl
      exact hab (Option.some.inj (hb.symm.trans hi))

theorem netAclAccount_total (c : NetConfig) (rule : Option ℕ) (bytes : ℕ) :
    (netAclAccount c s rule bytes).1.accepted + (netAclAccount c s rule bytes).1.dropped = s.accepted + s.dropped + 1 := by
  unfold netAclAccount
  generalize rule.bind _ = matched
  cases matched with
  | none =>
    dsimp only
    split
    · exact (Nat.add_assoc _ _ _).symm
    · exact Nat.add_right_comm _ _ _
  | some m =>
    dsimp only
    split
    · exact (Nat.add_assoc _ _ _).symm
    · exact Nat.add_right_comm _ _ _

theorem netAclCountersMigrate_kept {j : ℕ} {next : NetConfig} (hi : next.acls[i]? = some a)
    (hj : p.snapshot.acls[j]? = some a) : (netAclCountersMigrate p.snapshot next s).rules i = s.rules j := by
  dsimp only [netAclCountersMigrate]
  rw [hi]
  dsimp only
  rw [foldl_match_found 0 p.nodup hj, Nat.zero_add]

theorem netAclCountersMigrate_fresh {next : NetConfig} (hi : next.acls[i]? = some a) (ha : a ∉ p.snapshot.acls) :
    (netAclCountersMigrate p.snapshot next s).rules i = (0, 0) := by
  dsimp only [netAclCountersMigrate]
  rw [hi]
  exact foldl_match_absent 0 ha

theorem AclRun.rules (h : AclRun history s) : ∀ p older, history = p :: older → ∀ (i : ℕ) (a : NetAcl),
    p.snapshot.acls[i]? = some a → s.rules i = traffic (chargedSinceAbsent a history) := by
  induction h with
  | start p hp =>
    rintro _ _ ⟨⟩ i a hi
    rw [chargedSinceAbsent_present (List.mem_of_getElem? hi), AclPhase.charged, hp]
    rfl
  | @packet p older s k bytes _ ih =>
    rintro _ _ ⟨⟩ i a hi
    have ha : a ∈ p.snapshot.acls := List.mem_of_getElem? hi
    have hold := ih p older rfl i a hi
    rw [chargedSinceAbsent_present ha] at hold
    have hnew : chargedSinceAbsent a (p.account k bytes :: older) =
        (p.account k bytes).charged a ++ chargedSinceAbsent a older := chargedSinceAbsent_present ha
    have hrule : p.snapshot.acls[i]? = some a := hi
    rw [hnew, netAclAccount_rules k bytes hrule, AclPhase.charged_account]
    split
    · rw [List.cons_append, traffic_cons, hold]
    · exact hold
  | @activate p older s next hnext _ ih =>
    rintro _ _ ⟨⟩ i a hi
    have hcharged : next.charged a = [] := by
      rw [AclPhase.charged, hnext]
      rfl
    rw [chargedSinceAbsent_present (List.mem_of_getElem? hi), hcharged, List.nil_append]
    by_cases ha : a ∈ p.snapshot.acls
    · obtain ⟨j, hj⟩ := List.mem_iff_getElem?.mp ha
      rw [netAclCountersMigrate_kept hi hj]
      exact ih p older rfl j a hj
    · rw [netAclCountersMigrate_fresh hi ha, chargedSinceAbsent_absent ha]
      rfl

theorem AclRun.total (h : AclRun history s) :
    s.accepted + s.dropped = (history.flatMap AclPhase.packets).length := by
  induction h with
  | start p hp => rw [List.flatMap_cons, hp]; rfl
  | @packet p older s k bytes _ ih =>
    rw [netAclAccount_total, ih]
    rfl
  | @activate p older s next hnext _ ih =>
    rw [List.flatMap_cons, hnext]
    exact ih

/-- Whatever the reconfigurations, a rule's counters are its own traffic since it was last absent. -/
theorem acl_counters_follow_rules (h : AclRun (p :: older) s) :
    (∀ i a, p.snapshot.acls[i]? = some a → s.rules i = traffic (chargedSinceAbsent a (p :: older))) ∧
      s.accepted + s.dropped = ((p :: older).flatMap AclPhase.packets).length :=
  ⟨h.rules p older rfl, h.total⟩

def telnetRule : NetAcl :=
  { pref := 10, src := 0, srcPrefix := 0, dst := 0, dstPrefix := 0, iif := netIifNone, proto := 6, sportMin := 0,
    sportMax := 65535, dportMin := 23, dportMax := 23, ports := 2, drop := 1 }

def datagramRule : NetAcl := { telnetRule with pref := 20, proto := 17, dportMin := 0, dportMax := 65535, drop := 0 }

def datagramKey : AclKey :=
  { src := 0x0a000001, dst := 0x0a000002, iif := 0, proto := 17, portsValid := true, sport := 1000, dport := 53 }

def filteredPhase : AclPhase where
  snapshot := { acls := [telnetRule, datagramRule] }
  valid := ⟨1, netConfigValidate_eq_ok.mp (by decide)⟩

def reducedPhase : AclPhase where
  snapshot := { acls := [datagramRule] }
  valid := ⟨1, netConfigValidate_eq_ok.mp (by decide)⟩

theorem acl_counters_follow_datagramRule : ∃ s,
    AclRun [reducedPhase.account datagramKey 60, filteredPhase.account datagramKey 40] s ∧ s.rules 0 = (2, 100) ∧
      s.accepted + s.dropped = 2 := by
  have hrun : AclRun [reducedPhase.account datagramKey 60, filteredPhase.account datagramKey 40] _ :=
    .packet datagramKey 60 (.activate reducedPhase rfl (.packet datagramKey 40 (.start filteredPhase rfl)))
  obtain ⟨hrules, htotal⟩ := acl_counters_follow_rules hrun
  refine ⟨_, hrun, (hrules 0 datagramRule rfl).trans ?_, htotal⟩
  decide

end Counters

end PulsarNetstack
