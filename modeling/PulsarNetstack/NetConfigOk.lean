import PulsarNetstack.NetConfig

namespace PulsarNetstack

variable {c c' : NetConfig} {ports : ℕ}

theorem except_bind_eq_ok {ε α β : Type} {x : Except ε α} {f : α → Except ε β} {b : β} :
    (x >>= f) = .ok b ↔ ∃ a, x = .ok a ∧ f a = .ok b := by
  cases x with
  | error e => simp [bind, Except.bind]
  | ok a => simp [bind, Except.bind]

theorem if_error_eq_ok {ε α : Type} {p : Prop} [Decidable p] {e : ε} {x : Except ε α} {a : α} :
    (if p then .error e else x) = .ok a ↔ ¬ p ∧ x = .ok a := by
  by_cases hp : p <;> simp [hp]

section ValidateEach

variable {α : Type} {check : List α → α → Except Errno Unit} {before l : List α}

theorem validateEach_eq_ok : validateEach check before l = .ok () ↔
    ∀ l₁ a l₂, l = l₁ ++ a :: l₂ → check (before ++ l₁) a = .ok () := by
  induction l generalizing before with
  | nil => simp [validateEach]
  | cons b l ih =>
    rw [validateEach, except_bind_eq_ok]
    constructor
    · rintro ⟨⟨⟩, hb, hl⟩ l₁ a l₂ he
      cases l₁ with
      | nil =>
        obtain ⟨rfl, rfl⟩ := List.cons.inj he
        rwa [List.append_nil]
      | cons d l₁ =>
        obtain ⟨rfl, rfl⟩ := List.cons.inj he
        have := ih.mp hl l₁ a l₂ rfl
        rwa [List.append_assoc] at this
    · intro h
      refine ⟨(), by simpa using h [] b l rfl, ih.mpr fun l₁ a l₂ he => ?_⟩
      have := h (b :: l₁) a l₂ (by rw [he]; rfl)
      rwa [List.append_assoc]

theorem validateEach_mem (h : validateEach check before l = .ok ()) {a : α} (ha : a ∈ l) :
    ∃ l₁, check (before ++ l₁) a = .ok () := by
  obtain ⟨l₁, l₂, he⟩ := List.append_of_mem ha
  exact ⟨l₁, validateEach_eq_ok.mp h l₁ a l₂ he⟩

theorem validateEach_pairwise {R : α → α → Prop} (h : validateEach check [] l = .ok ())
    (hR : ∀ before a, check before a = .ok () → ∀ b ∈ before, R b a) : l.Pairwise R := by
  rw [List.pairwise_iff_getElem]
  intro i j hi hj hij
  have he : l = l.take j ++ l[j] :: l.drop (j + 1) := by
    rw [List.getElem_cons_drop, List.take_append_drop]
  have hc := validateEach_eq_ok.mp h _ _ _ he
  rw [List.nil_append] at hc
  refine hR _ _ hc _ ?_
  rw [List.mem_take_iff_getElem]
  exact ⟨i, by omega, rfl⟩

theorem validateEach_chain {R : α → α → Prop} [IsTrans α R] (h : validateEach check [] l = .ok ())
    (hR : ∀ before a b, check before a = .ok () → before.getLast? = some b → R b a) : l.Pairwise R := by
  rw [← List.isChain_iff_pairwise, List.isChain_iff_getElem]
  intro i hi
  have he : l = l.take (i + 1) ++ l[i + 1] :: l.drop (i + 2) := by
    rw [List.getElem_cons_drop, List.take_append_drop]
  have hc := validateEach_eq_ok.mp h _ _ _ he
  rw [List.nil_append] at hc
  refine hR _ _ _ hc ?_
  rw [List.getLast?_take, if_neg (by omega)]
  simp [show i < l.length by omega]

theorem validateEach_of_pairwise {P : α → Prop} {R : α → α → Prop} (hP : ∀ a ∈ l, P a) (hR : l.Pairwise R)
    (hcheck : ∀ before a, P a → (∀ b ∈ before, R b a) → check before a = .ok ()) : validateEach check [] l = .ok () := by
  rw [validateEach_eq_ok]
  rintro l₁ a l₂ rfl
  rw [List.nil_append]
  apply hcheck
  · exact hP a (List.mem_append_right _ List.mem_cons_self)
  · intro b hb
    exact (List.pairwise_append.mp hR).2.2 b hb a List.mem_cons_self

end ValidateEach

structure NetConfigOk (c : NetConfig) (ports : ℕ) : Prop where
  addresses_length : c.addresses.length ≤ netAddrMax
  routes_length : c.routes.length ≤ netRouteMax
  rules_length : c.rules.length ≤ netRuleMax
  acls_length : c.acls.length ≤ netAclMax
  defaultDrop : c.defaultDrop ≤ 1
  addresses : validateEach (validateAddress ports) [] c.addresses = .ok ()
  routes : validateEach (validateRoute c ports) [] c.routes = .ok ()
  rules : validateEach (validateRule ports) [] c.rules = .ok ()
  acls : validateEach (validateAcl ports) [] c.acls = .ok ()

theorem netConfigValidate_eq_ok : netConfigValidate c ports = .ok () ↔ NetConfigOk c ports := by
  rw [netConfigValidate, if_error_eq_ok]
  simp only [except_bind_eq_ok, not_or, not_lt, BitVec.not_lt]
  constructor
  · rintro ⟨⟨h1, h2, h3, h4, h5⟩, ⟨⟩, h6, ⟨⟩, h7, ⟨⟩, h8, h9⟩
    exact ⟨h1, h2, h3, h4, h5, h6, h7, h8, h9⟩
  · rintro ⟨h1, h2, h3, h4, h5, h6, h7, h8, h9⟩
    exact ⟨⟨h1, h2, h3, h4, h5⟩, (), h6, (), h7, (), h8, h9⟩

theorem netConfigPrepare_eq_ok (h : netConfigPrepare c ports = .ok c') :
    NetConfigOk c ports ∧ (c.routes.length ≤ 2 ∧ c' = { c with routesIndexed := false } ∨
      2 < c.routes.length ∧ c' = { c with routeIndex := buildRouteIndex c.routes, routesIndexed := true }) := by
  rw [netConfigPrepare, except_bind_eq_ok] at h
  obtain ⟨⟨⟩, hv, h⟩ := h
  have hok : NetConfigOk c ports := { netConfigValidate_eq_ok.mp hv with }
  refine ⟨hok, ?_⟩
  dsimp only at h
  split at h
  · rename_i hle
    exact .inl ⟨hle, (Except.ok.inj h).symm⟩
  · rename_i hle
    exact .inr ⟨by omega, (Except.ok.inj h).symm⟩

theorem netConfigPrepare_of_ok (h : NetConfigOk c ports) : ∃ c', netConfigPrepare c ports = .ok c' := by
  have hvalid : netConfigValidate { c with routesIndexed := false } ports = .ok () :=
    netConfigValidate_eq_ok.mpr { h with }
  rw [netConfigPrepare, hvalid]
  by_cases hle : c.routes.length ≤ 2
  · exact ⟨_, if_pos hle⟩
  · exact ⟨_, if_neg hle⟩

theorem netConfigPrepare_index (h : netConfigPrepare c ports = .ok c') :
    c'.routesIndexed = true → c'.routeIndex = buildRouteIndex c'.routes := by
  rcases (netConfigPrepare_eq_ok h).2 with ⟨-, rfl⟩ | ⟨-, rfl⟩
  · exact fun hi => absurd hi Bool.false_ne_true
  · exact fun _ => rfl

end PulsarNetstack
