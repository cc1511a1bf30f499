import Mathlib.Algebra.Group.Fin.Basic
import Mathlib.Data.Fintype.Card
import Mathlib.Data.Set.Card

namespace LinearProbing

structure Scheme (n : ℕ) (α κ : Type*) where
  used : α → Bool
  key : α → κ
  home : κ → Fin n
  empty : α
  used_empty : used empty = false

section Distance

variable {n : ℕ}

def dist (r j : Fin n) : ℕ := (j - r).val

theorem dist_lt (r j : Fin n) : dist r j < n := (j - r).isLt

variable [NeZero n]

theorem dist_self (r : Fin n) : dist r r = 0 := by simp [dist]

theorem dist_eq_zero {r j : Fin n} (h : dist r j = 0) : j = r := by
  apply sub_eq_zero.mp
  exact Fin.ext (by simpa [dist] using h)

theorem dist_injective {r i j : Fin n} (h : dist r i = dist r j) : i = j := by
  have : i - r = j - r := Fin.ext h
  simpa using this

theorem dist_add (r i : Fin n) : dist r (r + i) = i.val := by simp [dist]

theorem add_dist (r j : Fin n) : r + ⟨dist r j, dist_lt r j⟩ = j := by simp [dist]

theorem dist_of_le {r a b : Fin n} (h : dist r a ≤ dist r b) : dist a b = dist r b - dist r a := by
  have hs : b - a = b - r - (a - r) := (sub_sub_sub_cancel_right b a r).symm
  unfold dist at *
  rw [hs]
  exact Fin.sub_val_of_le h

theorem dist_of_lt {r a b : Fin n} (h : dist r b < dist r a) : dist a b = n + dist r b - dist r a := by
  have hs : b - a = b - r - (a - r) := (sub_sub_sub_cancel_right b a r).symm
  have ha := (a - r).isLt
  have hb := (b - r).isLt
  unfold dist at *
  rw [hs, Fin.val_sub, Nat.mod_eq_of_lt (by omega)]
  omega

theorem dist_succ {r i : Fin n} (h : dist r i + 1 < n) : dist r (i + 1) = dist r i + 1 := by
  have hn : 1 < n := by omega
  have h1 : ((1 : Fin n) : ℕ) = 1 := by
    rw [Fin.val_one', Nat.mod_eq_of_lt hn]
  unfold dist at *
  rw [add_sub_right_comm, Fin.val_add, h1, Nat.mod_eq_of_lt h]

theorem dist_succ_last {r i : Fin n} (h : dist r i + 1 = n) : i + 1 = r := by
  apply dist_eq_zero
  unfold dist at *
  rw [add_sub_right_comm, Fin.val_add, Fin.val_one']
  simp [h]

end Distance

variable {n : ℕ} {α κ : Type*} (S : Scheme n α κ)

namespace Scheme

/-- Every key is at most once in the table, and from the origin `r` no search crosses the origin or a free slot before
it finds its key. -/
structure Ordered (t : Fin n → α) (r : Fin n) : Prop where
  distinct : ∀ i j, S.used (t i) = true → S.used (t j) = true → S.key (t i) = S.key (t j) → i = j
  le : ∀ j, S.used (t j) = true → dist r (S.home (S.key (t j))) ≤ dist r j
  path : ∀ j, S.used (t j) = true → ∀ q, dist r (S.home (S.key (t j))) ≤ dist r q → dist r q < dist r j →
    S.used (t q) = true

def WellFormed (t : Fin n → α) : Prop := ∃ r, S.Ordered t r

variable {S} {t : Fin n → α} {r j : Fin n} {k : κ}

namespace Ordered

theorem congr (h : S.Ordered t r) {t' : Fin n → α} (hu : ∀ i, S.used (t' i) = S.used (t i))
    (hk : ∀ i, S.used (t i) = true → S.key (t' i) = S.key (t i)) : S.Ordered t' r where
  distinct i j hi hj he := by
    rw [hu] at hi hj
    rw [hk i hi, hk j hj] at he
    exact h.distinct i j hi hj he
  le j hj := by
    rw [hu] at hj
    rw [hk j hj]
    exact h.le j hj
  path j hj q hq hlt := by
    rw [hu] at hj ⊢
    rw [hk j hj] at hq
    exact h.path j hj q hq hlt

theorem replace (h : S.Ordered t r) (hj : S.used (t j) = true) {e : α} (he : S.used e = true)
    (hk : S.key e = S.key (t j)) : S.Ordered (Function.update t j e) r := by
  apply h.congr
  · intro i
    by_cases hi : i = j
    · subst hi
      simp [he, hj]
    · simp [hi]
  · intro i _
    by_cases hi : i = j
    · subst hi
      simp [hk]
    · simp [hi]

variable [NeZero n]

theorem reach (h : S.Ordered t r) (hj : S.used (t j) = true) {q : Fin n}
    (hq : dist (S.home (S.key (t j))) q < dist (S.home (S.key (t j))) j) : S.used (t q) = true := by
  have hle := h.le j hj
  rw [dist_of_le hle] at hq
  have hlt := dist_lt r j
  by_cases hqr : dist r (S.home (S.key (t j))) ≤ dist r q
  · rw [dist_of_le hqr] at hq
    exact h.path j hj q hqr (by omega)
  · rw [dist_of_lt (r := r) (by omega)] at hq
    omega

end Ordered

variable [NeZero n]

def shift (S : Scheme n α κ) : ℕ → (Fin n → α) → Fin n → Fin n → (Fin n → α) × Fin n
  | 0, t, hole, _ => (t, hole)
  | m + 1, t, hole, i =>
    if !S.used (t i) then (t, hole)
    else if dist hole i ≤ dist (S.home (S.key (t i))) i then shift S m (Function.update t hole (t i)) i (i + 1)
    else shift S m t hole (i + 1)

def erase (S : Scheme n α κ) (t : Fin n → α) (j : Fin n) : Fin n → α :=
  let r := shift S (n - 1) t j (j + 1)
  Function.update r.1 r.2 S.empty

structure Gap (S : Scheme n α κ) (t : Fin n → α) (r hole : Fin n) (i : ℕ) : Prop where
  distinct : ∀ a b, a ≠ hole → b ≠ hole → S.used (t a) = true → S.used (t b) = true →
    S.key (t a) = S.key (t b) → a = b
  le : ∀ j, j ≠ hole → S.used (t j) = true → dist r (S.home (S.key (t j))) ≤ dist r j
  path : ∀ j, j ≠ hole → S.used (t j) = true → ∀ q, q ≠ hole → dist r (S.home (S.key (t j))) ≤ dist r q →
    dist r q < dist r j → S.used (t q) = true
  clear : ∀ j, S.used (t j) = true → dist r hole < dist r j → dist r j < i →
    dist r hole < dist r (S.home (S.key (t j)))

structure Moved (t₀ : Fin n → α) (j : Fin n) (t : Fin n → α) (hole : Fin n) : Prop where
  origin : ∀ q, q ≠ hole → ∃ q₀, q₀ ≠ j ∧ t q = t₀ q₀ ∧ dist j q ≤ dist j q₀
  target : ∀ q₀, q₀ ≠ j → ∃ q, q ≠ hole ∧ t q = t₀ q₀

namespace Gap

variable {hole s : Fin n} {i : ℕ}

theorem ordered (h : S.Gap t r hole i)
    (hend : n ≤ i ∨ dist r hole < i ∧ ∃ s, dist r s = i ∧ S.used (t s) = false) :
    S.Ordered (Function.update t hole S.empty) r := by
  have hne {a : Fin n} (ha : S.used (Function.update t hole S.empty a) = true) : a ≠ hole := by
    rintro rfl
    rw [Function.update_self, S.used_empty] at ha
    exact absurd ha (by decide)
  refine ⟨fun a b ha hb => ?_, fun a ha => ?_, fun a ha q => ?_⟩
  · have hna := hne ha
    have hnb := hne hb
    rw [Function.update_of_ne hna] at ha ⊢
    rw [Function.update_of_ne hnb] at hb ⊢
    exact h.distinct a b hna hnb ha hb
  · have hna := hne ha
    rw [Function.update_of_ne hna] at ha ⊢
    exact h.le a hna ha
  · have hna := hne ha
    rw [Function.update_of_ne hna] at ha ⊢
    intro hq hlt
    by_cases hqh : q = hole
    · subst hqh
      exfalso
      by_cases hai : dist r a < i
      · have := h.clear a ha hlt hai
        omega
      · rcases hend with hn | ⟨hlti, s, hs, hu⟩
        · have := dist_lt r a
          omega
        · -- The search for `a` would pass the free slot `s`.
          have has : dist r s < dist r a := by
            rcases Nat.lt_or_ge (dist r s) (dist r a) with hl | hg
            · exact hl
            · have : s = a := dist_injective (r := r) (by omega)
              rw [this, ha] at hu
              exact absurd hu (by decide)
          have hsq : s ≠ q := by
            rintro rfl
            omega
          rw [h.path a hna ha s hsq (by omega) has] at hu
          exact absurd hu (by decide)
    · rw [Function.update_of_ne hqh]
      exact h.path a hna ha q hqh hq hlt

theorem skip (h : S.Gap t r hole i) (hs : dist r s = i) (hlt : dist r hole < i)
    (hn : ¬ dist hole s ≤ dist (S.home (S.key (t s))) s) : S.Gap t r hole (i + 1) := by
  refine { h with clear := fun j hj hhj hji => ?_ }
  by_cases hjs : j = s
  · subst hjs
    have hne : j ≠ hole := by
      rintro rfl
      omega
    rw [dist_of_le (r := r) (by omega), dist_of_le (h.le j hne hj)] at hn
    omega
  · refine h.clear j hj hhj ?_
    have : dist r j ≠ i := fun he => hjs (dist_injective (r := r) (by omega))
    omega

theorem move (h : S.Gap t r hole i) (hs : dist r s = i) (hlt : dist r hole < i) (hu : S.used (t s) = true)
    (hm : dist hole s ≤ dist (S.home (S.key (t s))) s) :
    S.Gap (Function.update t hole (t s)) r s (i + 1) := by
  have hsh : s ≠ hole := by
    rintro rfl
    omega
  have hhome : dist r (S.home (S.key (t s))) ≤ dist r hole := by
    have hle := h.le s hsh hu
    rw [dist_of_le (r := r) (by omega), dist_of_le hle] at hm
    omega
  refine ⟨fun a b has hbs => ?_, fun a has => ?_, fun a has => ?_, fun j _ hj hji => ?_⟩
  · by_cases ha : a = hole <;> by_cases hb : b = hole
    · exact fun _ _ _ => ha.trans hb.symm
    · subst ha
      rw [Function.update_self, Function.update_of_ne hb]
      intro ha hb' hk
      exact absurd (h.distinct s b hsh hb ha hb' hk).symm hbs
    · subst hb
      rw [Function.update_self, Function.update_of_ne ha]
      intro ha' hb hk
      exact absurd (h.distinct a s ha hsh ha' hb hk) has
    · rw [Function.update_of_ne ha, Function.update_of_ne hb]
      exact h.distinct a b ha hb
  · by_cases ha : a = hole
    · subst ha
      rw [Function.update_self]
      exact fun _ => hhome
    · rw [Function.update_of_ne ha]
      exact h.le a ha
  · by_cases ha : a = hole
    · subst ha
      rw [Function.update_self]
      intro _ q _ hq hqa
      have hqh : q ≠ a := by
        rintro rfl
        omega
      rw [Function.update_of_ne hqh]
      exact h.path s hsh hu q hqh hq (by omega)
    · rw [Function.update_of_ne ha]
      intro hua q _ hq hqa
      by_cases hqh : q = hole
      · rw [hqh, Function.update_self]
        exact hu
      · rw [Function.update_of_ne hqh]
        exact h.path a ha hua q hqh hq hqa
  · omega

end Gap

namespace Moved

variable {t₀ : Fin n → α} {hole s : Fin n}

omit [NeZero n] in
theorem refl (t : Fin n → α) (j : Fin n) : Moved t j t j :=
  ⟨fun q hq => ⟨q, hq, rfl, le_rfl⟩, fun q hq => ⟨q, hq, rfl⟩⟩

omit [NeZero n] in
theorem move (h : Moved t₀ j t hole) (hsh : s ≠ hole) (hle : dist j hole ≤ dist j s) :
    Moved t₀ j (Function.update t hole (t s)) s where
  origin q hq := by
    by_cases hqh : q = hole
    · subst hqh
      obtain ⟨q₀, hne, heq, hd⟩ := h.origin s hsh
      exact ⟨q₀, hne, by rw [Function.update_self, heq], hle.trans hd⟩
    · rw [Function.update_of_ne hqh]
      exact h.origin q hqh
  target q₀ hq₀ := by
    obtain ⟨q, hq, heq⟩ := h.target q₀ hq₀
    by_cases hqs : q = s
    · subst hqs
      exact ⟨hole, Ne.symm hsh, by rw [Function.update_self, heq]⟩
    · exact ⟨q, hqs, by rw [Function.update_of_ne hq, heq]⟩

end Moved

theorem shift_behind {hole s : Fin n} (hle : ∀ i, i ≠ hole → S.used (t i) = true →
    dist r (S.home (S.key (t i))) ≤ dist r i) {m : ℕ} (hm : dist r s + m ≤ dist r hole) :
    S.shift m t hole s = (t, hole) := by
  induction m generalizing s with
  | zero => rfl
  | succ m ih =>
    have hn := dist_lt r hole
    have hsh : s ≠ hole := by
      rintro rfl
      omega
    rw [shift]
    split
    · rfl
    rename_i hu
    have hstay : ¬ dist hole s ≤ dist (S.home (S.key (t s))) s := by
      rw [dist_of_lt (r := r) (by omega), dist_of_le (hle s hsh (by simpa using hu))]
      omega
    rw [if_neg hstay]
    exact ih (by rw [dist_succ (by omega)]; omega)

theorem shift_spec {t₀ : Fin n → α} {hole s : Fin n} {m : ℕ} (h : S.Gap t r hole (dist r s))
    (hm : Moved t₀ j t hole) (hj : dist r j ≤ dist r hole) (hs : dist r hole < dist r s)
    (hcount : dist r s + m = dist r j + n) :
    S.Ordered (Function.update (S.shift m t hole s).1 (S.shift m t hole s).2 S.empty) r ∧
      Moved t₀ j (S.shift m t hole s).1 (S.shift m t hole s).2 := by
  -- One round after another until the next slot is free or lies behind the origin.
  induction m generalizing t hole s with
  | zero =>
    have := dist_lt r s
    omega
  | succ m ih =>
    have hsn := dist_lt r s
    have hsh : s ≠ hole := by
      rintro rfl
      omega
    rw [shift]
    split
    · rename_i hu
      exact ⟨h.ordered (.inr ⟨hs, s, rfl, by simpa using hu⟩), hm⟩
    rename_i hu
    have hu : S.used (t s) = true := by simpa using hu
    split
    · rename_i hmove
      have hgap := h.move rfl hs hu hmove
      have hmv := hm.move hsh (by rw [dist_of_le hj, dist_of_le (hj.trans hs.le)]; omega)
      rcases Nat.lt_or_ge (dist r s + 1) n with hlt | hge
      · rw [← dist_succ hlt] at hgap
        refine ih hgap hmv (hj.trans hs.le) ?_ ?_ <;> rw [dist_succ hlt] <;> omega
      · rw [dist_succ_last (r := r) (i := s) (by omega), shift_behind hgap.le (by rw [dist_self]; omega)]
        exact ⟨hgap.ordered (.inl hge), hmv⟩
    · rename_i hstay
      have hgap := h.skip rfl hs hstay
      rcases Nat.lt_or_ge (dist r s + 1) n with hlt | hge
      · rw [← dist_succ hlt] at hgap
        refine ih hgap hm hj ?_ ?_ <;> rw [dist_succ hlt] <;> omega
      · rw [dist_succ_last (r := r) (i := s) (by omega), shift_behind hgap.le (by rw [dist_self]; omega)]
        exact ⟨hgap.ordered (.inl hge), hm⟩

omit [NeZero n] in
theorem Ordered.gap (h : S.Ordered t r) (j : Fin n) : S.Gap t r j (dist r j + 1) where
  distinct a b _ _ := h.distinct a b
  le i _ := h.le i
  path i _ hi q _ := h.path i hi q
  clear i _ hji hi := by omega

theorem Ordered.erase_spec (h : S.Ordered t r) (j : Fin n) : S.Ordered (S.erase t j) r ∧
    (∀ q, S.used (S.erase t j q) = true → ∃ q₀, q₀ ≠ j ∧ S.erase t j q = t q₀ ∧ dist j q ≤ dist j q₀) ∧
    ∀ q₀, q₀ ≠ j → ∃ q, S.erase t j q = t q₀ := by
  have hspec : S.Ordered (S.erase t j) r ∧
      Moved t j (S.shift (n - 1) t j (j + 1)).1 (S.shift (n - 1) t j (j + 1)).2 := by
    have hgap := h.gap j
    have hjn := dist_lt r j
    unfold erase
    dsimp only
    rcases Nat.lt_or_ge (dist r j + 1) n with hlt | hge
    · rw [← dist_succ hlt] at hgap
      refine shift_spec hgap (.refl t j) le_rfl ?_ ?_ <;> rw [dist_succ hlt] <;> omega
    · rw [dist_succ_last (r := r) (i := j) (by omega), shift_behind hgap.le (by rw [dist_self]; omega)]
      exact ⟨hgap.ordered (.inl hge), .refl t j⟩
  refine ⟨hspec.1, fun q hq => ?_, fun q₀ hq₀ => ?_⟩
  · unfold erase at hq ⊢
    by_cases hqh : q = (S.shift (n - 1) t j (j + 1)).2
    · rw [hqh, Function.update_self, S.used_empty] at hq
      exact absurd hq (by decide)
    · rw [Function.update_of_ne hqh]
      exact hspec.2.origin q hqh
  · obtain ⟨q, hq, heq⟩ := hspec.2.target q₀ hq₀
    exact ⟨q, by rw [erase, Function.update_of_ne hq, heq]⟩

variable [DecidableEq κ]

def sequence (S : Scheme n α κ) (k : κ) : List (Fin n) := (List.finRange n).map (S.home k + ·)

def probe (S : Scheme n α κ) (t : Fin n → α) (k : κ) : Option (Fin n) :=
  (S.sequence k).find? fun j => !S.used (t j) || decide (S.key (t j) = k)

theorem probe_some (h : S.probe t k = some j) : (S.used (t j) = false ∨ S.key (t j) = k) ∧
    ∀ q, dist (S.home k) q < dist (S.home k) j → S.used (t q) = true ∧ S.key (t q) ≠ k := by
  rw [probe, List.find?_eq_some_iff_append] at h
  obtain ⟨hj, as, bs, hseq, has⟩ := h
  refine ⟨by simpa using hj, fun q hq => ?_⟩
  have hget (i : Fin n) : (S.sequence k)[i.val]? = some (S.home k + i) := by
    simp [sequence]
  have hlen : as.length = dist (S.home k) j := by
    have hlt : as.length < n := by
      have := congrArg List.length hseq
      simp only [sequence, List.length_map, List.length_finRange, List.length_append, List.length_cons] at this
      omega
    have h1 := hget ⟨as.length, hlt⟩
    rw [hseq, List.getElem?_append_right le_rfl] at h1
    simp only [Nat.sub_self, List.getElem?_cons_zero, Option.some.injEq] at h1
    rw [h1, dist_add]
  have hmem : q ∈ as := by
    have h1 := hget ⟨dist (S.home k) q, dist_lt _ _⟩
    rw [add_dist, hseq, List.getElem?_append_left (by simpa [hlen] using hq)] at h1
    exact List.mem_of_getElem? h1
  simpa using has q hmem

theorem probe_none (h : S.probe t k = none) (j : Fin n) : S.used (t j) = true ∧ S.key (t j) ≠ k := by
  rw [probe, List.find?_eq_none] at h
  have hmem : j ∈ S.sequence k := by
    rw [sequence, List.mem_map]
    exact ⟨_, List.mem_finRange _, add_dist (S.home k) j⟩
  simpa using h j hmem

omit [NeZero n] in
theorem probe_update {e : α} (h : S.probe t k = some j) (he : S.key e = k) : S.probe (Function.update t j e) k = some j := by
  rw [probe, List.find?_eq_some_iff_append] at h ⊢
  obtain ⟨hj, as, bs, hseq, has⟩ := h
  refine ⟨by simp [he], as, bs, hseq, ?_⟩
  intro q hq
  have hne : q ≠ j := by
    rintro rfl
    have hq' := has q hq
    rw [hj] at hq'
    cases hq'
  rw [Function.update_of_ne hne]
  exact has q hq

namespace Ordered

theorem probe_of_used (h : S.Ordered t r) (hj : S.used (t j) = true) : S.probe t (S.key (t j)) = some j := by
  cases hp : S.probe t (S.key (t j)) with
  | none => exact absurd rfl (probe_none hp j).2
  | some i =>
    obtain ⟨hi, hbefore⟩ := probe_some hp
    have hle : dist (S.home (S.key (t j))) i ≤ dist (S.home (S.key (t j))) j := by
      by_contra hlt
      exact (hbefore j (by omega)).2 rfl
    rcases Nat.lt_or_ge (dist (S.home (S.key (t j))) i) (dist (S.home (S.key (t j))) j) with hlt | hge
    · have hu := h.reach hj hlt
      rcases hi with hi | hi
      · rw [hu] at hi
        exact absurd hi (by decide)
      · rw [h.distinct i j hu hj hi]
    · rw [dist_injective (le_antisymm hle hge)]

theorem absent_of_probe (h : S.Ordered t r) (hp : S.probe t k = some j) (hj : S.used (t j) = false) (i : Fin n)
    (hi : S.used (t i) = true) : S.key (t i) ≠ k := by
  intro hk
  have := h.probe_of_used hi
  rw [hk, hp] at this
  rw [Option.some.inj this, hi] at hj
  exact absurd hj (by decide)

theorem insert (h : S.Ordered t r) (hp : S.probe t k = some j) (hj : S.used (t j) = false) {e : α}
    (hk : S.key e = k) : S.Ordered (Function.update t j e) (j + 1) := by
  have habsent := h.absent_of_probe hp hj
  have hlast (q : Fin n) : dist (j + 1) q ≤ dist (j + 1) j := by
    have hd : dist (j + 1) j = n - 1 := by
      by_cases hn : dist j j + 1 < n
      · rw [dist_of_lt (r := j) (by rw [dist_succ hn, dist_self]; omega), dist_succ hn, dist_self]
        omega
      · have hn : n = 1 := by
          rw [dist_self] at hn
          have := NeZero.pos n
          omega
        have := dist_lt (j + 1) j
        omega
    have := dist_lt (j + 1) q
    omega
  -- The way from a home to its key avoids the free slot, which is the last one from the new origin.
  have hway (a b : Fin n) (ha : dist a b ≤ dist a j) : dist (j + 1) a ≤ dist (j + 1) b := by
    by_contra hlt
    rw [dist_of_lt (r := j + 1) (by omega), dist_of_le (hlast a)] at ha
    have := dist_lt (j + 1) j
    have := dist_lt (j + 1) a
    omega
  have hold (i : Fin n) (hi : S.used (t i) = true) :
      dist (S.home (S.key (t i))) i ≤ dist (S.home (S.key (t i))) j := by
    by_contra hlt
    rw [h.reach hi (by omega)] at hj
    exact absurd hj (by decide)
  refine ⟨fun a b => ?_, fun a => ?_, fun a => ?_⟩
  · by_cases ha : a = j <;> by_cases hb : b = j
    · exact fun _ _ _ => ha.trans hb.symm
    · subst ha
      simp only [Function.update_self, Function.update_of_ne hb]
      intro _ hu hkey
      exact absurd (hkey.symm.trans hk) (habsent b hu)
    · subst hb
      simp only [Function.update_self, Function.update_of_ne ha]
      intro hu _ hkey
      exact absurd (hkey.trans hk) (habsent a hu)
    · simp only [Function.update_of_ne ha, Function.update_of_ne hb]
      exact h.distinct a b
  · by_cases ha : a = j
    · subst ha
      exact fun _ => hlast _
    · simp only [Function.update_of_ne ha]
      exact fun hu => hway _ _ (hold a hu)
  · by_cases ha : a = j
    · subst ha
      simp only [Function.update_self, hk]
      intro _ q hq hlt
      have hne : q ≠ a := by rintro rfl; omega
      rw [Function.update_of_ne hne]
      refine ((probe_some hp).2 q ?_).1
      rw [dist_of_le hq, dist_of_le (hlast _)]
      omega
    · simp only [Function.update_of_ne ha]
      intro hu q hq hlt
      have hne : q ≠ j := by
        rintro rfl
        have := hlast a
        omega
      rw [Function.update_of_ne hne]
      refine h.reach hu ?_
      rw [dist_of_le hq, dist_of_le (hq.trans hlt.le)]
      omega

end Ordered

def lookup (S : Scheme n α κ) (t : Fin n → α) (k : κ) : Option α :=
  (S.probe t k).bind fun j => if S.used (t j) then some (t j) else none

def keys (S : Scheme n α κ) (t : Fin n → α) : Finset κ :=
  (Finset.univ.filter fun j => S.used (t j) = true).image fun j => S.key (t j)

omit [NeZero n] in
theorem mem_keys : k ∈ S.keys t ↔ ∃ j, S.used (t j) = true ∧ S.key (t j) = k := by simp [keys]

namespace Ordered

theorem lookup_eq_some_iff (h : S.Ordered t r) {e : α} :
    S.lookup t k = some e ↔ ∃ j, t j = e ∧ S.used e = true ∧ S.key e = k := by
  constructor
  · intro hl
    rw [lookup, Option.bind_eq_some_iff] at hl
    obtain ⟨j, hp, he⟩ := hl
    split at he
    · rename_i hu
      obtain rfl := Option.some.inj he
      exact ⟨j, rfl, hu, (probe_some hp).1.resolve_left (by simp [hu])⟩
    · exact absurd he (by simp)
  · rintro ⟨j, rfl, hu, rfl⟩
    simp [lookup, h.probe_of_used hu, hu]

theorem lookup_eq_none_iff (h : S.Ordered t r) : S.lookup t k = none ↔ k ∉ S.keys t := by
  rw [mem_keys, Option.eq_none_iff_forall_ne_some]
  constructor
  · rintro hn ⟨j, hu, hk⟩
    exact hn (t j) (h.lookup_eq_some_iff.mpr ⟨j, rfl, hu, hk⟩)
  · rintro hn e he
    obtain ⟨j, rfl, hu, hk⟩ := h.lookup_eq_some_iff.mp he
    exact hn ⟨j, hu, hk⟩

omit [NeZero n] in
theorem card_keys (h : S.Ordered t r) :
    (S.keys t).card = (Finset.univ.filter fun j => S.used (t j) = true).card := by
  apply Finset.card_image_of_injOn
  intro i hi j hj hk
  simp only [Finset.coe_filter, Finset.mem_univ, true_and, Set.mem_ofPred_eq] at hi hj
  exact h.distinct i j hi hj hk

theorem probe_eq_none_iff (h : S.Ordered t r) :
    S.probe t k = none ↔ S.lookup t k = none ∧ (S.keys t).card = n := by
  rw [h.card_keys, h.lookup_eq_none_iff]
  constructor
  · intro hp
    have hall := probe_none hp
    refine ⟨fun hk => ?_, ?_⟩
    · obtain ⟨j, -, hk⟩ := mem_keys.mp hk
      exact (hall j).2 hk
    · rw [Finset.filter_true_of_mem fun j _ => (hall j).1, Finset.card_univ, Fintype.card_fin]
  · rintro ⟨hk, hcard⟩
    have hall (j : Fin n) : S.used (t j) = true := by
      have huniv : (Finset.univ.filter fun j => S.used (t j) = true) = Finset.univ :=
        Finset.eq_univ_of_card _ (by rw [hcard, Fintype.card_fin])
      have := huniv ▸ Finset.mem_univ j
      simpa using this
    cases hp : S.probe t k with
    | none => rfl
    | some j => exact absurd (mem_keys.mpr ⟨j, hall j, (probe_some hp).1.resolve_left (by simp [hall j])⟩) hk

theorem lookup_update {r' : Fin n} (h : S.Ordered t r) {e : α} (h' : S.Ordered (Function.update t j e) r')
    (hj : S.used (t j) = true → S.key (t j) = k) (he : S.used e = true) (hk : S.key e = k) :
    S.lookup (Function.update t j e) = Function.update (S.lookup t) k (some e) := by
  funext k'
  by_cases hkk : k' = k
  · subst hkk
    rw [Function.update_self, h'.lookup_eq_some_iff]
    exact ⟨j, Function.update_self .., he, hk⟩
  · rw [Function.update_of_ne hkk]
    apply Option.ext
    intro e'
    rw [h'.lookup_eq_some_iff, h.lookup_eq_some_iff]
    constructor
    · rintro ⟨i, hi, hu, hk'⟩
      have hij : i ≠ j := by
        rintro rfl
        rw [Function.update_self] at hi
        exact hkk (by rw [← hk', ← hi, hk])
      exact ⟨i, by rw [← hi, Function.update_of_ne hij], hu, hk'⟩
    · rintro ⟨i, rfl, hu, hk'⟩
      have hij : i ≠ j := by
        rintro rfl
        exact hkk (hk'.symm.trans (hj hu))
      exact ⟨i, Function.update_of_ne hij .., hu, hk'⟩

theorem lookup_erase (h : S.Ordered t r) (hj : S.used (t j) = true) :
    S.lookup (S.erase t j) = Function.update (S.lookup t) (S.key (t j)) none := by
  obtain ⟨h', horigin, htarget⟩ := h.erase_spec j
  funext k'
  apply Option.ext
  intro e
  rw [h'.lookup_eq_some_iff]
  constructor
  · rintro ⟨q, rfl, hu, hk⟩
    obtain ⟨q₀, hne, heq, -⟩ := horigin q hu
    rw [heq] at hu hk ⊢
    have hkk : k' ≠ S.key (t j) := fun hkk => hne (h.distinct q₀ j hu hj (hk.trans hkk))
    rw [Function.update_of_ne hkk, h.lookup_eq_some_iff]
    exact ⟨q₀, rfl, hu, hk⟩
  · intro he
    by_cases hkk : k' = S.key (t j)
    · rw [hkk, Function.update_self] at he
      exact absurd he (by simp)
    · rw [Function.update_of_ne hkk, h.lookup_eq_some_iff] at he
      obtain ⟨q₀, rfl, hu, hk⟩ := he
      have hne : q₀ ≠ j := by
        rintro rfl
        exact hkk hk.symm
      obtain ⟨q, hq⟩ := htarget q₀ hne
      exact ⟨q, hq, hu, hk⟩

theorem keys_erase (h : S.Ordered t r) (hj : S.used (t j) = true) :
    S.keys (S.erase t j) = (S.keys t).erase (S.key (t j)) := by
  ext k'
  rw [← not_iff_not, ← (h.erase_spec j).1.lookup_eq_none_iff, h.lookup_erase hj, Finset.mem_erase]
  by_cases hkk : k' = S.key (t j)
  · simp [hkk]
  · rw [Function.update_of_ne hkk, h.lookup_eq_none_iff]
    simp [hkk]

end Ordered

theorem index_lt {q q₀ : Fin n} (hq : q.val < j.val) (hd : dist j q ≤ dist j q₀) : q₀.val < j.val := by
  have hz (i : Fin n) : dist 0 i = i.val := by simp [dist]
  by_contra hge
  have h1 := dist_of_lt (r := 0) (a := j) (b := q) (by rw [hz, hz]; exact hq)
  have h2 := dist_of_le (r := 0) (a := j) (b := q₀) (by rw [hz, hz]; omega)
  rw [hz, hz] at h1 h2
  have := q₀.isLt
  omega

end Scheme

end LinearProbing
