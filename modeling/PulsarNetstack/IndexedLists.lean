import Mathlib.Data.List.Forall2

namespace List

variable {α β : Type*}

theorem getElem?_of_findIdx? {p : α → Bool} {l : List α} {i : ℕ} (h : l.findIdx? p = some i) :
    ∃ x, l[i]? = some x ∧ p x = true := by
  obtain ⟨hi, hp, -⟩ := List.findIdx?_eq_some_iff_getElem.mp h
  exact ⟨l[i], List.getElem?_eq_getElem hi, hp⟩

theorem set_getElem?_eq_self {l : List α} {i : ℕ} {x : α} (h : l[i]? = some x) : l.set i x = l := by
  obtain ⟨hi, rfl⟩ := List.getElem?_eq_some_iff.mp h
  exact List.set_getElem_self hi

theorem forall₂_refl_of {R : α → α → Prop} (hr : ∀ x, R x x) (l : List α) : Forall₂ R l l := by
  induction l with
  | nil => exact .nil
  | cons x l ih => exact .cons (hr x) ih

theorem forall₂_set {R : α → α → Prop} (hr : ∀ x, R x x) {l : List α} {i : ℕ} {x y : α}
    (hx : l[i]? = some x) (h : R x y) : Forall₂ R l (l.set i y) := by
  induction l generalizing i with
  | nil => simp at hx
  | cons z l ih =>
    cases i with
    | zero =>
      obtain rfl : z = x := by simpa using hx
      exact .cons h (forall₂_refl_of hr l)
    | succ i => exact .cons (hr z) (ih (by simpa using hx))

theorem Forall₂.set_right {R : α → β → Prop} {l : List α} {m : List β} (h : Forall₂ R l m) (i : ℕ) {y : β}
    (hy : ∀ x, R x y) : Forall₂ R l (m.set i y) := by
  induction h generalizing i with
  | nil => exact .nil
  | cons hr hm ih =>
    cases i with
    | zero => exact .cons (hy _) hm
    | succ i => exact .cons hr (ih i)

theorem forall₂_map_right_of_mem {R : α → β → Prop} {f : α → β} {l : List α} (h : ∀ x ∈ l, R x (f x)) :
    Forall₂ R l (l.map f) := by
  induction l with
  | nil => exact .nil
  | cons x l ih => exact .cons (h x mem_cons_self) (ih fun y hy => h y (mem_cons_of_mem x hy))

theorem forall₂_map_right_of {R : α → α → Prop} {f : α → α} (h : ∀ x, R x (f x)) (l : List α) :
    Forall₂ R l (l.map f) :=
  forall₂_map_right_of_mem fun x _ => h x

theorem Forall₂.mem_right {R : α → β → Prop} {l : List α} {m : List β} (h : Forall₂ R l m) {y : β}
    (hy : y ∈ m) : ∃ x ∈ l, R x y := by
  induction h with
  | nil => simp at hy
  | cons hr _ ih =>
    rcases mem_cons.mp hy with rfl | hy
    · exact ⟨_, mem_cons_self, hr⟩
    · obtain ⟨x, hx, hxy⟩ := ih hy
      exact ⟨x, mem_cons_of_mem _ hx, hxy⟩

theorem Forall₂.pairwise {R : α → β → Prop} {Q : α → α → Prop} {S : β → β → Prop} {l : List α} {m : List β}
    (h : Forall₂ R l m) (hl : l.Pairwise Q) (hS : ∀ x y x' y', R x x' → R y y' → Q x y → S x' y') : m.Pairwise S := by
  induction h with
  | nil => exact .nil
  | cons hr hm ih =>
    obtain ⟨hx, hl⟩ := pairwise_cons.mp hl
    refine pairwise_cons.mpr ⟨fun y' hy' => ?_, ih hl⟩
    obtain ⟨y, hy, hyy⟩ := hm.mem_right hy'
    exact hS _ y _ y' hr hyy (hx y hy)

theorem Forall₂.getElem?_right {R : α → β → Prop} {l : List α} {m : List β} (h : Forall₂ R l m) {i : ℕ} {y : β}
    (hy : m[i]? = some y) : ∃ x, l[i]? = some x ∧ R x y := by
  induction h generalizing i with
  | nil => simp at hy
  | cons hr _ ih =>
    cases i with
    | zero =>
      obtain rfl := Option.some.inj hy
      exact ⟨_, rfl, hr⟩
    | succ i => exact ih hy

theorem getElem?_set_cases {l : List α} {i j : ℕ} {y z : α} (h : (l.set i z)[j]? = some y) :
    j = i ∧ y = z ∨ j ≠ i ∧ l[j]? = some y := by
  by_cases hji : j = i
  · subst hji
    by_cases hlt : j < l.length
    · rw [List.getElem?_set_self hlt] at h
      exact .inl ⟨rfl, (Option.some.inj h).symm⟩
    · rw [List.getElem?_eq_none (by simpa using hlt)] at h
      simp at h
  · rw [List.getElem?_set_ne (Ne.symm hji)] at h
    exact .inr ⟨hji, h⟩

theorem countP_le_of_getElem? {p : α → Bool} {l m : List α} (hlen : m.length = l.length)
    (h : ∀ (i : ℕ) (x y : α), l[i]? = some x → m[i]? = some y → p y = true → p x = true) : m.countP p ≤ l.countP p := by
  induction l generalizing m with
  | nil =>
    obtain rfl : m = [] := List.length_eq_zero_iff.mp hlen
    exact Nat.le_refl _
  | cons x l ih =>
    cases m with
    | nil => exact Nat.zero_le _
    | cons y m =>
      have hrest := ih (Nat.succ.inj hlen) fun i x y hx hy => h (i + 1) x y hx hy
      have hhead := h 0 x y rfl rfl
      rw [countP_cons, countP_cons]
      by_cases hy : p y = true
      · rw [if_pos hy, if_pos (hhead hy)]
        omega
      · rw [if_neg hy]
        omega

def Apart (R : α → α → Prop) (l : List α) : Prop :=
  ∀ (i j : ℕ) (x y : α), i ≠ j → l[i]? = some x → l[j]? = some y → R x y

theorem Apart.set {R : α → α → Prop} {l : List α} (hl : l.Apart R) (hsymm : ∀ x y, R x y → R y x) {i : ℕ} {z : α}
    (hz : ∀ j y, j ≠ i → l[j]? = some y → R z y) : (l.set i z).Apart R := by
  intro a b x y hab hx hy
  rcases getElem?_set_cases hx with ⟨rfl, rfl⟩ | ⟨ha, hx'⟩ <;> rcases getElem?_set_cases hy with ⟨rfl, rfl⟩ | ⟨hb, hy'⟩
  · exact absurd rfl hab
  · exact hz b y hb hy'
  · exact hsymm _ _ (hz a x ha hx')
  · exact hl a b x y hab hx' hy'

theorem Apart.of_forall₂ {R Q : α → α → Prop} {l m : List α} (hl : l.Apart R) (h : Forall₂ Q l m)
    (hR : ∀ x y x' y', R x y → Q x x' → Q y y' → R x' y') : m.Apart R := by
  intro i j x' y' hij hx hy
  obtain ⟨x, hx, hxx⟩ := h.getElem?_right hx
  obtain ⟨y, hy, hyy⟩ := h.getElem?_right hy
  exact hR x y x' y' (hl i j x y hij hx hy) hxx hyy

theorem Apart.of_cons {R : α → α → Prop} {x : α} {l : List α} (h : (x :: l).Apart R) :
    l.Apart R ∧ ∀ y ∈ l, R x y := by
  refine ⟨fun i j a b hij ha hb => h (i + 1) (j + 1) a b (by omega) ha hb, fun y hy => ?_⟩
  obtain ⟨i, hi⟩ := List.mem_iff_getElem?.mp hy
  exact h 0 (i + 1) x y (by omega) rfl hi

theorem Apart.countP_le_one {p : α → Bool} {l : List α} (h : l.Apart fun x y => p x = true → p y = false) :
    l.countP p ≤ 1 := by
  induction l with
  | nil => simp
  | cons x l ih =>
    obtain ⟨hl, hx⟩ := h.of_cons
    by_cases hp : p x = true
    · have hz : l.countP p = 0 := List.countP_eq_zero.mpr fun y hy => by simp [hx y hy hp]
      simp [hp, hz]
    · rw [List.countP_cons_of_neg hp]
      exact ih hl

theorem Perm.find?_eq_of_countP_le_one {p : α → Bool} {l m : List α} (h : l.Perm m) (hp : l.countP p ≤ 1) :
    m.find? p = l.find? p := by
  have hf : (l.filter p).Perm (m.filter p) := h.filter p
  rw [List.countP_eq_length_filter] at hp
  rw [← List.head?_filter, ← List.head?_filter]
  match hl : l.filter p, hm : m.filter p with
  | [], [] => rfl
  | [], y :: _ => rw [hl, hm] at hf; exact absurd hf.length_eq (by simp)
  | x :: _, [] => rw [hl, hm] at hf; exact absurd hf.length_eq (by simp)
  | [x], [y] => rw [hl, hm] at hf; rw [List.singleton_perm_singleton.mp hf]
  | [x], _ :: _ :: _ => rw [hl, hm] at hf; exact absurd hf.length_eq (by simp)
  | _ :: _ :: _, _ => rw [hl] at hp; simp at hp

def lowerBound (l : List α) (below : α → Bool) : ℕ → ℕ → ℕ → ℕ
  | 0, first, _ => first
  | fuel + 1, first, last =>
    if first < last then
      let mid := first + (last - first) / 2
      if l[mid]?.any below then lowerBound l below fuel (mid + 1) last else lowerBound l below fuel first mid
    else first

theorem lowerBound_spec {l : List α} {below : α → Bool} (hs : l.Pairwise fun a b => below b = true → below a = true)
    {fuel first last : ℕ} (hf : first ≤ last) (hl : last ≤ l.length) (hfuel : last - first < fuel)
    (hlow : ∀ k < first, ∀ a, l[k]? = some a → below a = true)
    (hhigh : ∀ k ≥ last, ∀ a, l[k]? = some a → below a = false) :
    (∀ k < lowerBound l below fuel first last, ∀ a, l[k]? = some a → below a = true) ∧
      ∀ k ≥ lowerBound l below fuel first last, ∀ a, l[k]? = some a → below a = false := by
  induction fuel generalizing first last with
  | zero => omega
  | succ fuel ih =>
    rw [lowerBound]
    by_cases hlt : first < last
    · rw [if_pos hlt]
      dsimp only
      obtain ⟨mid, hm, h1, h2⟩ : ∃ mid, mid = first + (last - first) / 2 ∧ first ≤ mid ∧ mid < last :=
        ⟨_, rfl, by omega, by omega⟩
      rw [← hm]
      have hmid : mid < l.length := by omega
      have hget : l[mid]? = some l[mid] := List.getElem?_eq_getElem hmid
      have hmono {i j : ℕ} (hij : i < j) {a b : α} (ha : l[i]? = some a) (hb : l[j]? = some b) :
          below b = true → below a = true := by
        obtain ⟨hi, rfl⟩ := List.getElem?_eq_some_iff.mp ha
        obtain ⟨hj, rfl⟩ := List.getElem?_eq_some_iff.mp hb
        exact List.pairwise_iff_getElem.mp hs i j hi hj hij
      rw [hget, Option.any_some]
      by_cases hbelow : below l[mid] = true
      · rw [if_pos hbelow]
        refine ih h2 hl (by omega) (fun k hk a ha => ?_) hhigh
        rcases Nat.lt_or_ge k mid with hkm | hkm
        · exact hmono hkm ha hget hbelow
        · obtain rfl : k = mid := by omega
          rw [hget] at ha
          exact Option.some.inj ha ▸ hbelow
      · rw [if_neg hbelow]
        refine ih h1 (Nat.le_of_lt hmid) (by omega) hlow fun k hk a ha => ?_
        rcases Nat.lt_or_ge mid k with hkm | hkm
        · exact eq_false_of_ne_true fun h => hbelow (hmono hkm hget ha h)
        · obtain rfl : k = mid := by omega
          rw [hget] at ha
          exact Option.some.inj ha ▸ eq_false_of_ne_true hbelow
    · rw [if_neg hlt]
      obtain rfl : first = last := by omega
      exact ⟨hlow, hhigh⟩

end List
