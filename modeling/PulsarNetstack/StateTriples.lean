import Mathlib.Logic.Relation

universe u

abbrev Program (σ : Type u) (α : Type u) := StateT σ Option α

namespace Program

variable {σ α β ι : Type u} {step : σ → σ → Prop} {P P' : σ → Prop} {Q Q' : α → σ → Prop} {R : β → σ → Prop}

theorem bind_run (x : Program σ α) (f : α → Program σ β) (s : σ) : (x >>= f) s = (x s).bind fun p => f p.1 p.2 := rfl

theorem get_bind_run (f : σ → Program σ α) (s : σ) : (get >>= f) s = f s s := rfl

def Triple (step : σ → σ → Prop) (P : σ → Prop) (x : Program σ α) (Q : α → σ → Prop) : Prop :=
  ∀ s, P s → ∃ a s', x s = some (a, s') ∧ Relation.ReflTransGen step s s' ∧ Q a s'

namespace Triple

theorem pure {a : α} (h : ∀ s, P s → Q a s) : Triple step P (pure a) Q := by
  intro s hs
  exact ⟨a, s, rfl, .refl, h s hs⟩

theorem bind {x : Program σ α} {f : α → Program σ β} (hx : Triple step P x Q)
    (hf : ∀ a, Triple step (Q a) (f a) R) : Triple step P (x >>= f) R := by
  intro s hs
  obtain ⟨a, s', hx', hsteps, hq⟩ := hx s hs
  obtain ⟨b, t, hf', hsteps', hr⟩ := hf a s' hq
  refine ⟨b, t, ?_, hsteps.trans hsteps', hr⟩
  change (x s).bind _ = _
  rw [hx']
  exact hf'

theorem conseq {x : Program σ α} (h : Triple step P x Q) (hP : ∀ s, P' s → P s) (hQ : ∀ a s, Q a s → Q' a s) :
    Triple step P' x Q' := by
  intro s hs
  obtain ⟨a, s', hx, hsteps, hq⟩ := h s (hP s hs)
  exact ⟨a, s', hx, hsteps, hQ a s' hq⟩

theorem ite {p : Prop} [Decidable p] {x y : Program σ α} (hx : p → Triple step P x Q) (hy : ¬ p → Triple step P y Q) :
    Triple step P (if p then x else y) Q := by
  split
  · exact hx ‹_›
  · exact hy ‹_›

theorem get_bind {x : σ → Program σ α} (h : ∀ t, P t → Triple step (fun s => s = t) (x t) Q) :
    Triple step P (get >>= x) Q := by
  intro s hs
  exact h s hs s rfl

theorem peek {x : σ → Program σ α} (h : ∀ t, P t → Triple step P (x t) Q) : Triple step P (get >>= x) Q := by
  intro s hs
  exact h s hs s hs

theorem set {t : σ} {Q : PUnit → σ → Prop} (h : ∀ s, P s → step s t ∧ Q ⟨⟩ t) : Triple step P (set t) Q := by
  intro s hs
  exact ⟨⟨⟩, t, rfl, .single (h s hs).1, (h s hs).2⟩

theorem modify {f : σ → σ} {Q : PUnit → σ → Prop} (h : ∀ s, P s → step s (f s) ∧ Q ⟨⟩ (f s)) :
    Triple step P (fun s => some (⟨⟩, f s)) Q := by
  intro s hs
  exact ⟨⟨⟩, f s, rfl, .single (h s hs).1, (h s hs).2⟩

end Triple

structure Safe (P : σ → Prop) (x : Program σ α) (Q : α → σ → Prop) : Prop where
  post : ∀ s a s', P s → x s = some (a, s') → Q a s'

namespace Safe

theorem pure {a : α} (h : ∀ s, P s → Q a s) : Safe P (pure a) Q := by
  refine ⟨fun s b s' hs hx => ?_⟩
  obtain ⟨rfl, rfl⟩ := Prod.mk.inj (Option.some.inj hx)
  exact h s hs

theorem bind {x : Program σ α} {f : α → Program σ β} (hx : Safe P x Q) (hf : ∀ a, Safe (Q a) (f a) R) :
    Safe P (x >>= f) R := by
  refine ⟨fun s b s' hs hrun => ?_⟩
  change (x s).bind _ = _ at hrun
  obtain ⟨⟨a, t⟩, hxs, hft⟩ := Option.bind_eq_some_iff.mp hrun
  exact (hf a).post t b s' (hx.post s a t hs hxs) hft

theorem conseq {x : Program σ α} (h : Safe P x Q) (hP : ∀ s, P' s → P s) (hQ : ∀ a s, Q a s → Q' a s) :
    Safe P' x Q' :=
  ⟨fun s a s' hs hx => hQ a s' (h.post s a s' (hP s hs) hx)⟩

theorem ite {p : Prop} [Decidable p] {x y : Program σ α} (hx : p → Safe P x Q) (hy : ¬ p → Safe P y Q) :
    Safe P (if p then x else y) Q := by
  split
  · exact hx ‹_›
  · exact hy ‹_›

theorem get_bind {x : σ → Program σ α} (h : ∀ t, P t → Safe (fun s => s = t) (x t) Q) : Safe P (get >>= x) Q :=
  ⟨fun s a s' hs hx => (h s hs).post s a s' rfl hx⟩

theorem peek {x : σ → Program σ α} (h : ∀ t, P t → Safe P (x t) Q) : Safe P (get >>= x) Q :=
  ⟨fun s a s' hs hx => (h s hs).post s a s' hs hx⟩

theorem given {p : Prop} {x : Program σ α} (h : p → Safe P x Q) : Safe (fun s => P s ∧ p) x Q :=
  ⟨fun s a s' hs hx => (h hs.2).post s a s' hs.1 hx⟩

theorem modify {f : σ → σ} {Q : PUnit → σ → Prop} (h : ∀ s, P s → Q ⟨⟩ (f s)) :
    Safe P (fun s => some (⟨⟩, f s)) Q := by
  refine ⟨fun s a s' hs hx => ?_⟩
  obtain ⟨rfl, rfl⟩ := Prod.mk.inj (Option.some.inj hx)
  exact h s hs

theorem set {t : σ} {Q : PUnit → σ → Prop} (h : ∀ s, P s → Q ⟨⟩ t) : Safe P (set t) Q :=
  modify h

theorem forM {f : ι → Program σ PUnit} {l : List ι} (h : ∀ i ∈ l, Safe P (f i) fun _ => P) :
    Safe P (l.forM f) fun _ => P := by
  induction l with
  | nil => exact pure fun s hs => hs
  | cons i l ih => exact bind (h i List.mem_cons_self) fun _ => ih fun j hj => h j (List.mem_cons_of_mem i hj)

end Safe

end Program
