import Mathlib.Data.List.Sort

namespace KeyedSort

variable {α β : Type} [LE β] {k : α → β} {l l' : List α} {a : α}

theorem eq_of_sorted [Std.IsLinearOrder β] (hl : l.Pairwise fun a b => k a ≤ k b)
    (hl' : l'.Pairwise fun a b => k a ≤ k b) (hperm : l.Perm l') (hkeys : (l.map k).Nodup) : l = l' := by
  refine List.Perm.eq_of_pairwise (fun a b ha hb hab hba => ?_) hl hl' hperm
  exact List.inj_on_of_nodup_map hkeys ha (hperm.mem_iff.mpr hb) (Std.le_antisymm hab hba)

variable [DecidableLE β]

def sortOn (k : α → β) (l : List α) : List α := l.mergeSort fun a b => decide (k a ≤ k b)

theorem sortOn_perm (l : List α) : (sortOn k l).Perm l := List.mergeSort_perm _ _

theorem mem_sortOn : a ∈ sortOn k l ↔ a ∈ l := (sortOn_perm l).mem_iff

theorem length_sortOn (l : List α) : (sortOn k l).length = l.length := (sortOn_perm l).length_eq

theorem nodup_sortOn (h : (l.map k).Nodup) : ((sortOn k l).map k).Nodup := ((sortOn_perm l).map k).nodup_iff.mpr h

variable [Std.IsLinearOrder β]

theorem sortOn_sorted (l : List α) : (sortOn k l).Pairwise fun a b => k a ≤ k b := by
  have hsorted : (sortOn k l).Pairwise fun a b => decide (k a ≤ k b) = true := by
    apply List.pairwise_mergeSort
    · intro a b c hab hbc
      rw [decide_eq_true_eq] at hab hbc ⊢
      exact Std.le_trans hab hbc
    · intro a b
      rw [Bool.or_eq_true, decide_eq_true_eq, decide_eq_true_eq]
      exact Std.le_total
  exact hsorted.imp fun hab => of_decide_eq_true hab

theorem sortOn_eq_of_perm (h : l.Perm l') (hkeys : (l.map k).Nodup) : sortOn k l = sortOn k l' :=
  eq_of_sorted (sortOn_sorted l) (sortOn_sorted l') (((sortOn_perm l).trans h).trans (sortOn_perm l').symm)
    (nodup_sortOn hkeys)

theorem sortOn_concat (hkeys : ((l ++ [a]).map k).Nodup) : sortOn k (sortOn k l ++ [a]) = sortOn k (l ++ [a]) := by
  have hperm : (sortOn k l ++ [a]).Perm (l ++ [a]) := (sortOn_perm l).append_right [a]
  exact sortOn_eq_of_perm hperm ((hperm.map k).nodup_iff.mpr hkeys)

theorem sortOn_pairwise {R : α → α → Prop} (hkeys : (l.map k).Nodup)
    (hR : ∀ a b, k a ≤ k b → k a ≠ k b → R a b) : (sortOn k l).Pairwise R := by
  have hne : (sortOn k l).Pairwise fun a b => k a ≠ k b := List.pairwise_map.mp (nodup_sortOn hkeys)
  exact ((sortOn_sorted l).and hne).imp fun h => hR _ _ h.1 h.2

end KeyedSort
