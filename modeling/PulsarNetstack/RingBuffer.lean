import Mathlib.Data.Fin.Basic
import Mathlib.Data.List.Basic
import Mathlib.Data.Nat.ModEq
import Mathlib.Logic.Function.Basic

universe u

@[ext] structure RingBuffer (α : Type u) (n : ℕ) [NeZero n] where
  slots : Fin n → α
  head : Fin n
  tail : Fin n
  count : ℕ
  count_le : count ≤ n
  tail_eq : tail.val = (head.val + count) % n

namespace RingBuffer

variable {α : Type u} {n : ℕ} [NeZero n] {r r' : RingBuffer α n} {a : α}

def cell (r : RingBuffer α n) (i : ℕ) : Fin n := ⟨(r.head.val + i) % n, Nat.mod_lt _ (Nat.pos_of_neZero n)⟩

def toList (r : RingBuffer α n) : List α := (List.range r.count).map fun i => r.slots (r.cell i)

def empty (a : α) : RingBuffer α n where
  slots _ := a
  head := ⟨0, Nat.pos_of_neZero n⟩
  tail := ⟨0, Nat.pos_of_neZero n⟩
  count := 0
  count_le := Nat.zero_le n
  tail_eq := (Nat.zero_mod n).symm

def push (r : RingBuffer α n) (a : α) : Option (RingBuffer α n) :=
  if h : r.count = n then none
  else some
    { r with
      slots := Function.update r.slots r.tail a
      tail := ⟨(r.tail.val + 1) % n, Nat.mod_lt _ (Nat.pos_of_neZero n)⟩
      count := r.count + 1
      count_le := by have := r.count_le; omega
      tail_eq := by
        change (r.tail.val + 1) % n = _
        rw [r.tail_eq, Nat.mod_add_mod, Nat.add_assoc] }

def pop (r : RingBuffer α n) : Option (α × RingBuffer α n) :=
  if h : r.count = 0 then none
  else some (r.slots r.head,
    { r with
      head := ⟨(r.head.val + 1) % n, Nat.mod_lt _ (Nat.pos_of_neZero n)⟩
      count := r.count - 1
      count_le := by have := r.count_le; omega
      tail_eq := by
        change r.tail.val = ((r.head.val + 1) % n + (r.count - 1)) % n
        rw [r.tail_eq, Nat.mod_add_mod, show r.head.val + 1 + (r.count - 1) = r.head.val + r.count by omega] })

@[simp] theorem length_toList (r : RingBuffer α n) : r.toList.length = r.count := by
  rw [toList, List.length_map, List.length_range]

theorem push_eq_none_iff : r.push a = none ↔ r.toList.length = n := by
  rw [length_toList, push]
  by_cases h : r.count = n <;> simp [h]

theorem cell_ne_tail {i : ℕ} (hi : i < r.count) (h : r.count ≠ n) : r.cell i ≠ r.tail := by
  intro he
  have hmod : r.head.val + i ≡ r.head.val + r.count [MOD n] := (congrArg Fin.val he).trans r.tail_eq
  have hlt : r.count < n := lt_of_le_of_ne r.count_le h
  exact Nat.ne_of_lt hi ((hmod.add_left_cancel' _).eq_of_lt_of_lt (hi.trans hlt) hlt)

theorem toList_push (h : r.push a = some r') : r'.toList = r.toList ++ [a] := by
  unfold push at h
  split at h
  · cases h
  · rename_i hn
    obtain rfl := Option.some.inj h
    rw [toList, List.range_succ, List.map_append, List.map_singleton]
    congr 1
    · apply List.map_congr_left
      intro i hi
      exact Function.update_of_ne (cell_ne_tail (List.mem_range.mp hi) hn) a r.slots
    · have he : r.cell r.count = r.tail := Fin.ext r.tail_eq.symm
      exact congrArg (· :: []) ((congrArg (Function.update r.slots r.tail a) he).trans (Function.update_self ..))

theorem toList_pop (h : r.pop = some (a, r')) : r.toList = a :: r'.toList := by
  unfold pop at h
  split at h
  · cases h
  · rename_i hn
    obtain ⟨rfl, rfl⟩ := Prod.mk.inj (Option.some.inj h)
    have hrange : List.range r.count = 0 :: (List.range (r.count - 1)).map Nat.succ := by
      rw [← List.range_succ_eq_map, Nat.sub_add_cancel (Nat.one_le_iff_ne_zero.mpr hn)]
    rw [toList, hrange, List.map_cons, List.map_map]
    congr 1
    · exact congrArg r.slots (Fin.ext (Nat.mod_eq_of_lt r.head.isLt))
    · apply List.map_congr_left
      intro i _
      apply congrArg r.slots
      apply Fin.ext
      change (r.head.val + (i + 1)) % n = ((r.head.val + 1) % n + i) % n
      rw [Nat.mod_add_mod, Nat.add_assoc, Nat.add_comm 1 i]

theorem pop_eq_none_iff : r.pop = none ↔ r.toList = [] := by
  rw [← List.length_eq_zero_iff, length_toList, pop]
  by_cases h : r.count = 0 <;> simp [h]

end RingBuffer
