import Mathlib.Data.Nat.Basic

inductive Fault
  | bounds (offset length size : ℕ)
  | wrap (a b : ℕ)
  | null
  deriving DecidableEq, Repr

abbrev Checked := Except Fault

namespace Checked

variable {α β : Type} {size offset length limit a b : ℕ}

def access (size offset length : ℕ) : Checked Unit :=
  if offset + length ≤ size then .ok () else .error (.bounds offset length size)

def sub (limit a b : ℕ) : Checked ℕ := if b ≤ a ∧ a - b < limit then .ok (a - b) else .error (.wrap a b)

def deref : Option α → Checked α
  | some a => .ok a
  | none => .error .null

theorem ok_bind (x : α) (k : α → Checked β) : ((.ok x : Checked α) >>= k) = k x := rfl

theorem access_bind (h : offset + length ≤ size) (k : Unit → Checked β) : (access size offset length >>= k) = k () := by
  rw [access, if_pos h]
  rfl

theorem sub_bind (hle : b ≤ a) (hlimit : a - b < limit) (k : ℕ → Checked β) : (sub limit a b >>= k) = k (a - b) := by
  rw [sub, if_pos ⟨hle, hlimit⟩]
  rfl

theorem deref_bind {p : Option α} {x : α} (h : p = some x) (k : α → Checked β) : (deref p >>= k) = k x := by
  rw [h]
  rfl

section Branches

variable {c d e : Prop} [Decidable c] [Decidable d] [Decidable e] {x z : α} {y : Checked α}

theorem ite_ok (h : ¬ c → y = .ok z) : (if c then .ok x else y) = .ok (if c then x else z) := by
  split
  · rfl
  · rename_i hc
    exact h hc

theorem ite_or_ok (he : e ↔ c ∨ d) (h : ¬ c → y = .ok (if d then x else z)) :
    (if c then .ok x else y) = .ok (if e then x else z) := by
  by_cases hc : c
  · rw [if_pos hc, if_pos (he.mpr (.inl hc))]
  · rw [if_neg hc, h hc]
    have hed : e ↔ d := he.trans (or_iff_right hc)
    simp only [hed]

theorem or_ok {p q : Bool} {y : Checked Bool} (h : p = false → y = .ok q) :
    (if p then .ok true else y) = .ok (p || q) := by
  cases p with
  | true => rfl
  | false => exact h rfl

end Branches

end Checked
