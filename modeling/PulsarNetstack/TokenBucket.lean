import Mathlib.Algebra.Order.Group.Nat
import Mathlib.Data.List.Basic
import Mathlib.Logic.Function.Iterate

/-- A bucket that holds at most `burst` tokens and gains one at each instant `start + k * interval`. -/
structure TokenBucket where
  burst : ℕ
  interval : ℕ
  start : ℕ
  positive : 0 < interval

namespace TokenBucket

def decisions {σ α : Type} (step : σ → α → σ × Bool) : σ → List α → List Bool
  | _, [] => []
  | s, a :: l => (step s a).2 :: decisions step (step s a).1 l

def granted (a b : ℕ) (times : List ℕ) (answers : List Bool) : ℕ :=
  (times.zip answers).countP fun p => decide (a ≤ p.1 ∧ p.1 ≤ b) && p.2

structure Level where
  tokens : ℕ
  instants : ℕ

variable (bucket : TokenBucket)

def instantsBefore (t : ℕ) : ℕ := (t - bucket.start) / bucket.interval

def gain (tokens : ℕ) : ℕ := min (tokens + 1) bucket.burst

def tokensAt (s : Level) (t : ℕ) : ℕ := bucket.gain^[bucket.instantsBefore t - s.instants] s.tokens

def take (s : Level) (t : ℕ) : Level × Bool :=
  (⟨bucket.tokensAt s t - 1, bucket.instantsBefore t⟩, decide (0 < bucket.tokensAt s t))

def full : Level := ⟨bucket.burst, 0⟩

variable {bucket} {s : Level} {a b t : ℕ} {times : List ℕ}

theorem gain_iterate {tokens : ℕ} (h : tokens ≤ bucket.burst) (n : ℕ) :
    bucket.gain^[n] tokens = min (tokens + n) bucket.burst := by
  induction n with
  | zero => exact (Nat.min_eq_left h).symm
  | succ n ih =>
    rw [Function.iterate_succ_apply', ih, gain]
    omega

theorem tokensAt_eq (h : s.tokens ≤ bucket.burst) :
    bucket.tokensAt s t = min (s.tokens + (bucket.instantsBefore t - s.instants)) bucket.burst :=
  gain_iterate h _

theorem take_tokens_le (h : s.tokens ≤ bucket.burst) : (bucket.take s t).1.tokens ≤ bucket.burst := by
  change bucket.tokensAt s t - 1 ≤ _
  rw [tokensAt_eq h]
  omega

theorem instantsBefore_mono (h : a ≤ b) : bucket.instantsBefore a ≤ bucket.instantsBefore b :=
  Nat.div_le_div_right (Nat.sub_le_sub_right h _)

theorem instantsBefore_le (h : a ≤ b) :
    bucket.instantsBefore b ≤ bucket.instantsBefore a + (b - a) / bucket.interval + 1 := by
  have hlength : b - bucket.start ≤ (a - bucket.start) + (b - a) := by omega
  calc bucket.instantsBefore b
      ≤ ((a - bucket.start) + (b - a)) / bucket.interval := Nat.div_le_div_right hlength
    _ ≤ bucket.instantsBefore a + (b - a) / bucket.interval + 1 := by
        rw [Nat.add_div bucket.positive, instantsBefore]
        split
        · exact Nat.le_refl _
        · exact Nat.le_succ _

theorem granted_cons (t : ℕ) (times : List ℕ) (answer : Bool) (answers : List Bool) :
    granted a b (t :: times) (answer :: answers) =
      granted a b times answers + if (decide (a ≤ t ∧ t ≤ b) && answer) = true then 1 else 0 := by
  unfold granted
  rw [List.zip_cons_cons, List.countP_cons]

theorem granted_eq_zero {answers : List Bool} (h : ∀ t ∈ times, b < t) : granted a b times answers = 0 := by
  unfold granted
  rw [List.countP_eq_zero]
  rintro ⟨t, answer⟩ hmem
  have hlate : b < t := h t (List.of_mem_zip hmem).1
  have hout : ¬ (a ≤ t ∧ t ≤ b) := fun hin => absurd hin.2 (Nat.not_le.mpr hlate)
  rw [decide_eq_false hout]
  exact Bool.false_ne_true

theorem granted_take_le {left : ℕ}
    (h : granted a b times (decisions bucket.take (bucket.take s t).1 times) ≤ bucket.tokensAt s t - 1 + left) :
    granted a b (t :: times) (decisions bucket.take s (t :: times)) ≤ bucket.tokensAt s t + left := by
  rw [decisions, granted_cons]
  split
  · rename_i hgranted
    have hpositive : 0 < bucket.tokensAt s t := of_decide_eq_true (Bool.and_eq_true_iff.mp hgranted).2
    omega
  · omega

theorem granted_le_tokens (hs : s.tokens ≤ bucket.burst) (hsorted : times.Pairwise (· ≤ ·))
    (hpast : ∀ t ∈ times, s.instants ≤ bucket.instantsBefore t) :
    granted a b times (decisions bucket.take s times) ≤ s.tokens + (bucket.instantsBefore b - s.instants) := by
  induction times generalizing s with
  | nil => exact Nat.zero_le _
  | cons t times ih =>
    obtain ⟨hlater, hsorted⟩ := List.pairwise_cons.mp hsorted
    by_cases hb : t ≤ b
    · have htail := ih (take_tokens_le hs) hsorted fun t' ht' => instantsBefore_mono (hlater t' ht')
      have hnow := hpast t List.mem_cons_self
      have hmono : bucket.instantsBefore t ≤ bucket.instantsBefore b := instantsBefore_mono hb
      calc granted a b (t :: times) (decisions bucket.take s (t :: times))
          ≤ bucket.tokensAt s t + (bucket.instantsBefore b - bucket.instantsBefore t) := granted_take_le htail
        _ ≤ s.tokens + (bucket.instantsBefore b - s.instants) := by
            rw [tokensAt_eq hs]
            omega
    · rw [granted_eq_zero]
      · exact Nat.zero_le _
      · intro t' ht'
        rcases List.mem_cons.mp ht' with rfl | ht'
        · exact Nat.not_le.mp hb
        · exact (Nat.not_le.mp hb).trans_le (hlater t' ht')

theorem granted_le (hs : s.tokens ≤ bucket.burst) (hsorted : times.Pairwise (· ≤ ·)) :
    granted a b times (decisions bucket.take s times) ≤ bucket.burst + (b - a) / bucket.interval + 1 := by
  induction times generalizing s with
  | nil => exact Nat.zero_le _
  | cons t times ih =>
    obtain ⟨hlater, hsorted'⟩ := List.pairwise_cons.mp hsorted
    by_cases ha : a ≤ t
    · by_cases hb : t ≤ b
      · have htail : granted a b times (decisions bucket.take (bucket.take s t).1 times) ≤
            bucket.tokensAt s t - 1 + (bucket.instantsBefore b - bucket.instantsBefore t) :=
          granted_le_tokens (take_tokens_le hs) hsorted' fun t' ht' => instantsBefore_mono (hlater t' ht')
        have hinstants : bucket.instantsBefore b - bucket.instantsBefore t ≤ (b - t) / bucket.interval + 1 :=
          Nat.sub_le_iff_le_add'.mpr (instantsBefore_le hb)
        have hshorter : (b - t) / bucket.interval ≤ (b - a) / bucket.interval :=
          Nat.div_le_div_right (Nat.sub_le_sub_left ha b)
        have htokens : bucket.tokensAt s t ≤ bucket.burst := by
          rw [tokensAt_eq hs]
          exact Nat.min_le_right _ _
        rw [Nat.add_assoc]
        exact (granted_take_le htail).trans
          (Nat.add_le_add htokens (hinstants.trans (Nat.add_le_add_right hshorter 1)))
      · rw [granted_eq_zero]
        · exact Nat.zero_le _
        · intro t' ht'
          rcases List.mem_cons.mp ht' with rfl | ht'
          · exact Nat.not_le.mp hb
          · exact (Nat.not_le.mp hb).trans_le (hlater t' ht')
    · have hearly : ¬ (a ≤ t ∧ t ≤ b) := fun hin => ha hin.1
      rw [decisions, granted_cons, decide_eq_false hearly]
      exact ih (take_tokens_le hs) hsorted'

end TokenBucket
