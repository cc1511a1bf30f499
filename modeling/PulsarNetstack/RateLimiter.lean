import PulsarNetstack.NodeRuns
import PulsarNetstack.TokenBucket

namespace PulsarNetstack

def icmpBucket (hz start : ℕ) (hhz : icmpErrorRate ≤ hz) : TokenBucket where
  burst := icmpErrorBurst
  interval := hz / icmpErrorRate
  start := start
  positive := Nat.div_pos hhz (by decide)

open TokenBucket (decisions granted)

variable {w hz start prev now : ℕ} {hhz : icmpErrorRate ≤ hz} {s : IcmpErrorState} {level : TokenBucket.Level}

structure Aligned (bucket : TokenBucket) (prev : ℕ) (s : IcmpErrorState) (level : TokenBucket.Level) : Prop where
  initialized : s.initialized = true
  tokens : s.tokens = level.tokens
  limit : level.tokens ≤ bucket.burst
  refill : s.lastRefill = bucket.start + level.instants * bucket.interval
  past : s.lastRefill ≤ prev

theorem Aligned.instants {bucket : TokenBucket} (h : Aligned bucket prev s level) (hnow : prev ≤ now) :
    bucket.instantsBefore now = level.instants + (now - s.lastRefill) / bucket.interval := by
  have hpast := h.past.trans hnow
  have hsplit : now - bucket.start = (now - s.lastRefill) + bucket.interval * level.instants := by
    rw [h.refill] at hpast ⊢
    rw [Nat.mul_comm bucket.interval]
    omega
  rw [TokenBucket.instantsBefore, hsplit, Nat.add_mul_div_left _ _ bucket.positive, Nat.add_comm]

def IcmpErrorState.refilled (s : IcmpErrorState) (bucket : TokenBucket) (level : TokenBucket.Level) (now : ℕ) :
    IcmpErrorState :=
  { s with
    tokens := bucket.tokensAt level now
    lastRefill := bucket.start + bucket.instantsBefore now * bucket.interval }

theorem refilled_lastRefill_le (hstart : start ≤ now) :
    (s.refilled (icmpBucket hz start hhz) level now).lastRefill ≤ now := by
  have hle : (icmpBucket hz start hhz).instantsBefore now * (hz / icmpErrorRate) ≤ now - start := Nat.div_mul_le_self _ _
  change start + (icmpBucket hz start hhz).instantsBefore now * (hz / icmpErrorRate) ≤ now
  omega

theorem Aligned.refill_eq (h : Aligned (icmpBucket hz start hhz) prev s level) (hnow : prev ≤ now) (hmax : now < w) :
    (if (now - s.lastRefill) / (hz / icmpErrorRate) = 0 then s
      else
        { s with
          tokens := if icmpErrorBurst - s.tokens ≤ (now - s.lastRefill) / (hz / icmpErrorRate) then icmpErrorBurst
            else s.tokens + (now - s.lastRefill) / (hz / icmpErrorRate)
          lastRefill := (now + w - (now - s.lastRefill) % (hz / icmpErrorRate)) % w }) =
      s.refilled (icmpBucket hz start hhz) level now := by
  have hinstants : (icmpBucket hz start hhz).instantsBefore now =
      level.instants + (now - s.lastRefill) / (hz / icmpErrorRate) := h.instants hnow
  have hpast : s.lastRefill ≤ now := h.past.trans hnow
  have hrefill : s.lastRefill = start + level.instants * (hz / icmpErrorRate) := h.refill
  have htokens : s.tokens = level.tokens := h.tokens
  have hlimit : level.tokens ≤ icmpErrorBurst := h.limit
  have hparts : hz / icmpErrorRate * ((now - s.lastRefill) / (hz / icmpErrorRate)) +
      (now - s.lastRefill) % (hz / icmpErrorRate) = now - s.lastRefill := Nat.div_add_mod _ _
  have hbucket : (icmpBucket hz start hhz).burst = icmpErrorBurst ∧ (icmpBucket hz start hhz).start = start ∧
      (icmpBucket hz start hhz).interval = hz / icmpErrorRate := ⟨rfl, rfl, rfl⟩
  rw [IcmpErrorState.refilled, TokenBucket.tokensAt_eq h.limit, hbucket.1, hbucket.2.1, hbucket.2.2, hinstants,
    Nat.add_sub_cancel_left, Nat.add_mul]
  generalize (now - s.lastRefill) % (hz / icmpErrorRate) = rest at hparts ⊢
  rw [Nat.mul_comm] at hparts
  generalize (now - s.lastRefill) / (hz / icmpErrorRate) = refill at hparts ⊢
  generalize level.instants * (hz / icmpErrorRate) = counted at hrefill ⊢
  split
  · rename_i hnone
    subst hnone
    rw [Nat.zero_mul, Nat.add_zero, Nat.add_zero, Nat.min_eq_left hlimit, ← htokens, ← hrefill]
  · generalize refill * (hz / icmpErrorRate) = gained at hparts ⊢
    have htoken : (if icmpErrorBurst - s.tokens ≤ refill then icmpErrorBurst else s.tokens + refill) =
        min (level.tokens + refill) icmpErrorBurst := by
      rw [htokens]
      split <;> omega
    have hsum : now + w - rest = (start + (counted + gained)) + w := by omega
    have hlast : (now + w - rest) % w = start + (counted + gained) := by
      rw [hsum, Nat.add_mod_right, Nat.mod_eq_of_lt (by omega)]
    rw [htoken, hlast]

theorem takeTokenMod_aligned (h : Aligned (icmpBucket hz start hhz) prev s level) (hstart : start ≤ prev) (hnow : prev ≤ now)
    (hmax : now < w) :
    (takeTokenMod w hz s now).2 = ((icmpBucket hz start hhz).take level now).2 ∧
      Aligned (icmpBucket hz start hhz) now (takeTokenMod w hz s now).1 ((icmpBucket hz start hhz).take level now).1 := by
  have hpast : s.lastRefill ≤ now := h.past.trans hnow
  have hsum : now + w - s.lastRefill = now - s.lastRefill + w := by omega
  have helapsed : (now + w - s.lastRefill) % w = now - s.lastRefill := by
    rw [hsum, Nat.add_mod_right, Nat.mod_eq_of_lt (by omega)]
  have hlast : (s.refilled (icmpBucket hz start hhz) level now).lastRefill ≤ now :=
    refilled_lastRefill_le (hstart.trans hnow)
  have hlimit := TokenBucket.take_tokens_le h.limit (t := now)
  unfold takeTokenMod
  dsimp only
  rw [if_pos h.initialized, helapsed, h.refill_eq hnow hmax]
  rw [TokenBucket.take] at hlimit ⊢
  rw [IcmpErrorState.refilled] at hlast ⊢
  dsimp only at hlast hlimit ⊢
  generalize (icmpBucket hz start hhz).tokensAt level now = tokens at hlast hlimit ⊢
  cases tokens with
  | zero => exact ⟨rfl, h.initialized, rfl, hlimit, rfl, hlast⟩
  | succ tokens => exact ⟨(decide_eq_true (Nat.succ_pos tokens)).symm, h.initialized, rfl, hlimit, rfl, hlast⟩

def afterCalls (w hz : ℕ) (s : IcmpErrorState) (times : List ℕ) : IcmpErrorState :=
  times.foldl (fun s t => (takeTokenMod w hz s t).1) s

theorem Aligned.decisions_eq {times : List ℕ} (h : Aligned (icmpBucket hz start hhz) prev s level) (hstart : start ≤ prev)
    (hsorted : (prev :: times).Pairwise (· ≤ ·)) (hmax : ∀ t ∈ times, t < w) :
    decisions (takeTokenMod w hz) s times = decisions (icmpBucket hz start hhz).take level times ∧
      (afterCalls w hz s times).tokens ≤ icmpErrorBurst := by
  induction times generalizing prev s level with
  | nil =>
    have htokens : s.tokens ≤ icmpErrorBurst := h.tokens ▸ h.limit
    exact ⟨rfl, htokens⟩
  | cons t times ih =>
    obtain ⟨hlater, hsorted⟩ := List.pairwise_cons.mp hsorted
    have hprev : prev ≤ t := hlater t List.mem_cons_self
    obtain ⟨hanswer, hnext⟩ := takeTokenMod_aligned h hstart hprev (hmax t List.mem_cons_self)
    obtain ⟨hrest, htokens⟩ := ih hnext (hstart.trans hprev) hsorted fun t' ht' => hmax t' (List.mem_cons_of_mem _ ht')
    rw [decisions, decisions, hanswer, hrest]
    exact ⟨rfl, htokens⟩

def IcmpErrorState.started (s : IcmpErrorState) (now : ℕ) : IcmpErrorState :=
  { s with initialized := true, lastRefill := now, tokens := icmpErrorBurst }

theorem takeTokenMod_started (hs : s.initialized = false) : takeTokenMod w hz s now = takeTokenMod w hz (s.started now) now := by
  have hstarted : (s.started now).initialized = true := rfl
  unfold takeTokenMod
  dsimp only
  rw [if_neg (Bool.eq_false_iff.mp hs), if_pos hstarted]
  rfl

theorem started_aligned : Aligned (icmpBucket hz now hhz) now (s.started now) (icmpBucket hz now hhz).full where
  initialized := rfl
  tokens := rfl
  limit := Nat.le_refl _
  refill := by
    change now = now + 0 * _
    rw [Nat.zero_mul, Nat.add_zero]
  past := Nat.le_refl _

/-- The limiter of the ICMP errors is the bucket that starts full at its first call and gains a token at each tenth of a
second from then on. -/
theorem icmp_limiter_is_token_bucket (hz : ℕ) (hhz : icmpErrorRate ≤ hz) (s : IcmpErrorState) (hs : s.initialized = false)
    (t₀ : ℕ) (times : List ℕ) (hsorted : (t₀ :: times).Pairwise (· ≤ ·)) (hmax : ∀ t ∈ t₀ :: times, t < 18446744073709551616) :
    decisions (takeToken hz) s (t₀ :: times) =
        decisions (icmpBucket hz t₀ hhz).take (icmpBucket hz t₀ hhz).full (t₀ :: times) ∧
      ((t₀ :: times).foldl (fun s t => (takeToken hz s t).1) s).tokens ≤ 10 ∧
      ∀ a b, a ≤ b → granted a b (t₀ :: times) (decisions (takeToken hz) s (t₀ :: times)) ≤ 10 + (b - a) / (hz / 10) + 1 := by
  have hmod : takeToken hz = takeTokenMod 18446744073709551616 hz := rfl
  rw [hmod]
  generalize 18446744073709551616 = w at hmax
  have hstarted : decisions (takeTokenMod w hz) s (t₀ :: times) = decisions (takeTokenMod w hz) (s.started t₀) (t₀ :: times) ∧
      (t₀ :: times).foldl (fun s t => (takeTokenMod w hz s t).1) s = afterCalls w hz (s.started t₀) (t₀ :: times) := by
    rw [decisions, decisions, afterCalls, List.foldl_cons, List.foldl_cons, takeTokenMod_started hs]
    exact ⟨rfl, rfl⟩
  have hagain : (t₀ :: t₀ :: times).Pairwise (· ≤ ·) := by
    refine List.pairwise_cons.mpr ⟨fun t ht => ?_, hsorted⟩
    rcases List.mem_cons.mp ht with rfl | ht
    · exact Nat.le_refl _
    · exact (List.pairwise_cons.mp hsorted).1 t ht
  have haligned : Aligned (icmpBucket hz t₀ hhz) t₀ (s.started t₀) (icmpBucket hz t₀ hhz).full := started_aligned
  obtain ⟨hdecisions, htokens⟩ := haligned.decisions_eq (Nat.le_refl t₀) hagain hmax
  rw [hstarted.1, hstarted.2, hdecisions]
  exact ⟨rfl, htokens, fun a b _ => TokenBucket.granted_le haligned.limit hsorted⟩

theorem icmp_limiter_is_token_bucket_burst :
    decisions (takeToken 1000) {} [5, 5, 105] =
        decisions (icmpBucket 1000 5 (by decide)).take (icmpBucket 1000 5 (by decide)).full [5, 5, 105] ∧
      (([5, 5, 105] : List ℕ).foldl (fun s t => (takeToken 1000 s t).1) {}).tokens ≤ 10 ∧
      ∀ a b, a ≤ b → granted a b [5, 5, 105] (decisions (takeToken 1000) {} [5, 5, 105]) ≤ 10 + (b - a) / (1000 / 10) + 1 :=
  icmp_limiter_is_token_bucket 1000 (by decide) {} rfl 5 [5, 105] (by decide) (by decide)

end PulsarNetstack
