import InvestmentAssistant.Core.Errors

/-!
# The daily rate limiter

`DailyRateLimiter` counts requests and forgets the count at the first check of a new UTC day. A
check does not count; the request is recorded by a separate `increment`, which does not look at the
date. What a limiter knows about a day is `spentOn`: its count when it was last reset on that day.
-/

namespace InvestmentAssistant

/-- The providers with a daily limit. -/
inductive QuotaProvider
  | twelveData
  | fmp
  deriving DecidableEq, Repr

/-- The name given to the limiter. -/
def QuotaProvider.name : QuotaProvider → String
  | .twelveData => "Twelve Data"
  | .fmp => "FMP"

/-- `DAILY_RATE_LIMIT`. -/
def QuotaProvider.dailyRateLimit : QuotaProvider → ℕ
  | .twelveData => 800
  | .fmp => 250

/-- The state of a limiter; dates are UTC days. -/
structure DailyRateLimiter where
  requestCount : ℕ
  countResetDate : ℕ
  deriving DecidableEq, Repr

namespace DailyRateLimiter

/-- `DailyRateLimiter(limit, provider_name)`. -/
def create (today : ℕ) : DailyRateLimiter :=
  ⟨0, today⟩

/-- The reset at the first check of a day. -/
def refresh (today : ℕ) (limiter : DailyRateLimiter) : DailyRateLimiter :=
  if today ≠ limiter.countResetDate then ⟨0, today⟩ else limiter

/-- `check`. -/
def check (provider : QuotaProvider) (today : ℕ) (limiter : DailyRateLimiter) :
    Except PyException Unit × DailyRateLimiter :=
  let limiter := limiter.refresh today
  if provider.dailyRateLimit ≤ limiter.requestCount then
    (.error (.runtimeError (provider.name ++ " daily rate limit (" ++
      toString provider.dailyRateLimit ++ ") exceeded")), limiter)
  else (.ok (), limiter)

/-- `increment`. -/
def increment (limiter : DailyRateLimiter) : DailyRateLimiter :=
  { limiter with requestCount := limiter.requestCount + 1 }

/-- The requests a limiter has recorded for a day. -/
def spentOn (day : ℕ) (limiter : DailyRateLimiter) : ℕ :=
  if limiter.countResetDate = day then limiter.requestCount else 0

@[simp]
theorem countResetDate_refresh (today : ℕ) (limiter : DailyRateLimiter) :
    (limiter.refresh today).countResetDate = today := by
  unfold refresh
  split
  · rfl
  · next h => exact (not_not.1 h).symm

/-- A reset forgets nothing about the day it is made on. -/
@[simp]
theorem spentOn_refresh (today : ℕ) (limiter : DailyRateLimiter) :
    (limiter.refresh today).spentOn today = limiter.spentOn today := by
  unfold refresh
  split
  · next h => simp [spentOn, Ne.symm h]
  · rfl

/-- A check leaves the refreshed limiter, whether it raises or not. -/
@[simp]
theorem check_snd (provider : QuotaProvider) (today : ℕ) (limiter : DailyRateLimiter) :
    (limiter.check provider today).2 = limiter.refresh today := by
  simp only [check]
  split <;> rfl

/-- A check passes if and only if the limiter's own record of the day is below the limit. -/
theorem check_eq_ok_iff {provider : QuotaProvider} {today : ℕ} {limiter : DailyRateLimiter} :
    (limiter.check provider today).1 = .ok () ↔
      limiter.spentOn today < provider.dailyRateLimit := by
  have hspent : limiter.spentOn today = (limiter.refresh today).requestCount := by
    rw [← spentOn_refresh, spentOn, if_pos (countResetDate_refresh _ _)]
  rw [hspent, ← Nat.not_le]
  simp only [check]
  split <;> simp [*]

/-- A record counts for the day of the last reset. -/
theorem spentOn_increment (day : ℕ) (limiter : DailyRateLimiter) :
    limiter.increment.spentOn day =
      limiter.spentOn day + if limiter.countResetDate = day then 1 else 0 := by
  by_cases h : limiter.countResetDate = day <;> simp [spentOn, increment, h]

end DailyRateLimiter

end InvestmentAssistant
