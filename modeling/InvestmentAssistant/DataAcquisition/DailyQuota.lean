import InvestmentAssistant.Core.DailyRateLimiter
import InvestmentAssistant.Foundation.Transition

/-!
# The daily quota of a provider

All requests of a program to one provider. Each analysis builds its own provider object with its own
limiter, as does the source of economic data, so a run has any number of limiters. A request goes
through a check, is sent, and is answered; only the answer is recorded, and between these the code
awaits, so requests overlap. A request may end without being sent, or fail in transport after it was
sent, and is then not recorded.

The runs of `quotaStep` are all interleavings over all days. What a limiter's check compares with
the limit is its own record. The quota is kept where nothing escapes that record (`QuotaGuard`): the
requests of a day go through one limiter, a request is checked when no other is open, it is sent on
the day of its check, and a request that was sent is answered. Under this condition the comparison
made by the check is what keeps the invariant `QuotaInv`.
-/

namespace InvestmentAssistant

open Transition DailyRateLimiter

/-! ### The system -/

/-- A request that passed its limiter's check and is not answered yet. -/
structure QuotaRequest where
  call : ℕ
  limiter : ℕ
  checkedOn : ℕ
  sent : Bool := false
  deriving DecidableEq, Repr

/-- The day, the limiters, the open requests, and the days on which requests were sent. -/
structure QuotaState where
  today : ℕ := 0
  limiters : List DailyRateLimiter := []
  inFlight : List QuotaRequest := []
  sends : List ℕ := []
  deriving DecidableEq

/-- What can happen. -/
inductive QuotaEvent
  | newDay
  | create
  | check (call limiter : ℕ)
  | send (request : QuotaRequest)
  | respond (request : QuotaRequest)
  | fail (request : QuotaRequest)
  deriving DecidableEq

/-- One step of one request, or of the clock, or the construction of a limiter. -/
def quotaStep (provider : QuotaProvider) (s : QuotaState) : QuotaEvent → Option QuotaState
  | .newDay => some { s with today := s.today + 1 }
  | .create => some { s with limiters := s.limiters ++ [create s.today] }
  | .check call i =>
    match s.limiters[i]? with
    | none => none
    | some limiter =>
      let (outcome, limiter) := limiter.check provider s.today
      match outcome with
      | .error _ => some { s with limiters := s.limiters.set i limiter }
      | .ok _ => some
          { s with
            limiters := s.limiters.set i limiter
            inFlight := ⟨call, i, s.today, false⟩ :: s.inFlight }
  | .send request =>
    if request ∈ s.inFlight ∧ request.sent = false then some
      { s with
        inFlight := { request with sent := true } :: s.inFlight.erase request
        sends := s.sends ++ [s.today] }
    else none
  | .respond request =>
    match s.limiters[request.limiter]? with
    | none => none
    | some limiter =>
      if request ∈ s.inFlight ∧ request.sent = true then some
        { s with
          limiters := s.limiters.set request.limiter limiter.increment
          inFlight := s.inFlight.erase request }
      else none
  | .fail request =>
    if request ∈ s.inFlight then some { s with inFlight := s.inFlight.erase request } else none

/-! ### The condition -/

/-- The requests all limiters have recorded for the day. -/
def QuotaState.spentToday (s : QuotaState) : ℕ :=
  (s.limiters.map (spentOn s.today)).sum

/-- The condition on a step: a request is checked only where no other request is open and no other
limiter has recorded a request for the day; it is sent on the day of its check; and a request that
was sent is answered. -/
def QuotaGuard (s : QuotaState) : QuotaEvent → Prop
  | .check _ i => s.inFlight = [] ∧ ∀ j limiter, s.limiters[j]? = some limiter → j ≠ i →
      limiter.spentOn s.today = 0
  | .send request => request.checkedOn = s.today
  | .fail request => request.sent = false
  | _ => True

/-! ### The invariant -/

/-- The open requests of the day that are still to be sent. -/
def QuotaState.unsentToday (s : QuotaState) : ℕ :=
  s.inFlight.countP fun r ↦ decide (r.checkedOn = s.today ∧ r.sent = false)

/-- The open requests of the day that are sent and not recorded yet. -/
def QuotaState.unrecordedToday (s : QuotaState) : ℕ :=
  s.inFlight.countP fun r ↦ decide (r.checkedOn = s.today ∧ r.sent = true)

/-- The requests sent on a day. -/
def QuotaState.sentOn (s : QuotaState) (day : ℕ) : ℕ :=
  s.sends.count day

/-- What holds as long as the condition is met. -/
structure QuotaInv (provider : QuotaProvider) (s : QuotaState) : Prop where
  /-- No day exceeds the limit. -/
  bounded : ∀ day, s.sentOn day ≤ provider.dailyRateLimit
  /-- Nothing was sent on a day to come. -/
  future : ∀ day, s.today < day → s.sentOn day = 0
  /-- What was sent today is recorded, or will be. -/
  recorded : s.sentOn s.today ≤ s.spentToday + s.unrecordedToday
  /-- What is still to be sent today fits. -/
  reserved : s.sentOn s.today + s.unsentToday ≤ provider.dailyRateLimit
  /-- An open request was checked by a limiter that has not been reset before that day. -/
  checked : ∀ r ∈ s.inFlight, ∃ limiter, s.limiters[r.limiter]? = some limiter ∧
    r.checkedOn ≤ limiter.countResetDate
  /-- No limiter was reset on a day to come. -/
  resets : ∀ limiter ∈ s.limiters, limiter.countResetDate ≤ s.today

section Counting

variable {α : Type}

/-- Replacing one entry of a list changes a sum by the difference. -/
theorem sum_map_set (f : α → ℕ) {l : List α} {i : ℕ} {a b : α} (h : l[i]? = some a) :
    ((l.set i b).map f).sum + f a = (l.map f).sum + f b := by
  induction l generalizing i with
  | nil => exact nomatch h
  | cons c l ih =>
    cases i with
    | zero =>
      obtain rfl : c = a := Option.some.inj h
      simp only [List.set_cons_zero, List.map_cons, List.sum_cons]
      omega
    | succ i =>
      have hrest := ih (i := i) h
      simp only [List.set_cons_succ, List.map_cons, List.sum_cons]
      omega

/-- A sum with at most one term that is not zero is that term. -/
theorem sum_map_eq_of_forall_ne (f : α → ℕ) {l : List α} {i : ℕ} {a : α} (h : l[i]? = some a)
    (hzero : ∀ j b, l[j]? = some b → j ≠ i → f b = 0) : (l.map f).sum = f a := by
  induction l generalizing i with
  | nil => cases h
  | cons c l ih =>
    rw [List.map_cons, List.sum_cons]
    cases i with
    | zero =>
      obtain rfl : c = a := Option.some.inj h
      have hrest : (l.map f).sum = 0 := by
        refine List.sum_eq_zero fun n hn ↦ ?_
        obtain ⟨b, hb, rfl⟩ := List.mem_map.1 hn
        obtain ⟨j, hj⟩ := List.getElem?_of_mem hb
        exact hzero (j + 1) b hj (Nat.succ_ne_zero j)
      rw [hrest, Nat.add_zero]
    | succ i =>
      rw [hzero 0 c rfl (Nat.succ_ne_zero i).symm, Nat.zero_add]
      exact ih h fun j b hj hne ↦ hzero (j + 1) b hj (mt Nat.succ.inj hne)

/-- Erasing an element takes it out of a count. -/
theorem countP_erase_add [DecidableEq α] (p : α → Bool) {l : List α} {a : α} (h : a ∈ l) :
    (l.erase a).countP p + (if p a then 1 else 0) = l.countP p := by
  rw [(List.perm_cons_erase h).countP_eq p, List.countP_cons]

end Counting

/-- A state that changed nothing but the open requests and the limiters, none of which was set back,
keeps the last two fields. -/
theorem checked_of_limiters_set {s : QuotaState} {i : ℕ} {limiter limiter' : DailyRateLimiter}
    {r : QuotaRequest} (hi : s.limiters[i]? = some limiter)
    (hdate : limiter.countResetDate ≤ limiter'.countResetDate)
    (h : ∃ limiter, s.limiters[r.limiter]? = some limiter ∧ r.checkedOn ≤ limiter.countResetDate) :
    ∃ limiter, (s.limiters.set i limiter')[r.limiter]? = some limiter ∧
      r.checkedOn ≤ limiter.countResetDate := by
  obtain ⟨old, hold, hle⟩ := h
  by_cases hr : i = r.limiter
  · subst hr
    obtain rfl := Option.some.inj (hi.symm.trans hold)
    refine ⟨limiter', ?_, hle.trans hdate⟩
    rw [List.getElem?_set_self (List.getElem?_eq_some_iff.1 hi).1]
  · exact ⟨old, by rw [List.getElem?_set_ne hr, hold], hle⟩

section Steps

variable {provider : QuotaProvider} {s s' : QuotaState}

/-- The sum of the records when one limiter is replaced. -/
theorem spentToday_set {i : ℕ} {limiter : DailyRateLimiter} (limiter' : DailyRateLimiter)
    (hi : s.limiters[i]? = some limiter) :
    ((s.limiters.set i limiter').map (spentOn s.today)).sum + limiter.spentOn s.today =
      s.spentToday + limiter'.spentOn s.today :=
  sum_map_set (spentOn s.today) hi

/-- A limiter that is in the list after a replacement was there before, or is the new one. -/
theorem resets_of_limiters_set {i : ℕ} {limiter' : DailyRateLimiter}
    (h : ∀ limiter ∈ s.limiters, limiter.countResetDate ≤ s.today)
    (hnew : limiter'.countResetDate ≤ s.today) :
    ∀ limiter ∈ s.limiters.set i limiter', limiter.countResetDate ≤ s.today := by
  intro limiter hmem
  rcases List.mem_or_eq_of_mem_set hmem with hmem | rfl
  · exact h limiter hmem
  · exact hnew

/-- A new day starts with nothing sent and nothing reserved. -/
theorem quotaInv_newDay (h : QuotaInv provider s) :
    QuotaInv provider { s with today := s.today + 1 } := by
  have hsent : s.sentOn (s.today + 1) = 0 := h.future _ (Nat.lt_succ_self _)
  -- an open request was checked by a limiter that is not ahead of today, so not tomorrow
  have hopen : ∀ r ∈ s.inFlight, r.checkedOn ≠ s.today + 1 := by
    intro r hr heq
    obtain ⟨limiter, hlimiter, hle⟩ := h.checked r hr
    have := h.resets limiter (List.mem_of_getElem? hlimiter)
    omega
  have hunsent : s.inFlight.countP
      (fun r ↦ decide (r.checkedOn = s.today + 1 ∧ r.sent = false)) = 0 := by
    rw [List.countP_eq_zero]
    intro r hr
    simp [hopen r hr]
  refine ⟨h.bounded, fun day hday ↦ h.future day (Nat.lt_of_succ_lt hday), ?_, ?_, h.checked,
    fun limiter hl ↦ (h.resets limiter hl).trans (Nat.le_succ _)⟩
  · exact le_of_eq_of_le hsent (Nat.zero_le _)
  · show s.sentOn (s.today + 1) + s.inFlight.countP
      (fun r ↦ decide (r.checkedOn = s.today + 1 ∧ r.sent = false)) ≤ _
    rw [hsent, hunsent]
    exact Nat.zero_le _

/-- A new limiter has recorded nothing. -/
theorem quotaInv_create (h : QuotaInv provider s) :
    QuotaInv provider { s with limiters := s.limiters ++ [create s.today] } := by
  refine ⟨h.bounded, h.future, ?_, h.reserved, fun r hr ↦ ?_, fun limiter hl ↦ ?_⟩
  · have hspent : ((s.limiters ++ [create s.today]).map (spentOn s.today)).sum = s.spentToday := by
      rw [List.map_append, List.sum_append]
      simp [QuotaState.spentToday, create, spentOn]
    show s.sentOn s.today ≤ ((s.limiters ++ [create s.today]).map (spentOn s.today)).sum + _
    rw [hspent]
    exact h.recorded
  · obtain ⟨limiter, hlimiter, hle⟩ := h.checked r hr
    refine ⟨limiter, ?_, hle⟩
    rw [List.getElem?_append_left (List.getElem?_eq_some_iff.1 hlimiter).1, hlimiter]
  · rcases List.mem_append.1 hl with hl | hl
    · exact h.resets limiter hl
    · rw [List.mem_singleton.1 hl]
      exact le_rfl

/-- A check refreshes its limiter, which changes no record of the day. -/
theorem quotaInv_refresh (h : QuotaInv provider s) {i : ℕ} {limiter : DailyRateLimiter}
    (hi : s.limiters[i]? = some limiter) :
    QuotaInv provider { s with limiters := s.limiters.set i (limiter.refresh s.today) } := by
  have hdate := h.resets limiter (List.mem_of_getElem? hi)
  refine ⟨h.bounded, h.future, ?_, h.reserved, fun r hr ↦ ?_, ?_⟩
  · have hset := spentToday_set (limiter.refresh s.today) hi
    rw [spentOn_refresh] at hset
    show s.sentOn s.today ≤ ((s.limiters.set i _).map (spentOn s.today)).sum + _
    rw [Nat.add_right_cancel hset]
    exact h.recorded
  · refine checked_of_limiters_set hi ?_ (h.checked r hr)
    rw [countResetDate_refresh]
    exact hdate
  · exact resets_of_limiters_set h.resets (countResetDate_refresh _ _).le

/-- Every open request of the day is unsent or unrecorded. -/
theorem unsentToday_add_unrecordedToday_le (s : QuotaState) :
    s.unsentToday + s.unrecordedToday ≤ s.inFlight.length := by
  rw [QuotaState.unsentToday, QuotaState.unrecordedToday, List.length_eq_countP_add_countP
    fun r : QuotaRequest ↦ decide (r.checkedOn = s.today ∧ r.sent = false)]
  refine Nat.add_le_add_left (List.countP_mono_left fun r _ hr ↦ ?_) _
  obtain ⟨-, hsent⟩ := of_decide_eq_true hr
  simp [hsent]

/-- Where the condition is met, the record that the check compares with the limit is the record of
all limiters, so a check that passes leaves room. -/
theorem room_of_check {call i : ℕ} {limiter : DailyRateLimiter}
    (hguard : QuotaGuard s (.check call i)) (hi : s.limiters[i]? = some limiter)
    (hpass : (limiter.check provider s.today).1 = .ok ()) :
    s.spentToday + s.inFlight.length < provider.dailyRateLimit := by
  obtain ⟨hopen, hothers⟩ := hguard
  have hspent : s.spentToday = limiter.spentOn s.today :=
    sum_map_eq_of_forall_ne (spentOn s.today) hi hothers
  rw [hspent, hopen, List.length_nil, Nat.add_zero]
  exact check_eq_ok_iff.1 hpass

/-- A check that passes reserves room for its request. -/
theorem quotaInv_open (h : QuotaInv provider s)
    (hroom : s.spentToday + s.inFlight.length < provider.dailyRateLimit) (call : ℕ) {i : ℕ}
    {limiter : DailyRateLimiter} (hi : s.limiters[i]? = some limiter)
    (hdate : limiter.countResetDate = s.today) :
    QuotaInv provider { s with inFlight := ⟨call, i, s.today, false⟩ :: s.inFlight } := by
  refine ⟨h.bounded, h.future, ?_, ?_, fun r hr ↦ ?_, h.resets⟩
  · refine h.recorded.trans (Nat.add_le_add_left ?_ _)
    show _ ≤ List.countP _ (_ :: s.inFlight)
    rw [List.countP_cons]
    exact Nat.le_add_right _ _
  · have hopen := unsentToday_add_unrecordedToday_le s
    have hrecorded := h.recorded
    show s.sentOn s.today + List.countP _ (_ :: s.inFlight) ≤ _
    rw [List.countP_cons_of_pos (by simp)]
    change s.sentOn s.today + (s.unsentToday + 1) ≤ _
    omega
  · rcases List.mem_cons.1 hr with rfl | hr
    · exact ⟨limiter, hi, hdate.ge⟩
    · exact h.checked r hr

/-- A request sent on the day of its check uses the room reserved for it. -/
theorem quotaInv_send (h : QuotaInv provider s) {request : QuotaRequest}
    (hmem : request ∈ s.inFlight) (hunsent : request.sent = false)
    (hday : request.checkedOn = s.today) :
    QuotaInv provider
      { s with
        inFlight := { request with sent := true } :: s.inFlight.erase request
        sends := s.sends ++ [s.today] } := by
  have hsent : (s.sends ++ [s.today]).count s.today = s.sentOn s.today + 1 := by
    simp [QuotaState.sentOn]
  have hother : ∀ day, day ≠ s.today → (s.sends ++ [s.today]).count day = s.sentOn day := by
    intro day hne
    simp [QuotaState.sentOn, hne.symm]
  -- the request leaves the unsent ones and joins the unrecorded ones
  have hreserved : s.unsentToday = (s.inFlight.erase request).countP
      (fun r ↦ decide (r.checkedOn = s.today ∧ r.sent = false)) + 1 := by
    have herase := countP_erase_add
      (fun r : QuotaRequest ↦ decide (r.checkedOn = s.today ∧ r.sent = false)) hmem
    rw [if_pos (by simp [hday, hunsent])] at herase
    exact herase.symm
  have hunrecorded : s.unrecordedToday = (s.inFlight.erase request).countP
      (fun r ↦ decide (r.checkedOn = s.today ∧ r.sent = true)) := by
    have herase := countP_erase_add
      (fun r : QuotaRequest ↦ decide (r.checkedOn = s.today ∧ r.sent = true)) hmem
    rw [if_neg (by simp [hunsent])] at herase
    exact herase.symm
  have hle := h.reserved
  refine ⟨fun day ↦ ?_, fun day hlt ↦ ?_, ?_, ?_, fun r hr ↦ ?_, h.resets⟩
  · show (s.sends ++ [s.today]).count day ≤ _
    by_cases heq : day = s.today
    · rw [heq, hsent]
      omega
    · rw [hother day heq]
      exact h.bounded day
  · show (s.sends ++ [s.today]).count day = 0
    rw [hother day (Nat.ne_of_gt hlt)]
    exact h.future day hlt
  · have hrecorded := h.recorded
    show (s.sends ++ [s.today]).count s.today ≤ s.spentToday + List.countP _ (_ :: _)
    rw [hsent, List.countP_cons_of_pos (by simp [hday])]
    change _ ≤ _ + ((s.inFlight.erase request).countP
      (fun r ↦ decide (r.checkedOn = s.today ∧ r.sent = true)) + 1)
    omega
  · show (s.sends ++ [s.today]).count s.today + List.countP _ (_ :: _) ≤ _
    rw [hsent, List.countP_cons_of_neg (by simp)]
    change _ + (s.inFlight.erase request).countP
      (fun r ↦ decide (r.checkedOn = s.today ∧ r.sent = false)) ≤ _
    omega
  · rcases List.mem_cons.1 hr with rfl | hr
    · exact h.checked request hmem
    · exact h.checked r (List.mem_of_mem_erase hr)

/-- A request that ends without having been sent gives its room back. -/
theorem quotaInv_fail (h : QuotaInv provider s) {request : QuotaRequest}
    (hmem : request ∈ s.inFlight) (hunsent : request.sent = false) :
    QuotaInv provider { s with inFlight := s.inFlight.erase request } := by
  have herase := countP_erase_add
    (fun r : QuotaRequest ↦ decide (r.checkedOn = s.today ∧ r.sent = true)) hmem
  rw [if_neg (by simp [hunsent])] at herase
  refine ⟨h.bounded, h.future, ?_, ?_, fun r hr ↦ h.checked r (List.mem_of_mem_erase hr),
    h.resets⟩
  · show s.sentOn s.today ≤ s.spentToday + (s.inFlight.erase request).countP _
    rw [← Nat.add_zero ((s.inFlight.erase request).countP _), herase]
    exact h.recorded
  · refine (Nat.add_le_add_left ?_ _).trans h.reserved
    exact List.erase_sublist.countP_le

/-- An answer is recorded by the limiter of its request. -/
theorem quotaInv_respond (h : QuotaInv provider s) {request : QuotaRequest}
    (hmem : request ∈ s.inFlight) (hsent : request.sent = true) {limiter : DailyRateLimiter}
    (hi : s.limiters[request.limiter]? = some limiter) :
    QuotaInv provider
      { s with
        limiters := s.limiters.set request.limiter limiter.increment
        inFlight := s.inFlight.erase request } := by
  have hdate := h.resets limiter (List.mem_of_getElem? hi)
  have hset := spentToday_set limiter.increment hi
  rw [spentOn_increment] at hset
  have herase := countP_erase_add
    (fun r : QuotaRequest ↦ decide (r.checkedOn = s.today ∧ r.sent = true)) hmem
  refine ⟨h.bounded, h.future, ?_, ?_, fun r hr ↦ ?_, resets_of_limiters_set h.resets hdate⟩
  · have hrecorded := h.recorded
    show s.sentOn s.today ≤ ((s.limiters.set _ _).map (spentOn s.today)).sum +
      (s.inFlight.erase request).countP
        (fun r ↦ decide (r.checkedOn = s.today ∧ r.sent = true))
    change _ = s.unrecordedToday at herase
    by_cases hday : request.checkedOn = s.today
    · -- the limiter was reset at the check of this request, today
      have htoday : limiter.countResetDate = s.today := by
        obtain ⟨limiter', hlimiter', hle⟩ := h.checked request hmem
        obtain rfl := Option.some.inj (hi.symm.trans hlimiter')
        omega
      rw [if_pos htoday] at hset
      rw [if_pos (by simp [hday, hsent])] at herase
      omega
    · rw [if_neg (by simp [hday])] at herase
      omega
  · refine (Nat.add_le_add_left ?_ _).trans h.reserved
    exact List.erase_sublist.countP_le
  · exact checked_of_limiters_set hi le_rfl (h.checked r (List.mem_of_mem_erase hr))

/-- **Every step that meets the condition keeps the invariant.** -/
theorem quotaInv_step (h : QuotaInv provider s) {e : QuotaEvent} (hguard : QuotaGuard s e)
    (hstep : quotaStep provider s e = some s') : QuotaInv provider s' := by
  cases e with
  | newDay =>
    obtain rfl := Option.some.inj hstep
    exact quotaInv_newDay h
  | create =>
    obtain rfl := Option.some.inj hstep
    exact quotaInv_create h
  | check call i =>
    simp only [quotaStep] at hstep
    split at hstep
    · exact nomatch hstep
    · next limiter hi =>
      have hrefresh := quotaInv_refresh h hi
      have hlt := (List.getElem?_eq_some_iff.1 hi).1
      rw [check_snd] at hstep
      split at hstep
      · obtain rfl := Option.some.inj hstep
        exact hrefresh
      · next hpass =>
        obtain rfl := Option.some.inj hstep
        have hset := spentToday_set (limiter.refresh s.today) hi
        rw [spentOn_refresh] at hset
        refine quotaInv_open hrefresh ?_ call (List.getElem?_set_self hlt)
          (countResetDate_refresh _ _)
        show ((s.limiters.set i _).map (spentOn s.today)).sum + s.inFlight.length < _
        rw [Nat.add_right_cancel hset]
        exact room_of_check hguard hi hpass
  | send request =>
    simp only [quotaStep] at hstep
    split at hstep
    · next hr =>
      obtain rfl := Option.some.inj hstep
      exact quotaInv_send h hr.1 hr.2 hguard
    · exact nomatch hstep
  | respond request =>
    simp only [quotaStep] at hstep
    split at hstep
    · exact nomatch hstep
    · next limiter hi =>
      split at hstep
      · next hr =>
        obtain rfl := Option.some.inj hstep
        exact quotaInv_respond h hr.1 hr.2 hi
      · exact nomatch hstep
  | fail request =>
    simp only [quotaStep] at hstep
    split at hstep
    · next hr =>
      obtain rfl := Option.some.inj hstep
      exact quotaInv_fail h hr hguard
    · exact nomatch hstep

end Steps

/-- **The daily quota is kept** in every run whose steps meet the condition: in every state reached,
no day has seen more requests than the provider's limit. -/
theorem sends_le_dailyRateLimit {provider : QuotaProvider} {events : List QuotaEvent}
    {s : QuotaState} (hguard : AllSteps (quotaStep provider) QuotaGuard {} events)
    (hrun : run (quotaStep provider) {} events = some s) (day : ℕ) :
    s.sentOn day ≤ provider.dailyRateLimit := by
  have hinit : QuotaInv provider {} := by
    refine ⟨fun _ ↦ Nat.zero_le _, fun _ _ ↦ rfl, Nat.zero_le _, Nat.zero_le _, ?_, ?_⟩
    · exact fun r hr ↦ absurd hr List.not_mem_nil
    · exact fun limiter hl ↦ absurd hl List.not_mem_nil
  exact (invariant_run_of_guard (fun hs hg he ↦ quotaInv_step hs hg he) hinit hguard hrun).bounded
    day

/-! ### Two analyses -/

/-- A request of a limiter that is checked, sent and answered on the first day. -/
def requestOf (i : ℕ) : List QuotaEvent :=
  [.check 0 i, .send ⟨0, i, 0, false⟩, .respond ⟨0, i, 0, true⟩]

/-- Requests of one limiter, one after the other. -/
def requestsOf (i n : ℕ) : List QuotaEvent :=
  (List.replicate n (requestOf i)).flatten

/-- A limiter whose own record is below the limit lets a request through. -/
theorem run_requestOf {provider : QuotaProvider} {limiters : List DailyRateLimiter}
    {sends : List ℕ} {i k : ℕ} (hi : limiters[i]? = some ⟨k, 0⟩)
    (hlt : k < provider.dailyRateLimit) :
    run (quotaStep provider) ⟨0, limiters, [], sends⟩ (requestOf i) =
      some ⟨0, limiters.set i ⟨k + 1, 0⟩, [], sends ++ [0]⟩ := by
  have hlength := (List.getElem?_eq_some_iff.1 hi).1
  have hpass : DailyRateLimiter.check provider 0 ⟨k, 0⟩ = (.ok (), ⟨k, 0⟩) := by
    simp [DailyRateLimiter.check, refresh, Nat.not_le.2 hlt]
  have hcheck : quotaStep provider ⟨0, limiters, [], sends⟩ (.check 0 i) =
      some ⟨0, limiters.set i ⟨k, 0⟩, [⟨0, i, 0, false⟩], sends⟩ := by
    simp only [quotaStep, hi, hpass]
  have hsend : quotaStep provider ⟨0, limiters.set i ⟨k, 0⟩, [⟨0, i, 0, false⟩], sends⟩
      (.send ⟨0, i, 0, false⟩) =
        some ⟨0, limiters.set i ⟨k, 0⟩, [⟨0, i, 0, true⟩], sends ++ [0]⟩ := by
    simp [quotaStep]
  have hrespond : quotaStep provider ⟨0, limiters.set i ⟨k, 0⟩, [⟨0, i, 0, true⟩], sends ++ [0]⟩
      (.respond ⟨0, i, 0, true⟩) =
        some ⟨0, limiters.set i ⟨k + 1, 0⟩, [], sends ++ [0]⟩ := by
    simp [quotaStep, List.getElem?_set_self hlength, increment, List.set_set]
  exact run_cons_eq_some_iff.2 ⟨_, hcheck, run_cons_eq_some_iff.2 ⟨_, hsend,
    run_cons_eq_some_iff.2 ⟨_, hrespond, rfl⟩⟩⟩

/-- As long as the limiter's own record stays within the limit, every request of it is sent. -/
theorem run_requestsOf {provider : QuotaProvider} {limiters : List DailyRateLimiter}
    {sends : List ℕ} {i k n : ℕ} (hi : limiters[i]? = some ⟨k, 0⟩)
    (hle : k + n ≤ provider.dailyRateLimit) :
    run (quotaStep provider) ⟨0, limiters, [], sends⟩ (requestsOf i n) =
      some ⟨0, limiters.set i ⟨k + n, 0⟩, [], sends ++ List.replicate n 0⟩ := by
  obtain ⟨hlength, hget⟩ := List.getElem?_eq_some_iff.1 hi
  induction n generalizing limiters sends k with
  | zero =>
    have hself : limiters.set i ⟨k + 0, 0⟩ = limiters := by
      rw [Nat.add_zero, ← hget]
      exact List.set_getElem_self hlength
    rw [hself, List.replicate_zero, List.append_nil]
    rfl
  | succ n ih =>
    have hset : i < (limiters.set i ⟨k + 1, 0⟩).length := by rwa [List.length_set]
    have hrest : run (quotaStep provider) ⟨0, limiters.set i ⟨k + 1, 0⟩, [], sends ++ [0]⟩
        (requestsOf i n) = _ :=
      ih (List.getElem?_set_self hlength) (by omega) hset (List.getElem_set_self hset)
    rw [requestsOf, List.replicate_succ, List.flatten_cons, run_append,
      run_requestOf hi (by omega)]
    refine hrest.trans ?_
    rw [List.set_set, List.append_assoc, List.singleton_append, ← List.replicate_succ,
      Nat.add_right_comm, Nat.add_assoc]

/-- Two analyses use a provider on one day, each with a provider object of its own. -/
def twoAnalyses (n m : ℕ) : List QuotaEvent :=
  [.create, .create] ++ requestsOf 0 n ++ requestsOf 1 m

/-- One request of one analysis is within the limit, as the condition says. -/
theorem sends_of_one_request :
    ∃ s, run (quotaStep .fmp) {} (.create :: requestOf 0) = some s ∧
      s.sentOn 0 ≤ QuotaProvider.fmp.dailyRateLimit := by
  have hguard : AllSteps (quotaStep .fmp) QuotaGuard {} (.create :: requestOf 0) := by
    refine ⟨trivial, fun s hs ↦ ?_⟩
    obtain rfl := Option.some.inj hs
    refine ⟨⟨rfl, fun j limiter hj hne ↦ ?_⟩, fun s hs ↦ ?_⟩
    · -- there is one limiter only
      cases j with
      | zero => exact absurd rfl hne
      | succ j => cases hj
    · obtain rfl := Option.some.inj hs
      exact ⟨rfl, fun s _ ↦ ⟨trivial, fun _ _ ↦ trivial⟩⟩
  have hrun : run (quotaStep .fmp) {} (.create :: requestOf 0) = some ⟨0, [⟨1, 0⟩], [], [0]⟩ := by
    decide
  exact ⟨_, hrun, sends_le_dailyRateLimit hguard hrun 0⟩

/-- Two analyses send 1600 requests to Twelve Data on one day, whose limit is 800. -/
theorem two_analyses_exceed_limit :
    ∃ s, run (quotaStep .twelveData) {} (twoAnalyses 800 800) = some s ∧
      s.sentOn 0 = 1600 ∧ QuotaProvider.twelveData.dailyRateLimit = 800 := by
  have hcreate : run (quotaStep .twelveData) {} [.create, .create] =
      some ⟨0, [⟨0, 0⟩, ⟨0, 0⟩], [], []⟩ := rfl
  have hfirst : run (quotaStep .twelveData) ⟨0, [⟨0, 0⟩, ⟨0, 0⟩], [], []⟩ (requestsOf 0 800) =
      some ⟨0, [⟨800, 0⟩, ⟨0, 0⟩], [], List.replicate 800 0⟩ :=
    run_requestsOf rfl (le_refl 800)
  have hsecond : run (quotaStep .twelveData)
      ⟨0, [⟨800, 0⟩, ⟨0, 0⟩], [], List.replicate 800 0⟩ (requestsOf 1 800) =
        some ⟨0, [⟨800, 0⟩, ⟨800, 0⟩], [], List.replicate 800 0 ++ List.replicate 800 0⟩ :=
    run_requestsOf rfl (le_refl 800)
  refine ⟨⟨0, [⟨800, 0⟩, ⟨800, 0⟩], [], List.replicate 800 0 ++ List.replicate 800 0⟩, ?_, ?_, rfl⟩
  · rw [twoAnalyses, run_append, run_append, hcreate, Option.bind_some, hfirst, Option.bind_some]
    exact hsecond
  · rw [QuotaState.sentOn, List.count_append, List.count_replicate_self]

end InvestmentAssistant
