import Mathlib.Data.List.TakeWhile
import Mathlib.Tactic

/-!
# Leftmost substitution

A pattern whose repetitions take all they can is a function: at the head of a text it fails, or
gives what to put in the place of the match and what is left (`Matcher`). The matchers here are
composed from classes of characters; `replaceAll` goes through a text from the left and replaces
every match.

An element that a matcher *respects* is in none of its matches, and ends a match in the same way as
the end of the text does. So a text is substituted piece by piece between such elements
(`replaceAll_append_cons`), and what stands behind one of them can be read off the result whatever
precedes it.
-/

namespace Substitution

variable {α : Type*}

/-- At the head of a text: the replacement of the match, and the text after it. -/
abbrev Matcher (α : Type*) := List α → Option (List α × List α)

/-! ### Matchers -/

/-- One element of a class. -/
def one (p : α → Bool) : Matcher α
  | [] => none
  | c :: text => if p c then some ([c], text) else none

/-- As many elements of a class as there are. -/
def many (p : α → Bool) : Matcher α :=
  fun text ↦ some (text.takeWhile p, text.dropWhile p)

/-- Two matchers in a row, with the replacements combined. -/
def chain (f : List α → List α → List α) (m n : Matcher α) : Matcher α :=
  fun text ↦ (m text).bind fun found ↦ (n found.2).map fun next ↦ (f found.1 next.1, next.2)

/-- The first matcher, or the second where the first fails. -/
def orElse (m n : Matcher α) : Matcher α :=
  fun text ↦ (m text).or (n text)

/-- One element of each class in turn. -/
def word : List (α → Bool) → Matcher α
  | [] => fun text ↦ some ([], text)
  | p :: ps => chain (· ++ ·) (one p) (word ps)

/-- The first matcher that does not fail. -/
def firstOf : List (Matcher α) → Matcher α
  | [] => fun _ ↦ none
  | m :: ms => orElse m (firstOf ms)

theorem chain_eq_some_iff {f : List α → List α → List α} {m n : Matcher α} {text r rest : List α} :
    chain f m n text = some (r, rest) ↔
      ∃ c mid d, m text = some (c, mid) ∧ n mid = some (d, rest) ∧ r = f c d := by
  simp only [chain, Option.bind_eq_some_iff, Option.map_eq_some_iff, Prod.exists, Prod.mk.injEq]
  constructor
  · rintro ⟨c, mid, hm, d, _, hn, rfl, rfl⟩
    exact ⟨c, mid, d, hm, hn, rfl⟩
  · rintro ⟨c, mid, d, hm, hn, rfl⟩
    exact ⟨c, mid, hm, d, rest, hn, rfl, rfl⟩

theorem one_eq_some_iff {p : α → Bool} {text r rest : List α} :
    one p text = some (r, rest) ↔ ∃ c, text = c :: rest ∧ p c = true ∧ r = [c] := by
  cases text with
  | nil => simp [one]
  | cons c text =>
    rw [one, Option.ite_none_right_eq_some, Option.some.injEq, Prod.mk.injEq]
    constructor
    · rintro ⟨hc, rfl, rfl⟩
      exact ⟨c, rfl, hc, rfl⟩
    · rintro ⟨d, heq, hd, rfl⟩
      obtain ⟨rfl, rfl⟩ := List.cons.inj heq
      exact ⟨hd, rfl, rfl⟩

/-- A text that is long enough decides whether a word is at its head. -/
theorem word_append {ps : List (α → Bool)} {text : List α} (h : ps.length ≤ text.length)
    (rest : List α) :
    word ps (text ++ rest) = (word ps text).map fun found ↦ (found.1, found.2 ++ rest) := by
  induction ps generalizing text with
  | nil => rfl
  | cons p ps ih =>
    cases text with
    | nil => exact absurd h (Nat.not_succ_le_zero _)
    | cons c text =>
      by_cases hc : p c
      · simp only [word, chain, one, hc, if_true, List.cons_append, Option.bind_some,
          ih (Nat.le_of_succ_le_succ h), Option.map_map]
        rfl
      · simp [word, chain, one, hc]

/-- A word is at the head of a text. -/
theorem word_eq_some_iff {ps : List (α → Bool)} {text r rest : List α} :
    word ps text = some (r, rest) ↔
      text = r ++ rest ∧ List.Forall₂ (fun p c ↦ p c = true) ps r := by
  induction ps generalizing text r with
  | nil =>
    rw [word, Option.some.injEq, Prod.mk.injEq, List.forall₂_nil_left_iff]
    constructor
    · rintro ⟨rfl, rfl⟩
      exact ⟨rfl, rfl⟩
    · rintro ⟨rfl, rfl⟩
      exact ⟨rfl, rfl⟩
  | cons p ps ih =>
    rw [word, chain_eq_some_iff, List.forall₂_cons_left_iff]
    constructor
    · rintro ⟨_, mid, d, hone, hword, rfl⟩
      obtain ⟨c, rfl, hc, rfl⟩ := one_eq_some_iff.1 hone
      obtain ⟨rfl, hd⟩ := ih.1 hword
      exact ⟨rfl, c, d, hc, hd, rfl⟩
    · rintro ⟨rfl, c, d, hc, hd, rfl⟩
      exact ⟨[c], d ++ rest, d, one_eq_some_iff.2 ⟨c, rfl, hc, rfl⟩, ih.2 ⟨rfl, hd⟩, rfl⟩

/-- A repetition ends before the first element that is not in the class. -/
theorem many_append_cons {p : α → Bool} {taken : List α} {b : α} (h : ∀ c ∈ taken, p c = true)
    (hb : p b = false) (rest : List α) :
    many p (taken ++ b :: rest) = some (taken, b :: rest) := by
  rw [many, List.takeWhile_append_of_pos h, List.dropWhile_append_of_pos h,
    List.takeWhile_cons_of_neg (by simp [hb]), List.dropWhile_cons_of_neg (by simp [hb]),
    List.append_nil]

/-- What one of the matchers finds was found by one of them. -/
theorem exists_of_firstOf_eq_some {ms : List (Matcher α)} {text : List α}
    {found : List α × List α} (h : firstOf ms text = some found) :
    ∃ m ∈ ms, m text = some found := by
  induction ms with
  | nil => cases h
  | cons m ms ih =>
    obtain h | ⟨-, h⟩ := Option.or_eq_some_iff.1 h
    · exact ⟨m, List.mem_cons_self .., h⟩
    · obtain ⟨n, hn, hfound⟩ := ih h
      exact ⟨n, List.mem_cons_of_mem _ hn, hfound⟩

/-- Where one of the matchers does not fail, the first of them does not. -/
theorem firstOf_ne_none {ms : List (Matcher α)} {m : Matcher α} (hm : m ∈ ms) {text : List α}
    (h : m text ≠ none) : firstOf ms text ≠ none := by
  induction ms with
  | nil => exact absurd hm List.not_mem_nil
  | cons n ms ih =>
    rw [firstOf, orElse, Ne, Option.or_eq_none_iff, not_and_or]
    obtain rfl | hm := List.mem_cons.1 hm
    · exact Or.inl h
    · exact Or.inr (ih hm)

/-! ### Matches that are copied -/

/-- The replacement of a match is the match. -/
def Copies (m : Matcher α) : Prop :=
  ∀ text r rest, m text = some (r, rest) → text = r ++ rest

theorem copies_one (p : α → Bool) : Copies (one p) := by
  intro text r rest h
  obtain ⟨c, rfl, -, rfl⟩ := one_eq_some_iff.1 h
  rfl

theorem copies_many (p : α → Bool) : Copies (many p) := by
  intro text r rest h
  obtain ⟨rfl, rfl⟩ := Prod.mk.inj (Option.some.inj h)
  exact (List.takeWhile_append_dropWhile (p := p) (l := text)).symm

theorem copies_word (ps : List (α → Bool)) : Copies (word ps) :=
  fun _ _ _ h ↦ (word_eq_some_iff.1 h).1

theorem Copies.chain {m n : Matcher α} (hm : Copies m) (hn : Copies n) :
    Copies (chain (· ++ ·) m n) := by
  intro text r rest h
  obtain ⟨c, mid, d, hmid, hrest, rfl⟩ := chain_eq_some_iff.1 h
  rw [hm text c mid hmid, hn mid d rest hrest, List.append_assoc]

theorem Copies.orElse {m n : Matcher α} (hm : Copies m) (hn : Copies n) : Copies (orElse m n) := by
  intro text r rest h
  obtain h | ⟨-, h⟩ := Option.or_eq_some_iff.1 h
  · exact hm text r rest h
  · exact hn text r rest h

/-- A match takes all of a class that it can. -/
def Exhausts (p : α → Bool) (m : Matcher α) : Prop :=
  ∀ text r rest, m text = some (r, rest) → ∀ c ∈ rest.head?, p c = false

theorem exhausts_many (p : α → Bool) : Exhausts p (many p) := by
  intro text r rest h c hc
  obtain ⟨-, rfl⟩ := Prod.mk.inj (Option.some.inj h)
  have hhead := List.head?_dropWhile_not p text
  rw [Option.mem_def.1 hc] at hhead
  simpa using hhead

theorem Exhausts.chain {p : α → Bool} {f : List α → List α → List α} {m n : Matcher α}
    (hn : Exhausts p n) : Exhausts p (chain f m n) := by
  intro text r rest h
  obtain ⟨-, mid, d, -, hrest, -⟩ := chain_eq_some_iff.1 h
  exact hn mid d rest hrest

theorem Exhausts.orElse {p : α → Bool} {m n : Matcher α} (hm : Exhausts p m) (hn : Exhausts p n) :
    Exhausts p (orElse m n) := by
  intro text r rest h
  obtain h | ⟨-, h⟩ := Option.or_eq_some_iff.1 h
  · exact hm text r rest h
  · exact hn text r rest h

/-! ### What is left is shorter -/

/-- A match leaves no more than there was. -/
def Bounded (m : Matcher α) : Prop :=
  ∀ text r rest, m text = some (r, rest) → rest.length ≤ text.length

/-- A match is not empty. -/
def Shrinks (m : Matcher α) : Prop :=
  ∀ text r rest, m text = some (r, rest) → rest.length < text.length

theorem Shrinks.bounded {m : Matcher α} (hm : Shrinks m) : Bounded m :=
  fun text r rest h ↦ (hm text r rest h).le

theorem shrinks_one (p : α → Bool) : Shrinks (one p) := by
  rintro (- | ⟨c, text⟩) r rest h
  · exact nomatch h
  · obtain ⟨-, h⟩ := Option.ite_none_right_eq_some.1 h
    obtain ⟨-, rfl⟩ := Prod.mk.inj (Option.some.inj h)
    exact Nat.lt_succ_self _

theorem bounded_many (p : α → Bool) : Bounded (many p) := by
  rintro text r rest h
  obtain ⟨-, rfl⟩ := Prod.mk.inj (Option.some.inj h)
  exact (List.dropWhile_suffix p).length_le

theorem Shrinks.chain {f : List α → List α → List α} {m n : Matcher α} (hm : Shrinks m)
    (hn : Bounded n) : Shrinks (chain f m n) := by
  intro text r rest h
  obtain ⟨c, mid, d, hmid, hrest, -⟩ := chain_eq_some_iff.1 h
  exact (hn mid d rest hrest).trans_lt (hm text c mid hmid)

theorem Bounded.chain {f : List α → List α → List α} {m n : Matcher α} (hm : Bounded m)
    (hn : Bounded n) : Bounded (chain f m n) := by
  intro text r rest h
  obtain ⟨c, mid, d, hmid, hrest, -⟩ := chain_eq_some_iff.1 h
  exact (hn mid d rest hrest).trans (hm text c mid hmid)

theorem Bounded.orElse {m n : Matcher α} (hm : Bounded m) (hn : Bounded n) :
    Bounded (orElse m n) := by
  intro text r rest h
  obtain h | ⟨-, h⟩ := Option.or_eq_some_iff.1 h
  · exact hm text r rest h
  · exact hn text r rest h

theorem bounded_word (ps : List (α → Bool)) : Bounded (word ps) := by
  induction ps with
  | nil =>
    intro text r rest h
    obtain ⟨-, rfl⟩ := Prod.mk.inj (Option.some.inj h)
    exact le_rfl
  | cons p ps ih => exact (shrinks_one p).bounded.chain ih

theorem shrinks_word {ps : List (α → Bool)} (h : ps ≠ []) : Shrinks (word ps) := by
  cases ps with
  | nil => exact absurd rfl h
  | cons p ps => exact (shrinks_one p).chain (bounded_word ps)

theorem shrinks_firstOf {ms : List (Matcher α)} (h : ∀ m ∈ ms, Shrinks m) :
    Shrinks (firstOf ms) := by
  induction ms with
  | nil => exact fun _ _ _ h ↦ nomatch h
  | cons m ms ih =>
    obtain ⟨hm, hms⟩ := List.forall_mem_cons.1 h
    intro text r rest hfound
    obtain hfound | ⟨-, hfound⟩ := Option.or_eq_some_iff.1 hfound
    · exact hm text r rest hfound
    · exact ih hms text r rest hfound

/-! ### Elements in no match -/

/-- No match contains `b`, and what follows it does not matter before. -/
def Respects (b : α) (m : Matcher α) : Prop :=
  ∀ text rest, m (text ++ b :: rest) =
    (m text).map fun found ↦ (found.1, found.2 ++ b :: rest)

section Respects

variable {b : α}

theorem respects_one {p : α → Bool} (hb : p b = false) : Respects b (one p) := by
  rintro (- | ⟨c, text⟩) rest
  · simp [one, hb]
  · by_cases hc : p c <;> simp [one, hc]

theorem takeWhile_append_cons {p : α → Bool} (hb : p b = false) (text rest : List α) :
    (text ++ b :: rest).takeWhile p = text.takeWhile p := by
  induction text with
  | nil => simp [hb]
  | cons c text ih => by_cases hc : p c <;> simp [hc, ih]

theorem dropWhile_append_cons {p : α → Bool} (hb : p b = false) (text rest : List α) :
    (text ++ b :: rest).dropWhile p = text.dropWhile p ++ b :: rest := by
  induction text with
  | nil => simp [hb]
  | cons c text ih => by_cases hc : p c <;> simp [hc, ih]

theorem respects_many {p : α → Bool} (hb : p b = false) : Respects b (many p) := by
  intro text rest
  rw [many, many, takeWhile_append_cons hb, dropWhile_append_cons hb]
  rfl

theorem Respects.chain {f : List α → List α → List α} {m n : Matcher α} (hm : Respects b m)
    (hn : Respects b n) : Respects b (chain f m n) := by
  intro text rest
  rw [Substitution.chain, Substitution.chain, hm text rest]
  rcases m text with - | ⟨c, mid⟩
  · rfl
  · show Option.map _ (n (mid ++ b :: rest)) = _
    rw [hn mid rest]
    rcases hmid : n mid with - | ⟨d, rest'⟩ <;> simp [hmid]

theorem Respects.orElse {m n : Matcher α} (hm : Respects b m) (hn : Respects b n) :
    Respects b (orElse m n) := by
  intro text rest
  rw [Substitution.orElse, Substitution.orElse, hm text rest, hn text rest]
  cases m text <;> rfl

theorem respects_word {ps : List (α → Bool)} (hb : ∀ p ∈ ps, p b = false) :
    Respects b (word ps) := by
  induction ps with
  | nil => exact fun _ _ ↦ rfl
  | cons p ps ih =>
    obtain ⟨hp, hps⟩ := List.forall_mem_cons.1 hb
    exact (respects_one hp).chain (ih hps)

theorem respects_firstOf {ms : List (Matcher α)} (h : ∀ m ∈ ms, Respects b m) :
    Respects b (firstOf ms) := by
  induction ms with
  | nil => exact fun _ _ ↦ rfl
  | cons m ms ih =>
    obtain ⟨hm, hms⟩ := List.forall_mem_cons.1 h
    exact hm.orElse (ih hms)

end Respects

/-! ### Substitution -/

/-- Replace the matches from the left, for as many rounds. -/
def replaceWithin (m : Matcher α) : ℕ → List α → List α
  | 0, text => text
  | _ + 1, [] => []
  | rounds + 1, c :: text =>
    match m (c :: text) with
    | some (r, rest) => r ++ replaceWithin m rounds rest
    | none => c :: replaceWithin m rounds text

/-- Replace all matches, from the left; each round takes at least one element. -/
def replaceAll (m : Matcher α) (text : List α) : List α :=
  replaceWithin m text.length text

section ReplaceAll

variable {m : Matcher α}

/-- Further rounds change nothing. -/
theorem replaceWithin_eq (hm : Shrinks m) {k : ℕ} {text : List α} (h : text.length ≤ k) :
    replaceWithin m k text = replaceAll m text := by
  have hany : ∀ (n k : ℕ) (text : List α), text.length ≤ n → text.length ≤ k →
      replaceWithin m n text = replaceWithin m k text := by
    intro n
    induction n with
    | zero =>
      intro k text hn _
      obtain rfl := List.length_eq_zero_iff.1 (Nat.le_zero.1 hn)
      cases k <;> rfl
    | succ n ih =>
      intro k text hn hk
      cases text with
      | nil => cases k <;> rfl
      | cons c text =>
        obtain ⟨k, rfl⟩ := Nat.exists_eq_succ_of_ne_zero (Nat.ne_zero_of_lt hk)
        have hn' := Nat.le_of_succ_le_succ hn
        have hk' := Nat.le_of_succ_le_succ hk
        rw [replaceWithin, replaceWithin]
        rcases hfound : m (c :: text) with - | ⟨r, rest⟩
        · exact congrArg _ (ih k text hn' hk')
        · have hrest : rest.length ≤ text.length :=
            Nat.le_of_lt_succ (hm (c :: text) r rest hfound)
          exact congrArg _ (ih k rest (hrest.trans hn') (hrest.trans hk'))
  exact hany k text.length text h le_rfl

/-- Where nothing matches, the head stays. -/
theorem replaceAll_cons {c : α} {text : List α} (h : m (c :: text) = none) :
    replaceAll m (c :: text) = c :: replaceAll m text := by
  rw [replaceAll, List.length_cons, replaceWithin, h]
  rfl

/-- A match is replaced, and the search goes on after it. -/
theorem replaceAll_of_eq_some (hm : Shrinks m) {text r rest : List α}
    (h : m text = some (r, rest)) : replaceAll m text = r ++ replaceAll m rest := by
  cases text with
  | nil => exact absurd (hm [] r rest h) (Nat.not_lt_zero _)
  | cons c text =>
    have hrest : rest.length ≤ text.length := Nat.le_of_lt_succ (hm (c :: text) r rest h)
    rw [replaceAll, List.length_cons, replaceWithin, h]
    exact congrArg _ (replaceWithin_eq hm hrest)

/-- A text in which nothing matches stays. -/
theorem replaceAll_append {lead text : List α}
    (h : ∀ c suffix, c :: suffix <:+ lead → m (c :: suffix ++ text) = none) :
    replaceAll m (lead ++ text) = lead ++ replaceAll m text := by
  induction lead with
  | nil => rfl
  | cons c lead ih =>
    have hhead : m (c :: (lead ++ text)) = none := h c lead List.suffix_rfl
    rw [List.cons_append, replaceAll_cons hhead]
    exact congrArg _ (ih fun d suffix hs ↦ h d suffix (hs.trans (List.suffix_cons c lead)))

/-- **Substitution goes piece by piece.** -/
theorem replaceAll_append_cons {b : α} (hm : Shrinks m) (hb : Respects b m) (text rest : List α) :
    replaceAll m (text ++ b :: rest) = replaceAll m text ++ b :: replaceAll m rest := by
  have hnil : m [] = none := by
    rcases hfound : m [] with - | ⟨r, left⟩
    · rfl
    · exact absurd (hm [] r left hfound) (Nat.not_lt_zero _)
  induction hlen : text.length using Nat.strong_induction_on generalizing text with
  | _ n ih =>
    cases text with
    | nil =>
      have hhead : m (b :: rest) = none := by
        have h := hb [] rest
        rwa [hnil] at h
      exact replaceAll_cons hhead
    | cons c text =>
      rcases hfound : m (c :: text) with - | ⟨r, left⟩
      · have hlong : m (c :: (text ++ b :: rest)) = none := by
          have h := hb (c :: text) rest
          rwa [hfound] at h
        rw [List.cons_append, replaceAll_cons hlong, replaceAll_cons hfound,
          ih text.length (hlen ▸ Nat.lt_succ_self _) text rfl]
        rfl
      · have hlong : m (c :: text ++ b :: rest) = some (r, left ++ b :: rest) := by
          have h := hb (c :: text) rest
          rwa [hfound] at h
        have hleft : left.length < n := hlen ▸ hm (c :: text) r left hfound
        rw [replaceAll_of_eq_some hm hlong, replaceAll_of_eq_some hm hfound, ih _ hleft left rfl,
          List.append_assoc]

end ReplaceAll

/-! ### The last occurrence -/

section SplitLast

variable [DecidableEq α]

/-- The text before and after the last `x`. -/
def splitLast (x : α) : List α → Option (List α × List α)
  | [] => none
  | c :: text =>
    match splitLast x text with
    | some (before, after) => some (c :: before, after)
    | none => if c = x then some ([], text) else none

theorem splitLast_eq_none_iff {x : α} {text : List α} : splitLast x text = none ↔ x ∉ text := by
  induction text with
  | nil => simp [splitLast]
  | cons c text ih =>
    rw [splitLast, List.mem_cons, not_or, ← ih]
    rcases splitLast x text with - | ⟨before, after⟩
    · simp [eq_comm]
    · simp

theorem splitLast_eq_some_iff {x : α} {text before after : List α} :
    splitLast x text = some (before, after) ↔ text = before ++ x :: after ∧ x ∉ after := by
  induction text generalizing before after with
  | nil => simp [splitLast]
  | cons c text ih =>
    rw [splitLast]
    rcases hsplit : splitLast x text with - | ⟨before', after'⟩
    · have hmem := splitLast_eq_none_iff.1 hsplit
      show (if c = x then some ([], text) else none) = _ ↔ _
      constructor
      · intro h
        obtain ⟨rfl, heq⟩ := Option.ite_none_right_eq_some.1 h
        obtain ⟨rfl, rfl⟩ := Prod.mk.inj (Option.some.inj heq)
        exact ⟨rfl, hmem⟩
      · rintro ⟨htext, hafter⟩
        cases before with
        | nil =>
          obtain ⟨rfl, rfl⟩ := List.cons.inj htext
          exact if_pos rfl
        | cons d before =>
          obtain ⟨-, rfl⟩ := List.cons.inj htext
          exact absurd (List.mem_append_right _ (List.mem_cons_self ..)) hmem
    · obtain ⟨htext', hafter'⟩ := ih.1 hsplit
      show some (c :: before', after') = some (before, after) ↔ _
      constructor
      · intro h
        obtain ⟨rfl, rfl⟩ := Prod.mk.inj (Option.some.inj h)
        exact ⟨congrArg _ htext', hafter'⟩
      · rintro ⟨htext, hafter⟩
        cases before with
        | nil =>
          obtain ⟨-, rfl⟩ := List.cons.inj htext
          exact absurd (htext' ▸ List.mem_append_right _ (List.mem_cons_self ..)) hafter
        | cons d before =>
          obtain ⟨rfl, hrest⟩ := List.cons.inj htext
          have heq := ih.2 ⟨hrest, hafter⟩
          rw [hsplit] at heq
          obtain ⟨rfl, rfl⟩ := Prod.mk.inj (Option.some.inj heq)
          rfl

end SplitLast

/-- A part without `x` ends before `x` does. -/
theorem exists_append_of_notMem {x : α} {text rest before after : List α} (h : x ∉ text)
    (heq : text ++ rest = before ++ x :: after) :
    ∃ k, before = text ++ k ∧ rest = k ++ x :: after := by
  obtain ⟨k, hk, hrest⟩ | ⟨k, rfl, hrest⟩ := List.append_eq_append_iff.1 heq
  · exact ⟨k, hk, hrest⟩
  · cases k with
    | nil => exact ⟨[], by simp, hrest.symm⟩
    | cons c k =>
      refine absurd (List.mem_append_right _ ?_) h
      exact (List.cons.inj hrest).1 ▸ List.mem_cons_self ..

/-- A part without `x` begins after `x` does. -/
theorem exists_append_of_notMem_right {x : α} {lead text before after : List α} (h : x ∉ text)
    (heq : before ++ x :: after = lead ++ text) :
    ∃ k, lead = before ++ x :: k ∧ after = k ++ text := by
  obtain ⟨k, rfl, hk⟩ | ⟨k, hk, rfl⟩ := List.append_eq_append_iff.1 heq
  · cases k with
    | nil =>
      refine absurd (List.mem_cons_self ..) (?_ : x ∉ x :: after)
      exact hk ▸ h
    | cons c k =>
      obtain ⟨rfl, rfl⟩ := List.cons.inj hk
      exact ⟨k, rfl, rfl⟩
  · exact absurd (List.mem_append_right _ (List.mem_cons_self ..)) h

/-- Two lists split at their first `x`. -/
theorem append_cons_inj_of_first {x : α} {before before' after after' : List α} (h : x ∉ before)
    (h' : x ∉ before') (heq : before ++ x :: after = before' ++ x :: after') :
    before = before' ∧ after = after' := by
  obtain ⟨k, rfl, hk⟩ := exists_append_of_notMem h heq
  cases k with
  | nil => exact ⟨(List.append_nil _).symm, (List.cons.inj hk).2⟩
  | cons c k =>
    refine absurd (List.mem_append_right _ ?_) h'
    exact (List.cons.inj hk).1 ▸ List.mem_cons_self ..

/-- The text after the last element of a class. -/
theorem exists_last_of_class (p : α → Bool) (text : List α) :
    (∀ c ∈ text, p c = false) ∨
      ∃ before b after, text = before ++ b :: after ∧ p b = true ∧ ∀ c ∈ after, p c = false := by
  induction text with
  | nil => exact Or.inl fun _ h ↦ nomatch h
  | cons c text ih =>
    obtain hnone | ⟨before, b, after, rfl, hb, hafter⟩ := ih
    · cases hc : p c with
      | true => exact Or.inr ⟨[], c, text, rfl, hc, hnone⟩
      | false => exact Or.inl (List.forall_mem_cons.2 ⟨hc, hnone⟩)
    · exact Or.inr ⟨c :: before, b, after, rfl, hb, hafter⟩

end Substitution
