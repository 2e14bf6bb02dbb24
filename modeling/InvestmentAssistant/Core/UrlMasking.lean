import InvestmentAssistant.Core.UrlPasswords
import InvestmentAssistant.Foundation.Readings

/-!
# Texts with masked URLs

The credentials of a URL are masked where they are `***` or end in `:***`. A text is left as it is
by `_URL_CREDS_RE.sub` exactly where the credentials of all its URLs are masked already
(`maskUrls_eq_self`, `potential_maskUrls_lt`).

That a text which is not left changes for good is seen on a number, `potential`: the characters that
are no asterisks, where an `@` counts twice unless just three asterisks stand before it. Masking
the credentials of a URL makes it smaller, or finds them masked.
-/

namespace InvestmentAssistant

open CharClass Substitution

/-! ### What the pattern finds -/

/-- The scheme of a match. -/
theorem isScheme_of_urlScheme_eq_some {text scheme rest : List Char}
    (h : urlScheme text = some (scheme, rest)) : IsScheme scheme := by
  refine ⟨?_, (urlScheme_eq_some h).2⟩
  obtain ⟨scheme, mid, d, hprotocol, -, rfl⟩ := chain_eq_some_iff.1 h
  obtain ⟨r, tail, letters, hone, -, rfl⟩ := chain_eq_some_iff.1 hprotocol
  obtain ⟨c, -, hc, rfl⟩ := one_eq_some_iff.1 hone
  exact ⟨c, letters, rfl, hc⟩

theorem isBlank_of_credentials_eq_some {text creds rest : List Char}
    (h : credentials text = some (creds, rest)) : ∀ c ∈ creds, isBlank c = false := by
  obtain ⟨⟨before, after⟩, hsplit, heq⟩ := Option.map_eq_some_iff.1 h
  obtain ⟨rfl, -⟩ := Prod.mk.inj heq
  obtain ⟨htake, -⟩ := splitLast_eq_some_iff.1 hsplit
  intro c hc
  have hmem : c ∈ text.takeWhile isNotBlank := htake ▸ List.mem_append_left _ hc
  simpa [isNotBlank] using List.mem_takeWhile_imp hmem

/-- **A match is a URL with credentials**, up to the last `@` of its word. -/
theorem urlCreds_eq_some_iff {text out rest : List Char} : urlCreds text = some (out, rest) ↔
    ∃ scheme creds, text = scheme ++ ':' :: '/' :: '/' :: (creds ++ '@' :: rest) ∧
      IsScheme scheme ∧ (∀ c ∈ creds, isBlank c = false) ∧ '@' ∉ rest.takeWhile isNotBlank ∧
      out = maskUrlCreds scheme creds := by
  rw [urlCreds, chain_eq_some_iff]
  constructor
  · rintro ⟨scheme, mid, creds, hscheme, hcreds, rfl⟩
    obtain ⟨rfl, hat⟩ := credentials_eq_some hcreds
    exact ⟨scheme, creds, (urlScheme_eq_some hscheme).1, isScheme_of_urlScheme_eq_some hscheme,
      isBlank_of_credentials_eq_some hcreds, hat, rfl⟩
  · rintro ⟨scheme, creds, rfl, hscheme, hcreds, hat, rfl⟩
    exact ⟨scheme, _, creds, urlScheme_of_isScheme hscheme _, credentials_of_append hcreds hat, rfl⟩

/-! ### Masked credentials -/

/-- The credentials are masked, whole or from a colon on. -/
def CredsMasked (creds : List Char) : Prop :=
  creds = ['*', '*', '*'] ∨ ∃ user, creds = user ++ [':', '*', '*', '*']

/-- The credentials of every URL in the text are masked. -/
def UrlsMasked (text : List Char) : Prop :=
  ∀ lead scheme creds rest, text = lead ++ scheme ++ ':' :: '/' :: '/' :: (creds ++ '@' :: rest) →
    IsScheme scheme → (∀ c ∈ creds, isBlank c = false) → '@' ∉ rest.takeWhile isNotBlank →
    CredsMasked creds

/-- What `_mask_url_creds` hides, and what it leaves. -/
theorem exists_hidden (scheme creds : List Char) : ∃ lead c hidden, (c = ':' ∨ c = '/') ∧
    scheme ++ ':' :: '/' :: '/' :: creds = lead ++ c :: hidden ∧
    maskUrlCreds scheme creds = lead ++ [c, '*', '*', '*', '@'] ∧
    (CredsMasked creds ↔ hidden = ['*', '*', '*']) := by
  have hscheme : "://".toList = [':', '/', '/'] := by decide
  have hcolon : ":***@".toList = [':', '*', '*', '*', '@'] := by decide
  have hslash : "://***@".toList = [':', '/', '/', '*', '*', '*', '@'] := by decide
  rcases hsplit : splitLast ':' creds with - | ⟨user, password⟩
  · have hnone := splitLast_eq_none_iff.1 hsplit
    refine ⟨scheme ++ [':', '/'], '/', creds, Or.inr rfl, by simp, ?_, ?_⟩
    · rw [maskUrlCreds, hsplit, hslash, ite_self]
      simp
    · refine or_iff_left ?_
      rintro ⟨user, rfl⟩
      exact hnone (List.mem_append_right _ (List.mem_cons_self ..))
  · obtain ⟨rfl, hnot⟩ := splitLast_eq_some_iff.1 hsplit
    refine ⟨scheme ++ ':' :: '/' :: '/' :: user, ':', password, Or.inl rfl, by simp, ?_, ?_⟩
    · rw [maskUrlCreds_of_append hnot, hscheme, hcolon]
      simp
    · constructor
      · rintro (hstars | ⟨user', heq⟩)
        · have hmem : ':' ∈ ['*', '*', '*'] :=
            hstars ▸ List.mem_append_right _ (List.mem_cons_self ..)
          exact absurd hmem (by decide)
        · rw [heq, splitLast_eq_some_iff.2 ⟨rfl, by decide⟩] at hsplit
          exact (Prod.mk.inj (Option.some.inj hsplit)).2.symm
      · rintro rfl
        exact Or.inr ⟨user, rfl⟩

/-- A part of a text with masked URLs. -/
theorem UrlsMasked.of_append {lead text : List Char} (h : UrlsMasked (lead ++ text)) :
    UrlsMasked text := by
  rintro before scheme creds rest rfl
  exact h (lead ++ before) scheme creds rest (by simp)

/-- **Masked URLs are left as they are.** -/
theorem maskUrls_eq_self {text : List Char} (h : UrlsMasked text) : maskUrls text = text := by
  obtain ⟨pieces, hreads⟩ := exists_reads shrinks_urlCreds text
  rw [maskUrls, hreads.replaceAll_eq shrinks_urlCreds]
  induction hreads with
  | nil => rfl
  | @keep c text pieces _ _ ih =>
    have htext : UrlsMasked ([c] ++ text) := h
    rw [output_cons_kept, ih htext.of_append]
  | @replace _ _ rest pieces hsome _ ih =>
    obtain ⟨scheme, creds, rfl, hscheme, hblank, hat, rfl⟩ := urlCreds_eq_some_iff.1 hsome
    have hmasked := h [] scheme creds rest rfl hscheme hblank hat
    have hassoc : scheme ++ ':' :: '/' :: '/' :: (creds ++ '@' :: rest) =
        scheme ++ ':' :: '/' :: '/' :: creds ++ '@' :: rest := by simp
    obtain ⟨lead, c, hidden, -, htext, hout, hiff⟩ := exists_hidden scheme creds
    have hrest : UrlsMasked ((lead ++ c :: (hidden ++ ['@'])) ++ rest) := by
      rw [hassoc, htext] at h
      simpa using h
    rw [output_cons_replaced, ih hrest.of_append, hassoc, htext, hout, hiff.1 hmasked]
    simp

/-! ### A URL that is masked, and the URLs after it -/

/-- A second separator, in or after the credentials of a URL, begins other credentials there. -/
theorem eq_or_exists_of_separators {scheme creds lead creds' : List Char} (hscheme : ':' ∉ scheme)
    (h : scheme ++ ':' :: '/' :: '/' :: creds = lead ++ ':' :: '/' :: '/' :: creds') :
    creds = creds' ∨ ∃ user, creds = user ++ ':' :: '/' :: '/' :: creds' := by
  obtain ⟨k, -, hk⟩ := exists_append_of_notMem hscheme h
  match k, hk with
  | [], hk => exact Or.inl (by simpa using hk)
  | [c], hk => simp at hk
  | [c, d], hk => simp at hk
  | c :: d :: e :: k, hk =>
    simp only [List.cons_append, List.cons.injEq] at hk
    exact Or.inr ⟨k, hk.2.2.2⟩

/-- The end of masked credentials, from a separator on, is masked. -/
theorem CredsMasked.of_append {user creds : List Char}
    (h : CredsMasked (user ++ ':' :: '/' :: '/' :: creds)) : CredsMasked creds := by
  have hassoc : user ++ ':' :: '/' :: '/' :: creds = (user ++ [':', '/', '/']) ++ creds := by simp
  obtain hstars | ⟨lead, heq⟩ := h
  · have hmem : ':' ∈ ['*', '*', '*'] := hstars ▸ List.mem_append_right _ (List.mem_cons_self ..)
    exact absurd hmem (by decide)
  · rw [hassoc] at heq
    obtain ⟨k, rfl, rfl⟩ | ⟨k, hk, hmask⟩ := List.append_eq_append_iff.1 heq
    · exact Or.inr ⟨k, rfl⟩
    · obtain rfl | ⟨k, c, rfl⟩ := List.eq_nil_or_concat' k
      · exact Or.inr ⟨[], hmask.symm⟩
      · -- the separator does not end inside the mask
        have hend : (user ++ [':', '/']) ++ ['/'] = (lead ++ k) ++ [c] := by simpa using hk
        obtain rfl := List.singleton_inj.1 (List.append_inj' hend rfl).2
        have hmem : '/' ∈ [':', '*', '*', '*'] := by
          rw [hmask]
          simp
        exact absurd hmem (by decide)

/-- **A masked URL comes before masked URLs.** -/
theorem UrlsMasked.append {scheme creds rest : List Char} (hscheme : IsScheme scheme)
    (hblank : ∀ c ∈ creds, isBlank c = false) (hat : '@' ∉ rest.takeWhile isNotBlank)
    (hcreds : CredsMasked creds) (hrest : UrlsMasked rest) :
    UrlsMasked (scheme ++ ':' :: '/' :: '/' :: (creds ++ '@' :: rest)) := by
  intro lead scheme' creds' rest' htext hscheme' hblank' hat'
  have hurl : (scheme ++ ':' :: '/' :: '/' :: creds) ++ '@' :: rest =
      (lead ++ (scheme' ++ [':', '/', '/'])) ++ (creds' ++ '@' :: rest') := by
    simpa using htext
  have hinside : ∀ k, scheme ++ ':' :: '/' :: '/' :: creds =
      lead ++ (scheme' ++ [':', '/', '/']) ++ k →
      creds' ++ '@' :: rest' = k ++ '@' :: rest → CredsMasked creds' := by
    intro k hk hrest'
    -- both URLs end with the last `@` of the word
    have hkblank : ∀ c ∈ k, isBlank c = false := by
      have hall : ∀ c ∈ scheme ++ ':' :: '/' :: '/' :: creds, isBlank c = false := by
        refine List.forall_mem_append.2
          ⟨fun c hc ↦ isBlank_of_isSchemeChar (hscheme.2 c hc), ?_⟩
        simp only [List.forall_mem_cons]
        exact ⟨by decide, by decide, by decide, hblank⟩
      exact fun c hc ↦ hall c (hk ▸ List.mem_append_right _ hc)
    have hends := credentials_of_append hkblank hat
    rw [← hrest', credentials_of_append hblank' hat'] at hends
    obtain ⟨rfl, -⟩ := Prod.mk.inj (Option.some.inj hends)
    have hseparators : scheme ++ ':' :: '/' :: '/' :: creds =
        (lead ++ scheme') ++ ':' :: '/' :: '/' :: creds' := by
      simpa using hk
    have hcolon : ':' ∉ scheme := fun hmem ↦ absurd (hscheme.2 ':' hmem) (by decide)
    obtain rfl | ⟨user, rfl⟩ := eq_or_exists_of_separators hcolon hseparators
    · exact hcreds
    · exact hcreds.of_append
  obtain ⟨k, hk, hk'⟩ | ⟨k, hk, hk'⟩ := List.append_eq_append_iff.1 hurl
  · cases k with
    | nil => exact hinside [] (by simpa using hk.symm) hk'.symm
    | cons c k =>
      -- the other URL begins after this one
      obtain ⟨rfl, hafter⟩ := List.cons.inj hk'
      have hnot : '@' ∉ scheme' ++ [':', '/', '/'] := by
        refine fun hmem ↦ (List.mem_append.1 hmem).elim (fun hmem ↦ ?_) (by decide)
        exact absurd (hscheme'.2 '@' hmem) (by decide)
      obtain ⟨lead', -, rfl⟩ := exists_append_of_notMem_right hnot hk.symm
      exact hrest lead' scheme' creds' rest' (by simpa using hafter) hscheme' hblank' hat'
  · exact hinside k hk hk'

/-! ### The potential -/

/-- The number of characters that are no asterisks, where an `@` counts twice unless just three
asterisks come before it; `run` of them have been read. -/
def potential : ℕ → List Char → ℕ
  | _, [] => 0
  | run, c :: text =>
    if c = '*' then potential (run + 1) text
    else potential 0 text + if c = '@' ∧ run ≠ 3 then 2 else 1

theorem potential_cons_star (run : ℕ) (text : List Char) :
    potential run ('*' :: text) = potential (run + 1) text := rfl

theorem potential_cons_at (run : ℕ) (text : List Char) :
    potential run ('@' :: text) = potential 0 text + if run ≠ 3 then 2 else 1 := by
  simp [potential]

theorem potential_cons {c : Char} (hstar : c ≠ '*') (hat : c ≠ '@') (run : ℕ) (text : List Char) :
    potential run (c :: text) = potential 0 text + 1 := by
  rw [potential, if_neg hstar, if_neg fun h ↦ hat h.1]

/-- A smaller rest makes a smaller text. -/
theorem potential_cons_mono {text text' : List Char} {r : ℕ → ℕ → Prop}
    (hr : ∀ {a b} k, r a b → r (a + k) (b + k))
    (h : ∀ run, r (potential run text) (potential run text')) (c : Char) (run : ℕ) :
    r (potential run (c :: text)) (potential run (c :: text')) := by
  rw [potential, potential]
  split
  · exact h (run + 1)
  · exact hr _ (h 0)

/-- Asterisks do not matter across another character. -/
theorem potential_append_cons {c : Char} (hstar : c ≠ '*') (hat : c ≠ '@') (run : ℕ)
    (lead rest : List Char) :
    potential run (lead ++ c :: rest) = potential run lead + 1 + potential 0 rest := by
  induction lead generalizing run with
  | nil => rw [List.nil_append, potential_cons hstar hat, potential]; omega
  | cons d lead ih =>
    rw [List.cons_append, potential, potential]
    split
    · exact ih (run + 1)
    · rw [ih 0]
      omega

/-- What comes before an `@` is three asterisks or counts. -/
theorem potential_before_at (run : ℕ) (hidden rest : List Char) :
    potential 0 rest + 1 < potential run (hidden ++ '@' :: rest) ∨
      run + hidden.length = 3 ∧ (∀ c ∈ hidden, c = '*') ∧
        potential run (hidden ++ '@' :: rest) = potential 0 rest + 1 := by
  induction hidden generalizing run with
  | nil =>
    rw [List.nil_append, potential_cons_at]
    by_cases hrun : run = 3
    · exact Or.inr ⟨hrun, fun _ h ↦ absurd h List.not_mem_nil, by rw [if_neg (not_not.2 hrun)]⟩
    · rw [if_pos hrun]
      exact Or.inl (Nat.lt_succ_self _)
  | cons c hidden ih =>
    rw [List.cons_append, potential]
    split
    · next hc =>
      obtain h | ⟨hlen, hall, heq⟩ := ih (run + 1)
      · exact Or.inl h
      · refine Or.inr ⟨?_, List.forall_mem_cons.2 ⟨hc, hall⟩, heq⟩
        rw [List.length_cons]
        omega
    · have hle : potential 0 rest + 1 ≤ potential 0 (hidden ++ '@' :: rest) := by
        obtain h | ⟨-, -, heq⟩ := ih 0
        · exact h.le
        · exact heq.ge
      left
      split <;> omega

/-- Masking the credentials of a URL makes it smaller, or finds them masked. -/
theorem potential_maskUrlCreds (scheme creds : List Char) {rest rest' : List Char}
    (hle : potential 0 rest' ≤ potential 0 rest) :
    (∀ run, potential run (maskUrlCreds scheme creds ++ rest') <
        potential run (scheme ++ ':' :: '/' :: '/' :: (creds ++ '@' :: rest))) ∨
      CredsMasked creds ∧ (potential 0 rest' < potential 0 rest →
        ∀ run, potential run (maskUrlCreds scheme creds ++ rest') <
          potential run (scheme ++ ':' :: '/' :: '/' :: (creds ++ '@' :: rest))) := by
  obtain ⟨lead, c, hidden, hc, htext, hout, hiff⟩ := exists_hidden scheme creds
  have hc' : c ≠ '*' ∧ c ≠ '@' := by obtain rfl | rfl := hc <;> decide
  have hold : ∀ run, potential run (scheme ++ ':' :: '/' :: '/' :: (creds ++ '@' :: rest)) =
      potential run lead + 1 + potential 0 (hidden ++ '@' :: rest) := by
    intro run
    have hassoc := congrArg (potential run <| · ++ '@' :: rest) htext
    rw [← potential_append_cons hc'.1 hc'.2]
    simpa using hassoc
  have hnew : ∀ run, potential run (maskUrlCreds scheme creds ++ rest') =
      potential run lead + 1 + (potential 0 rest' + 1) := by
    intro run
    rw [hout, List.append_assoc]
    exact potential_append_cons hc'.1 hc'.2 run lead _
  obtain hlt | ⟨hlen, hall, heq⟩ := potential_before_at 0 hidden rest
  · refine Or.inl fun run ↦ ?_
    rw [hnew, hold]
    omega
  · have hstars : hidden = List.replicate 3 '*' :=
      List.eq_replicate_iff.2 ⟨(Nat.zero_add _).symm.trans hlen, hall⟩
    refine Or.inr ⟨hiff.2 hstars, fun hlt run ↦ ?_⟩
    rw [hnew, hold, heq]
    omega

/-- **A pass over the URLs makes a text smaller, or finds them masked.** -/
theorem potential_maskUrls_lt (text : List Char) :
    (∀ run, potential run (maskUrls text) < potential run text) ∨ UrlsMasked text := by
  obtain ⟨pieces, hreads⟩ := exists_reads shrinks_urlCreds text
  rw [maskUrls, hreads.replaceAll_eq shrinks_urlCreds]
  induction hreads with
  | nil => exact Or.inr fun lead scheme creds rest h ↦ absurd h.symm (by simp)
  | @keep c text pieces hnone _ ih =>
    obtain hlt | hmasked := ih
    · exact Or.inl (potential_cons_mono (r := (· < ·)) (fun k h ↦ Nat.add_lt_add_right h k) hlt c)
    · refine Or.inr fun lead scheme creds rest htext hscheme hblank hat ↦ ?_
      cases lead with
      | nil =>
        -- the pattern would have found the URL
        have hsome := urlCreds_eq_some_iff.2 ⟨scheme, creds, htext, hscheme, hblank, hat, rfl⟩
        rw [hnone] at hsome
        cases hsome
      | cons d lead =>
        exact hmasked lead scheme creds rest (List.cons.inj htext).2 hscheme hblank hat
  | @replace _ _ rest pieces hsome hreads ih =>
    obtain ⟨scheme, creds, rfl, hscheme, hblank, hat, rfl⟩ := urlCreds_eq_some_iff.1 hsome
    rw [output_cons_replaced]
    obtain hlt | hmasked := ih
    · left
      obtain hless | ⟨-, hless⟩ := potential_maskUrlCreds scheme creds (hlt 0).le
      · exact hless
      · exact hless (hlt 0)
    · have hrest : output pieces = rest :=
        (hreads.replaceAll_eq shrinks_urlCreds).symm.trans (maskUrls_eq_self hmasked)
      obtain hless | ⟨hcreds, -⟩ := potential_maskUrlCreds scheme creds (congrArg _ hrest).le
      · exact Or.inl hless
      · exact Or.inr (hmasked.append hscheme hblank hat hcreds)

end InvestmentAssistant
