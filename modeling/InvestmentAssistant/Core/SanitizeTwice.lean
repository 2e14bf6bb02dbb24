import InvestmentAssistant.Core.KeyValueMasking
import InvestmentAssistant.Core.UrlMasking

/-!
# Sanitizing a message twice

Masking the values of keys is done once and for all (`maskKeys_maskKeys`). But the values are taken
out after the URLs were looked for, and what is left may join to a URL with credentials: a value may
have had a blank before it, or an `@` in it. Then the second pass masks them. It does so exactly
where, in what is kept of the message, a scheme has an `@` after it in its word and what comes
between is not masked (`KeptUrlsMasked`).

That the second pass then changes the message for good, and does not come back to the text that it
began with, is seen on the `potential`, which no pass makes larger.
-/

namespace InvestmentAssistant

open CharClass Substitution

/-! ### The potential of keys -/

/-- Only asterisks and an `@` at the head of a text see the asterisks before it. -/
theorem potential_of_head {text : List Char} (h : ∀ c ∈ text.head?, c ≠ '*' ∧ c ≠ '@') (run : ℕ) :
    potential run text = potential 0 text := by
  cases text with
  | nil => rfl
  | cons c text =>
    obtain ⟨hstar, hat⟩ := h c rfl
    rw [potential_cons hstar hat, potential_cons hstar hat]

theorem exists_potential_append (run : ℕ) (lead rest : List Char) :
    ∃ run', potential run (lead ++ rest) = potential run lead + potential run' rest := by
  induction lead generalizing run with
  | nil => exact ⟨run, (Nat.zero_add _).symm⟩
  | cons c lead ih =>
    rw [List.cons_append, potential, potential]
    split
    · exact ih (run + 1)
    · obtain ⟨run', heq⟩ := ih 0
      exact ⟨run', by rw [heq]; omega⟩

/-- A key with asterisks is no larger than the key with its value. -/
theorem potential_masked_le {key gap value rest rest' : List Char} {sep : Char}
    (hsep : sep ≠ '*' ∧ sep ≠ '@') (hrest : ∀ c ∈ rest.head?, c ≠ '*' ∧ c ≠ '@')
    (hrest' : ∀ c ∈ rest'.head?, c ≠ '*' ∧ c ≠ '@') (hle : potential 0 rest' ≤ potential 0 rest)
    (run : ℕ) :
    potential run (key ++ maskedValue ++ rest') ≤
      potential run (key ++ (gap ++ sep :: value ++ rest)) := by
  have hnew : potential run (key ++ '=' :: '*' :: '*' :: '*' :: rest') =
      potential run key + 1 + potential 0 rest' := by
    rw [potential_append_cons (by decide) (by decide), potential_cons_star, potential_cons_star,
      potential_cons_star, potential_of_head hrest']
  obtain ⟨run₁, hkeyed⟩ := exists_potential_append run key gap
  obtain ⟨run₂, hvalue⟩ := exists_potential_append 0 value rest
  have hhead := potential_of_head hrest run₂
  calc potential run (key ++ maskedValue ++ rest')
    _ = potential run (key ++ '=' :: '*' :: '*' :: '*' :: rest') := by simp [maskedValue]
    _ ≤ potential run (key ++ gap) + 1 + potential 0 (value ++ rest) := by
      rw [hnew, hkeyed, hvalue, hhead]
      omega
    _ = potential run ((key ++ gap) ++ sep :: (value ++ rest)) :=
      (potential_append_cons hsep.1 hsep.2 run _ _).symm
    _ = potential run (key ++ (gap ++ sep :: value ++ rest)) := by simp

/-- **A pass over the keys makes no text larger.** -/
theorem potential_maskKeys_le (run : ℕ) (text : List Char) :
    potential run (maskKeys text) ≤ potential run text := by
  obtain ⟨pieces, hreads⟩ := exists_reads shrinks_keyValue text
  rw [maskKeys, hreads.replaceAll_eq shrinks_keyValue]
  induction hreads generalizing run with
  | nil => exact le_rfl
  | keep _ _ ih =>
    exact potential_cons_mono (r := (· ≤ ·)) (fun k h ↦ Nat.add_le_add_right h k) ih _ run
  | @replace _ _ rest pieces hsome hreads ih =>
    obtain ⟨key, tail, a, rfl, hkey, hassignment, rfl⟩ := keyValue_eq_some hsome
    obtain ⟨-, gap, sep, value, rfl, hsep⟩ := assignment_eq_some hassignment
    have hstop := exhausts_assignment _ _ _ hassignment
    have hrest : ∀ c ∈ rest.head?, c ≠ '*' ∧ c ≠ '@' := by
      intro c hc
      constructor
      · rintro rfl
        exact absurd (hstop _ hc) (by decide)
      · rintro rfl
        exact absurd (hstop _ hc) (by decide)
    have hsep' : sep ≠ '*' ∧ sep ≠ '@' := by obtain rfl | rfl := hsep <;> decide
    rw [copies_assignment _ _ _ hassignment]
    exact potential_masked_le hsep' hrest (head_output_of_head hreads hstop ▸ hrest) (ih 0) run

/-- **Where the two passes give a text back, its URLs are masked.** -/
theorem urlsMasked_of_eq {text : List Char} (h : maskKeys (maskUrls text) = text) :
    UrlsMasked text := by
  refine (potential_maskUrls_lt text).resolve_left fun hlt ↦ ?_
  have hle := potential_maskKeys_le 0 (maskUrls text)
  rw [h] at hle
  exact absurd (hlt 0) hle.not_gt

/-! ### What is kept of a message -/

/-- The credentials are masked in what is kept of them. -/
def KeptCredsMasked (creds : List (Piece Char)) : Prop :=
  creds = ['*', '*', '*'].map Piece.kept ∨
    ∃ user, creds = user ++ [':', '*', '*', '*'].map Piece.kept

/-- Where a scheme is kept and an `@` after it in the same word, and this is the last `@` that is
kept in the word, what comes between is masked. -/
def KeptUrlsMasked (pieces : List (Piece Char)) : Prop :=
  ∀ before scheme creds after,
    pieces = before ++ (scheme ++ [':', '/', '/']).map Piece.kept ++ creds ++ .kept '@' :: after →
    IsScheme scheme → (∀ b, .kept b ∈ creds → isBlank b = false) →
    (∀ between later, after = between ++ .kept '@' :: later →
      ∃ b, .kept b ∈ between ∧ isBlank b = true) →
    KeptCredsMasked creds

/-- Every replacement is a key with asterisks. -/
def KeyPieces (pieces : List (Piece Char)) : Prop :=
  ∀ out, .replaced out ∈ pieces → ∃ key, IsKeyText key ∧ out = key ++ maskedValue

section KeyPieces

variable {pieces before after : List (Piece Char)}

theorem keyPieces_of_reads {text : List Char} (h : Reads keyValue text pieces) :
    KeyPieces pieces := by
  refine h.forall_replaced fun text out rest hsome ↦ ?_
  obtain ⟨key, tail, a, -, hkey, -, rfl⟩ := keyValue_eq_some hsome
  exact ⟨key, hkey, rfl⟩

theorem KeyPieces.of_append (h : KeyPieces (before ++ after)) :
    KeyPieces before ∧ KeyPieces after :=
  ⟨fun out hout ↦ h out (List.mem_append_left _ hout),
    fun out hout ↦ h out (List.mem_append_right _ hout)⟩

theorem KeyPieces.of_cons {piece : Piece Char} (h : KeyPieces (piece :: pieces)) :
    KeyPieces pieces :=
  fun out hout ↦ h out (List.mem_cons_of_mem _ hout)

/-- No replacement contains a character that is no letter of a key, but `=` and `*`. -/
theorem KeyPieces.notMem (h : KeyPieces pieces) {c : Char} (hc : ¬ IsKeyChar c)
    (hmask : c ∉ maskedValue) : ∀ out, .replaced out ∈ pieces → c ∉ out := by
  intro out hout hmem
  obtain ⟨key, hkey, rfl⟩ := h out hout
  obtain hmem | hmem := List.mem_append.1 hmem
  · exact hc (hkey.isKeyChar c hmem)
  · exact hmask hmem

theorem KeyPieces.blank_notMem (h : KeyPieces pieces) {c : Char} (hc : isBlank c = true) :
    ∀ out, .replaced out ∈ pieces → c ∉ out := by
  refine h.notMem (fun hkey ↦ Bool.eq_false_iff.1 hkey.isBlank_eq_false hc) ?_
  exact of_isBlank (P := fun c ↦ c ∉ maskedValue) (by decide) hc

theorem KeyPieces.punctuation_notMem (h : KeyPieces pieces) {c : Char}
    (hc : c ∈ [':', '/', '@']) : ∀ out, .replaced out ∈ pieces → c ∉ out := by
  have hpunctuation : c ∈ "=:/@*&\"',;".toList ∧ c ∉ maskedValue := by
    simp only [List.mem_cons, List.not_mem_nil, or_false] at hc
    obtain rfl | rfl | rfl := hc <;> decide
  exact h.notMem (fun hkey ↦ hkey.notMem_punctuation hpunctuation.1) hpunctuation.2

theorem KeyPieces.equals_mem (h : KeyPieces pieces) :
    ∀ out, .replaced out ∈ pieces → '=' ∈ out := by
  intro out hout
  obtain ⟨key, -, rfl⟩ := h out hout
  exact List.mem_append_right _ (List.mem_cons_self ..)

theorem KeyPieces.exists_star (h : KeyPieces pieces) :
    ∀ out, .replaced out ∈ pieces → ∃ lead, out = lead ++ ['*'] := by
  intro out hout
  obtain ⟨key, -, rfl⟩ := h out hout
  exact ⟨key ++ ['=', '*', '*'], by simp [maskedValue]⟩

end KeyPieces

/-- Credentials are masked where what is kept of them is. -/
theorem credsMasked_output_iff {creds : List (Piece Char)} (h : KeyPieces creds) :
    CredsMasked (output creds) ↔ KeptCredsMasked creds := by
  constructor
  · rintro (hstars | ⟨user, huser⟩)
    · left
      rw [← hstars]
      exact eq_map_kept_of_notMem h.equals_mem (by rw [hstars]; decide)
    · obtain ⟨A, C, rfl, -, hC⟩ :=
        exists_kept_of_output_eq (h.punctuation_notMem (c := ':') (by decide)) huser
      have hkept := eq_map_kept_of_notMem h.of_append.2.of_cons.equals_mem (by rw [hC]; decide)
      rw [hC] at hkept
      exact Or.inr ⟨A, by rw [hkept]; rfl⟩
  · rintro (rfl | ⟨user, rfl⟩)
    · exact Or.inl (output_map_kept _)
    · refine Or.inr ⟨output user, ?_⟩
      rw [output, List.flatMap_append]
      exact congrArg _ (output_map_kept _)

/-- A word ends before the next `@`. -/
theorem at_notMem_takeWhile_iff {rest : List Char} : '@' ∉ rest.takeWhile isNotBlank ↔
    ∀ between later, rest = between ++ '@' :: later → ∃ b ∈ between, isBlank b = true := by
  constructor
  · rintro hat between later rfl
    by_contra hnone
    push Not at hnone
    refine hat ?_
    have hall : ∀ c ∈ between, isNotBlank c = true := fun c hc ↦ by
      simpa [isNotBlank] using hnone c hc
    rw [List.takeWhile_append_of_pos hall, List.takeWhile_cons_of_pos (by decide)]
    exact List.mem_append_right _ (List.mem_cons_self ..)
  · intro h hat
    obtain ⟨between, later, hsplit⟩ := List.append_of_mem hat
    have hrest := List.takeWhile_append_dropWhile (p := isNotBlank) (l := rest)
    rw [hsplit, List.append_assoc] at hrest
    obtain ⟨b, hb, hblank⟩ := h between _ hrest.symm
    have hmem : b ∈ rest.takeWhile isNotBlank := hsplit ▸ List.mem_append_left _ hb
    have hnot := List.mem_takeWhile_imp hmem
    rw [isNotBlank, hblank] at hnot
    cases hnot

section Word

variable {pieces : List (Piece Char)}

/-- The blanks of the output were kept. -/
theorem KeyPieces.forall_output_iff (h : KeyPieces pieces) :
    (∀ c ∈ output pieces, isBlank c = false) ↔ ∀ b, .kept b ∈ pieces → isBlank b = false := by
  constructor
  · exact fun hblank b hb ↦ hblank b (mem_output_of_kept hb)
  · intro hblank c hc
    by_contra hcblank
    have hkept := mem_of_mem_output (h.blank_notMem (by simpa using hcblank)) hc
    exact hcblank (hblank c hkept)

/-- The output has no `@` in its first word where none is kept before a blank. -/
theorem KeyPieces.at_notMem_iff (h : KeyPieces pieces) :
    '@' ∉ (output pieces).takeWhile isNotBlank ↔
      ∀ between later, pieces = between ++ .kept '@' :: later →
        ∃ b, .kept b ∈ between ∧ isBlank b = true := by
  rw [at_notMem_takeWhile_iff]
  constructor
  · rintro hat between later rfl
    obtain ⟨b, hb, hblank⟩ := hat (output between) (output later) (by simp)
    exact ⟨b, mem_of_mem_output (h.of_append.1.blank_notMem hblank) hb, hblank⟩
  · intro hat between later hsplit
    obtain ⟨A, C, rfl, rfl, -⟩ :=
      exists_kept_of_output_eq (h.punctuation_notMem (by decide)) hsplit
    obtain ⟨b, hb, hblank⟩ := hat A C rfl
    exact ⟨b, mem_output_of_kept hb, hblank⟩

/-- A URL of the output has its scheme, and the `@`, from what is kept. -/
theorem KeyPieces.exists_url (h : KeyPieces pieces) {lead scheme creds rest : List Char}
    (hscheme : IsScheme scheme)
    (htext : output pieces = lead ++ scheme ++ ':' :: '/' :: '/' :: (creds ++ '@' :: rest)) :
    ∃ before creds' after,
      pieces = before ++ (scheme ++ [':', '/', '/']).map Piece.kept ++ creds' ++
        .kept '@' :: after ∧ output creds' = creds ∧ output after = rest := by
  have hurl : output pieces = (lead ++ (scheme ++ [':', '/']) ++ '/' :: creds) ++ '@' :: rest := by
    rw [htext]
    simp
  obtain ⟨url, after, rfl, hout, rfl⟩ :=
    exists_kept_of_output_eq (h.punctuation_notMem (by decide)) hurl
  have hkeys : KeyPieces url := h.of_append.1
  obtain ⟨start, creds', rfl, hstart, rfl⟩ :=
    exists_kept_of_output_eq (hkeys.punctuation_notMem (by decide)) hout
  -- a replacement ends with an asterisk, which is in no scheme
  have hstar : '*' ∉ scheme ++ [':', '/'] := by
    refine fun hmem ↦ (List.mem_append.1 hmem).elim (fun hmem ↦ ?_) (by decide)
    exact absurd (hscheme.2 '*' hmem) (by decide)
  obtain ⟨before, rfl, -⟩ := exists_append_map_kept hkeys.of_append.1.exists_star hstar hstart
  exact ⟨before, creds', after, by simp, rfl, rfl⟩

end Word

/-- **The URLs of the output are those in what is kept.** -/
theorem urlsMasked_output_iff {pieces : List (Piece Char)} (h : KeyPieces pieces) :
    UrlsMasked (output pieces) ↔ KeptUrlsMasked pieces := by
  constructor
  · rintro hmasked before scheme creds after rfl hscheme hblank hat
    have hcreds : KeyPieces creds := h.of_append.1.of_append.2
    have hafter : KeyPieces after := h.of_append.2.of_cons
    refine (credsMasked_output_iff hcreds).1 ?_
    exact hmasked (output before) scheme (output creds) (output after) (by simp) hscheme
      (hcreds.forall_output_iff.2 hblank) (hafter.at_notMem_iff.2 hat)
  · intro hkept lead scheme creds rest htext hscheme hblank hat
    obtain ⟨before, creds, after, rfl, rfl, rfl⟩ := h.exists_url hscheme htext
    have hcreds : KeyPieces creds := h.of_append.1.of_append.2
    have hafter : KeyPieces after := h.of_append.2.of_cons
    refine (credsMasked_output_iff hcreds).2 ?_
    exact hkept before scheme creds after rfl hscheme (hcreds.forall_output_iff.1 hblank)
      (hafter.at_notMem_iff.1 hat)

/-- The message as the two patterns read it, one after the other. -/
def ReadsMessage (message : List Char) (pieces : List (Piece Char)) : Prop :=
  ∃ urls, Reads urlCreds message urls ∧ Reads keyValue (output urls) pieces

theorem exists_readsMessage (message : List Char) : ∃ pieces, ReadsMessage message pieces := by
  obtain ⟨urls, hurls⟩ := exists_reads shrinks_urlCreds message
  obtain ⟨pieces, hpieces⟩ := exists_reads shrinks_keyValue (output urls)
  exact ⟨pieces, urls, hurls, hpieces⟩

theorem ReadsMessage.output_eq {message : List Char} {pieces : List (Piece Char)}
    (h : ReadsMessage message pieces) : maskKeys (maskUrls message) = output pieces := by
  obtain ⟨urls, hurls, hpieces⟩ := h
  rw [maskKeys, maskUrls, hurls.replaceAll_eq shrinks_urlCreds,
    hpieces.replaceAll_eq shrinks_keyValue]

/-- **A sanitized message is sanitized to itself exactly where its URLs are masked.** -/
theorem maskKeys_maskUrls_eq_self_iff {text : List Char} (h : maskKeys text = text) :
    maskKeys (maskUrls text) = text ↔ UrlsMasked text :=
  ⟨urlsMasked_of_eq, fun hmasked ↦ by rw [maskUrls_eq_self hmasked, h]⟩

/-- **Sanitizing is idempotent exactly where no URL comes up.** As the two patterns read a message,
one after the other: a scheme that is kept, with an `@` that is kept after it in its word, has
masked credentials in between, and they are kept. -/
theorem sanitizeLogMessage_idempotent_iff (message : String) :
    sanitizeLogMessage (sanitizeLogMessage message) = sanitizeLogMessage message ↔
      ∃ pieces, ReadsMessage message.toList pieces ∧ KeptUrlsMasked pieces := by
  have hsanitize : sanitizeLogMessage message =
      String.ofList (maskKeys (maskUrls message.toList)) := by
    rw [← sanitizeLogMessage_ofList, String.ofList_toList]
  have hkept : ∀ pieces, ReadsMessage message.toList pieces →
      (sanitizeLogMessage (sanitizeLogMessage message) = sanitizeLogMessage message ↔
        KeptUrlsMasked pieces) := by
    intro pieces hreads
    obtain ⟨urls, -, hkeys⟩ := id hreads
    rw [hsanitize, sanitizeLogMessage_ofList, String.ofList_inj,
      maskKeys_maskUrls_eq_self_iff (maskKeys_maskKeys _), hreads.output_eq,
      urlsMasked_output_iff (keyPieces_of_reads hkeys)]
  constructor
  · intro h
    obtain ⟨pieces, hreads⟩ := exists_readsMessage message.toList
    exact ⟨pieces, hreads, (hkept pieces hreads).1 h⟩
  · rintro ⟨pieces, hreads, hmasked⟩
    exact (hkept pieces hreads).2 hmasked

/-- Where the value is taken out, a blank goes with it, and an address in the same message becomes
the end of a URL with credentials. -/
theorem not_sanitizeLogMessage_idempotent :
    sanitizeLogMessage "GET http://host/?token: abc,bob@example.org" =
        "GET http://host/?token=***,bob@example.org" ∧
      sanitizeLogMessage "GET http://host/?token=***,bob@example.org" =
        "GET http://***@example.org" ∧
      ¬ ∀ message,
        sanitizeLogMessage (sanitizeLogMessage message) = sanitizeLogMessage message := by
  have hfirst : sanitizeLogMessage "GET http://host/?token: abc,bob@example.org" =
      "GET http://host/?token=***,bob@example.org" := by
    decide +kernel
  have hsecond : sanitizeLogMessage "GET http://host/?token=***,bob@example.org" =
      "GET http://***@example.org" := by
    decide +kernel
  refine ⟨hfirst, hsecond, fun h ↦ ?_⟩
  have heq := h "GET http://host/?token: abc,bob@example.org"
  rw [hfirst, hsecond] at heq
  exact absurd heq (by decide)

end InvestmentAssistant
