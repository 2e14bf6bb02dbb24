import InvestmentAssistant.Core.ClientIdentity
import InvestmentAssistant.Foundation.IpSpelling

/-!
# The spellings of a client IP

`resolve_client_ip` reads the address of a hop to decide whether it is valid and whether it is
trusted, and returns the text of the hop. The texts of an address are all valid and trusted alike
(`isValidIp_of_sameAddress`, `isTrustedPeer_iff_of_sameAddress`), so each of them leads to itself
(`clientIp_eq_hop`), and the client IP depends on the address alone exactly when the address has one
text: when it is an IPv4 address.
-/

namespace InvestmentAssistant

open IpAddress Text

variable {trusted : List Network} {directPeer hop hop' : String}

/-! ### Hops -/

/-- A text that may stand between the commas of a header, with nothing around it to strip. -/
structure IsHop (hop : String) : Prop where
  ne_nil : hop.toList ≠ []
  strip_eq : strip hop.toList = hop.toList
  comma_notMem : ',' ∉ hop.toList

theorem isHop_of_mem_hopsOf {xff : String} (h : hop ∈ hopsOf xff) : IsHop hop := by
  obtain ⟨text, htext, rfl⟩ := List.mem_map.1 h
  obtain ⟨hmem, hne⟩ := List.mem_filter.1 htext
  obtain ⟨piece, hpiece, rfl⟩ := List.mem_map.1 hmem
  rw [decide_eq_true_eq] at hne
  refine ⟨by rwa [String.toList_ofList], by rw [String.toList_ofList, strip_strip], ?_⟩
  rw [String.toList_ofList]
  exact fun hcomma ↦ sep_notMem_of_mem_splitOn hpiece (mem_of_mem_strip hcomma)

/-- Hops between commas are the hops of a header. -/
theorem exists_hopsOf_eq {hops : List String} (hne : hops ≠ []) (h : ∀ hop ∈ hops, IsHop hop) :
    ∃ xff, hopsOf xff = hops := by
  refine ⟨String.ofList ([','].intercalate (hops.map String.toList)), ?_⟩
  have hcomma : ∀ piece ∈ hops.map String.toList, ',' ∉ piece := by
    intro piece hpiece
    obtain ⟨hop, hhop, rfl⟩ := List.mem_map.1 hpiece
    exact (h hop hhop).comma_notMem
  have hstrip : (hops.map String.toList).map strip = hops.map String.toList := by
    rw [List.map_map]
    exact List.map_congr_left fun hop hhop ↦ (h hop hhop).strip_eq
  have hfilter : (hops.map String.toList).filter (fun hop ↦ decide (hop ≠ [])) =
      hops.map String.toList := by
    refine List.filter_eq_self.2 fun piece hpiece ↦ ?_
    obtain ⟨hop, hhop, rfl⟩ := List.mem_map.1 hpiece
    exact decide_eq_true (h hop hhop).ne_nil
  rw [hopsOf, String.toList_ofList, List.splitOn_intercalate ',' hcomma (by simpa using hne),
    hstrip, hfilter, List.map_map]
  exact List.map_id'' (fun hop ↦ String.ofList_toList) hops

/-! ### What the spellings of an address have in common -/

theorem isValidIp_of_sameAddress (h : SameAddress hop hop') : IsValidIp hop' := by
  obtain ⟨address, -, haddress', -⟩ := h
  rw [IsValidIp, haddress']
  rfl

theorem isTrustedPeer_iff_of_sameAddress (h : SameAddress hop hop') :
    IsTrustedPeer trusted hop' ↔ IsTrustedPeer trusted hop := by
  obtain ⟨address, haddress, haddress', -⟩ := h
  rw [IsTrustedPeer, IsTrustedPeer, haddress, haddress']

/-! ### The client IP -/

/-- The walk skips trusted hops and ends at a valid one that is not trusted. -/
theorem walkHops_skip {skipped : List String} (hskipped : ∀ other ∈ skipped,
    IsTrustedPeer trusted other) (hhop : ¬ IsTrustedPeer trusted hop) (hvalid : IsValidIp hop)
    (further : List String) :
    walkHops trusted directPeer (skipped ++ hop :: further) = (hop, false) := by
  induction skipped with
  | nil => rw [List.nil_append, walkHops, if_neg hhop, if_pos hvalid]
  | cons other skipped ih =>
    rw [List.cons_append, walkHops, if_pos (hskipped other (List.mem_cons_self ..))]
    exact ih fun other hmem ↦ hskipped other (List.mem_cons_of_mem _ hmem)

/-- **The client IP is the text of the last hop that is not trusted.** -/
theorem clientIp_eq_hop (hpeer : IsTrustedPeer trusted directPeer) {headers : Headers}
    {xff : String} (hheaders : headers.get xForwardedFor = some xff) {left right : List String}
    (hxff : hopsOf xff = left ++ hop :: right)
    (hright : ∀ other ∈ right, IsTrustedPeer trusted other)
    (hhop : ¬ IsTrustedPeer trusted hop) (hvalid : IsValidIp hop) :
    resolveClientIp trusted headers directPeer = (hop, false) := by
  have hhops : hopsOf xff ≠ [] := by simp [hxff]
  rw [resolveClientIp, hheaders, resolveForwarded_of_trusted hpeer hhops, hxff, List.reverse_append,
    List.reverse_cons, List.append_assoc, List.singleton_append]
  exact walkHops_skip (fun other hmem ↦ hright other (List.mem_reverse.1 hmem)) hhop hvalid _

theorem isBlank_of_isAddressChar {c : Char} (h : isAddressChar c = true) :
    CharClass.isBlank c = false :=
  Bool.eq_false_iff.2 fun hblank ↦ Bool.eq_false_iff.1
    (CharClass.of_isBlank (P := fun c ↦ isAddressChar c = false) (by decide) hblank) h

/-- Another spelling of the number, with the same scope, stands between commas as well. -/
theorem IsHop.spelling (h : IsHop hop) {body : List Char} (hne : body ≠ [])
    (hbody : ∀ c ∈ body, isAddressChar c = true) :
    IsHop (String.ofList (body ++ scopeOf hop)) := by
  have hsuffix : scopeOf hop <:+ hop.toList := List.dropWhile_suffix _
  refine ⟨?_, ?_, ?_⟩ <;> rw [String.toList_ofList]
  · exact List.append_ne_nil_of_left_ne_nil hne _
  · refine strip_eq_self_of_ends (fun c hc ↦ ?_) fun c hc ↦ ?_
    · rw [List.head?_append_of_ne_nil _ hne] at hc
      exact isBlank_of_isAddressChar (hbody c (List.mem_of_head? hc))
    · -- the end is that of the scope, and so of the hop, when there is one
      rcases List.eq_nil_or_concat (scopeOf hop) with hscope | ⟨scope, last, hscope⟩
      · rw [hscope, List.append_nil] at hc
        exact isBlank_of_isAddressChar (hbody c (List.mem_of_getLast? hc))
      · obtain ⟨before, hbefore⟩ := hsuffix
        have hlast : c ∈ (strip hop.toList).getLast? := by
          rw [h.strip_eq, ← hbefore]
          rw [hscope, List.concat_eq_append, ← List.append_assoc, List.getLast?_concat] at hc ⊢
          exact hc
        exact isBlank_getLast?_strip hlast
  · intro hcomma
    rcases List.mem_append.1 hcomma with hcomma | hcomma
    · exact absurd (hbody _ hcomma) (by decide)
    · exact h.comma_notMem (hsuffix.mem hcomma)

/-- Every spelling of the hop's address, in its place, leads to the same client IP. -/
def SpellingIrrelevant (trusted : List Network) (directPeer : String) (headers : Headers)
    (left : List String) (hop : String) (right : List String) : Prop :=
  ∀ headers' xff' hop', headers'.get xForwardedFor = some xff' →
    hopsOf xff' = left ++ hop' :: right → SameAddress hop hop' →
      (resolveClientIp trusted headers' directPeer).1 =
        (resolveClientIp trusted headers directPeer).1

/-- **The client IP does not depend on the spelling exactly for IPv4 addresses.** Another spelling
of the last hop that is not trusted leads to the same client IP when it is the same text; every
spelling does when the address is an IPv4 address, and only then. -/
theorem clientIp_spelling_iff (hpeer : IsTrustedPeer trusted directPeer) {headers : Headers}
    {xff : String} (hheaders : headers.get xForwardedFor = some xff) {left right : List String}
    (hxff : hopsOf xff = left ++ hop :: right)
    (hright : ∀ other ∈ right, IsTrustedPeer trusted other)
    (hhop : ¬ IsTrustedPeer trusted hop) (hvalid : IsValidIp hop) :
    (∀ headers' xff' hop', headers'.get xForwardedFor = some xff' →
      hopsOf xff' = left ++ hop' :: right → SameAddress hop hop' →
        ((resolveClientIp trusted headers' directPeer).1 =
          (resolveClientIp trusted headers directPeer).1 ↔ hop' = hop)) ∧
    (SpellingIrrelevant trusted directPeer headers left hop right ↔
      ∃ value, ofText? hop = some ⟨.v4, value⟩) := by
  have hpair : ∀ headers' xff' hop', headers'.get xForwardedFor = some xff' →
      hopsOf xff' = left ++ hop' :: right → SameAddress hop hop' →
        ((resolveClientIp trusted headers' directPeer).1 =
          (resolveClientIp trusted headers directPeer).1 ↔ hop' = hop) := by
    intro headers' xff' hop' hheaders' hxff' hsame
    have hhop' : ¬ IsTrustedPeer trusted hop' := by
      rwa [isTrustedPeer_iff_of_sameAddress hsame]
    rw [clientIp_eq_hop hpeer hheaders hxff hright hhop hvalid,
      clientIp_eq_hop hpeer hheaders' hxff' hright hhop' (isValidIp_of_sameAddress hsame)]
  refine ⟨hpair, fun hevery ↦ ?_, ?_⟩
  · obtain ⟨address, haddress⟩ := Option.isSome_iff_exists.1 hvalid
    obtain ⟨version, value⟩ := address
    rcases version with - | -
    · exact ⟨value, haddress⟩
    -- an IPv6 address is spelled in another way
    obtain ⟨body, hne, hbody, hother, hsame⟩ := exists_otherSpelling haddress
    have hhops : ∀ other ∈ left ++ hop :: right, IsHop other := by
      rw [← hxff]
      exact fun other hmem ↦ isHop_of_mem_hopsOf hmem
    obtain ⟨hleft, hhop, hright⟩ := by
      simpa only [List.forall_mem_append, List.forall_mem_cons] using hhops
    have hhops' : ∀ other ∈ left ++ String.ofList (body ++ scopeOf hop) :: right, IsHop other :=
      List.forall_mem_append.2 ⟨hleft, List.forall_mem_cons.2 ⟨hhop.spelling hne hbody, hright⟩⟩
    obtain ⟨xff', hxff'⟩ := exists_hopsOf_eq (by simp) hhops'
    have hheaders' : Headers.get [(xForwardedFor, xff')] xForwardedFor = some xff' := by
      simp [Headers.get]
    exact absurd ((hpair _ _ _ hheaders' hxff' hsame).1 (hevery _ _ _ hheaders' hxff' hsame)) hother
  · rintro ⟨value, hvalue⟩ headers' xff' hop' hheaders' hxff' hsame
    exact (hpair _ _ _ hheaders' hxff' hsame).2 (hsame.eq_of_v4 hvalue)

/-- The only text of an IPv4 address in a header leads to it. -/
theorem clientIp_spelling_iff_v4 :
    SpellingIrrelevant trustedTen "10.0.0.1" [("x-forwarded-for", "198.51.100.23, 10.0.0.1")] []
      "198.51.100.23" ["10.0.0.1"] := by
  have hheader : Headers.get [("x-forwarded-for", "198.51.100.23, 10.0.0.1")] xForwardedFor =
      some "198.51.100.23, 10.0.0.1" := rfl
  have hhops : hopsOf "198.51.100.23, 10.0.0.1" = [] ++ "198.51.100.23" :: ["10.0.0.1"] := by
    decide
  refine (clientIp_spelling_iff (by decide) hheader hhops
    (List.forall_mem_singleton.2 (by decide)) (by decide) (by decide)).2.2
    ⟨((198 * 256 + 51) * 256 + 100) * 256 + 23, by decide⟩

/-- Behind a trusted peer, one IPv6 address has two client IPs and two rate limit keys. -/
theorem two_keys_of_one_address :
    let headers : Headers := [("x-forwarded-for", "2001:db8::1")]
    let headers' : Headers := [("x-forwarded-for", "2001:0DB8::1")]
    let rejectAll : String → Except PyException String :=
      fun _ ↦ .error (.httpException 401 "Token has expired")
    IsTrustedPeer trustedTen "10.0.0.1" ∧ IsValidIp "2001:db8::1" ∧
    ¬ IsTrustedPeer trustedTen "2001:db8::1" ∧ SameAddress "2001:db8::1" "2001:0DB8::1" ∧
    getRateLimitKey trustedTen rejectAll ⟨headers, some "10.0.0.1"⟩ = .ok "2001:db8::1" ∧
    getRateLimitKey trustedTen rejectAll ⟨headers', some "10.0.0.1"⟩ = .ok "2001:0DB8::1" ∧
    ¬ SpellingIrrelevant trustedTen "10.0.0.1" headers [] "2001:db8::1" [] := by
  intro headers headers' rejectAll
  have hsame : SameAddress "2001:db8::1" "2001:0DB8::1" :=
    ⟨⟨.v6, 0x20010db8000000000000000000000001⟩, by decide, by decide, by
      decide⟩
  refine ⟨by decide, by decide, by decide, hsame, by decide,
    by decide, fun h ↦ ?_⟩
  have := h headers' "2001:0DB8::1" "2001:0DB8::1" rfl (by decide) hsame
  exact absurd this (by decide)

end InvestmentAssistant
