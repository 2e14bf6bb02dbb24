import InvestmentAssistant.Core.Errors
import InvestmentAssistant.Foundation.IpAddress

/-!
# Client identity

`resolve_client_ip` finds the client behind the trusted proxies: it goes through the hops of
`X-Forwarded-For` from the right and skips the trusted ones. Everything to the left of the first hop
that is not trusted is the client's own text.

So what the client writes in front of the header is never read (`walkHops_append`): it cannot change
the address, and the address is the direct peer or a valid one that is no trusted proxy
(`resolveForwarded_cases`). The rate limit key of a request without a valid token is such an
address, and no address looks like the key of a user.
-/

namespace InvestmentAssistant

open IpAddress Text

/-! ### Requests -/

/-- The headers of a request, under lower case names. -/
abbrev Headers := List (String × String)

/-- `headers.get`: the first header of this name. -/
def Headers.get (headers : Headers) (name : String) : Option String :=
  (headers.find? fun header ↦ decide (header.1 = name)).map Prod.snd

/-- `_X_FORWARDED_FOR`. -/
def xForwardedFor : String := "x-forwarded-for"

/-- What the rate limiter reads of a request; `clientHost` is missing when there is no client. -/
structure HttpRequest where
  headers : Headers
  clientHost : Option String

/-! ### The client IP -/

/-- `_is_trusted_peer`. -/
def IsTrustedPeer (trusted : List Network) (peer : String) : Prop :=
  match ofText? peer with
  | none => False
  | some address => ∃ network ∈ trusted, network.Contains address

instance (trusted : List Network) (peer : String) : Decidable (IsTrustedPeer trusted peer) := by
  unfold IsTrustedPeer
  split <;> infer_instance

/-- `_is_valid_ip`. -/
def IsValidIp (value : String) : Prop :=
  (ofText? value).isSome

instance (value : String) : Decidable (IsValidIp value) :=
  inferInstanceAs (Decidable (_ = true))

/-- The hops of a header: its pieces, stripped, without the empty ones. -/
def hopsOf (xff : String) : List String :=
  (((xff.toList.splitOn ',').map strip).filter fun hop ↦ decide (hop ≠ [])).map String.ofList

/-- The walk over the reversed hops. -/
def walkHops (trusted : List Network) (directPeer : String) : List String → String × Bool
  | [] => (directPeer, false)
  | hop :: hops =>
    if IsTrustedPeer trusted hop then walkHops trusted directPeer hops
    else if IsValidIp hop then (hop, false)
    else (directPeer, true)

/-- `resolve_client_ip`, from the value of the header on. -/
def resolveForwarded (trusted : List Network) (xff : Option String) (directPeer : String) :
    String × Bool :=
  match xff with
  | none => (directPeer, false)
  | some xff =>
    if xff = "" then (directPeer, false)
    else if hopsOf xff = [] then (directPeer, false)
    else if trusted = [] then (directPeer, true)
    else if ¬ IsTrustedPeer trusted directPeer then (directPeer, true)
    else walkHops trusted directPeer (hopsOf xff).reverse

/-- `resolve_client_ip`. -/
def resolveClientIp (trusted : List Network) (headers : Headers) (directPeer : String) :
    String × Bool :=
  resolveForwarded trusted (headers.get xForwardedFor) directPeer

/-! ### The rate limit key -/

/-- The token of an `authorization` header: `lower().startswith("bearer ")`. No character outside
ASCII becomes one of these letters. -/
def bearerToken (authHeader : String) : Option String :=
  if (authHeader.toList.take 7).map Char.toLower = "bearer ".toList then
    some (String.ofList (strip (authHeader.toList.drop 7)))
  else none

/-- The subject of a request with a valid token. -/
def authenticatedSub (verifyToken : String → Except PyException String) (request : HttpRequest) :
    Option String :=
  match bearerToken ((request.headers.get "authorization").getD "") with
  | none => none
  | some token =>
    match verifyToken token with
    | .ok sub => some sub
    | .error _ => none

/-- `last_hop` of the warning: `[...][-1]` of an empty list raises. -/
def lastHop (xff directPeer : String) : Except PyException String :=
  if xff = "" then .ok directPeer
  else
    match (hopsOf xff).getLast? with
    | some hop => .ok hop
    | none => .error .indexError

/-- The direct peer of a request. -/
def HttpRequest.directPeer (request : HttpRequest) : String :=
  request.clientHost.getD "127.0.0.1"

/-- `get_rate_limit_key`; a token that is not verified, for whatever reason, is ignored. -/
def getRateLimitKey (trusted : List Network) (verifyToken : String → Except PyException String)
    (request : HttpRequest) : Except PyException String :=
  match authenticatedSub verifyToken request with
  | some sub => .ok ("user:" ++ sub)
  | none =>
    let (clientIp, spoofingSuspected) := resolveClientIp trusted request.headers request.directPeer
    if spoofingSuspected then do
      let _ ← lastHop ((request.headers.get xForwardedFor).getD "") request.directPeer
      return clientIp
    else .ok clientIp

/-! ### What the client writes is not read -/

variable {trusted : List Network} {directPeer : String}

/-- A prefix and a comma add hops on the left. -/
theorem hopsOf_prepend (text xff : String) :
    hopsOf (text ++ "," ++ xff) = hopsOf text ++ hopsOf xff := by
  have htoList : (text ++ "," ++ xff).toList = text.toList ++ ',' :: xff.toList := by
    rw [String.toList_append, String.toList_append, List.append_assoc]
    rfl
  rw [hopsOf, htoList, List.splitOn_append_cons_self, List.map_append, List.filter_append,
    List.map_append]
  rfl

/-- **The walk ends at the first hop that is not trusted**, and reads nothing beyond it. -/
theorem walkHops_append {hops : List String} (h : ∃ hop ∈ hops, ¬ IsTrustedPeer trusted hop)
    (further : List String) :
    walkHops trusted directPeer (hops ++ further) = walkHops trusted directPeer hops := by
  induction hops with
  | nil =>
    obtain ⟨hop, hmem, -⟩ := h
    exact absurd hmem List.not_mem_nil
  | cons hop hops ih =>
    rw [List.cons_append, walkHops, walkHops]
    split
    · next htrusted =>
      refine ih ?_
      obtain ⟨other, hmem, hother⟩ := h
      obtain rfl | hmem := List.mem_cons.1 hmem
      · exact absurd htrusted hother
      · exact ⟨other, hmem, hother⟩
    · rfl

/-- The walk finds the direct peer, or a valid address that is no trusted proxy. -/
theorem walkHops_cases (hops : List String) :
    (walkHops trusted directPeer hops).1 = directPeer ∨
      IsValidIp (walkHops trusted directPeer hops).1 ∧
        ¬ IsTrustedPeer trusted (walkHops trusted directPeer hops).1 := by
  induction hops with
  | nil => exact .inl rfl
  | cons hop hops ih =>
    rw [walkHops]
    split
    · exact ih
    · next htrusted =>
      split
      · next hvalid => exact .inr ⟨hvalid, htrusted⟩
      · exact .inl rfl

theorem resolveForwarded_cases (xff : Option String) :
    (resolveForwarded trusted xff directPeer).1 = directPeer ∨
      IsValidIp (resolveForwarded trusted xff directPeer).1 ∧
        ¬ IsTrustedPeer trusted (resolveForwarded trusted xff directPeer).1 := by
  rcases xff with - | xff
  · exact .inl rfl
  · rw [resolveForwarded]
    split_ifs
    · exact .inl rfl
    · exact .inl rfl
    · exact .inl rfl
    · exact walkHops_cases _
    · exact .inl rfl

/-- Without a trusted proxy in between the header is ignored. -/
theorem resolveForwarded_of_untrusted (h : trusted = [] ∨ ¬ IsTrustedPeer trusted directPeer)
    (xff : Option String) : (resolveForwarded trusted xff directPeer).1 = directPeer := by
  rcases xff with - | xff
  · rfl
  · rw [resolveForwarded]
    split_ifs with _ _ htrusted hpeer
    · rfl
    · rfl
    · rfl
    · exact absurd hpeer (h.resolve_left htrusted)
    · rfl

theorem not_isTrustedPeer_nil (peer : String) : ¬ IsTrustedPeer [] peer := by
  rw [IsTrustedPeer]
  split
  · exact id
  · rintro ⟨network, hmem, -⟩
    exact absurd hmem List.not_mem_nil

/-- Behind a trusted proxy a header with hops is walked through. -/
theorem resolveForwarded_of_trusted (hpeer : IsTrustedPeer trusted directPeer) {xff : String}
    (hhops : hopsOf xff ≠ []) :
    resolveForwarded trusted (some xff) directPeer =
      walkHops trusted directPeer (hopsOf xff).reverse := by
  have hne : xff ≠ "" := by
    rintro rfl
    exact hhops (by decide)
  have htrusted : trusted ≠ [] := by
    rintro rfl
    exact not_isTrustedPeer_nil _ hpeer
  rw [resolveForwarded, if_neg hne, if_neg hhops, if_neg htrusted, if_neg (not_not.2 hpeer)]

/-- What is put in front of a header that has a hop that is not trusted is ignored. -/
theorem resolveForwarded_prepend (hpeer : IsTrustedPeer trusted directPeer) {xff : String}
    (hxff : ∃ hop ∈ hopsOf xff, ¬ IsTrustedPeer trusted hop) (text : String) :
    resolveForwarded trusted (some (text ++ "," ++ xff)) directPeer =
      resolveForwarded trusted (some xff) directPeer := by
  obtain ⟨hop, hmem, hhop⟩ := hxff
  have hhops : hopsOf xff ≠ [] := List.ne_nil_of_mem hmem
  have hhops' : hopsOf (text ++ "," ++ xff) ≠ [] := by
    rw [hopsOf_prepend]
    exact List.append_ne_nil_of_right_ne_nil _ hhops
  rw [resolveForwarded_of_trusted hpeer hhops, resolveForwarded_of_trusted hpeer hhops',
    hopsOf_prepend, List.reverse_append]
  exact walkHops_append ⟨hop, List.mem_reverse.2 hmem, hhop⟩ _

/-! ### The key -/

/-- No address looks like the key of a user. -/
theorem ne_userKey_of_isValidIp {value : String} (h : IsValidIp value) (sub : String) :
    value ≠ "user:" ++ sub := by
  rintro rfl
  have htext : ("user:" ++ sub).toList = 'u' :: ("ser:".toList ++ sub.toList) := by
    rw [String.toList_append]
    rfl
  rw [IsValidIp, ofText?_eq_none htext (by decide) (by decide)] at h
  exact absurd h Bool.false_ne_true

/-- A suspected spoofing comes with a hop to report. -/
theorem exists_lastHop {xff : Option String}
    (h : (resolveForwarded trusted xff directPeer).2 = true) :
    ∃ hop, lastHop (xff.getD "") directPeer = .ok hop := by
  rcases xff with - | xff
  · exact nomatch h
  rw [resolveForwarded] at h
  rw [lastHop, Option.getD_some]
  by_cases hne : xff = ""
  · exact ⟨directPeer, if_pos hne⟩
  by_cases hhops : hopsOf xff = []
  · rw [if_neg hne, if_pos hhops] at h
    exact nomatch h
  · rw [if_neg hne, List.getLast?_eq_some_getLast hhops]
    exact ⟨_, rfl⟩

/-- The key of a request without a valid token is its client's address. -/
theorem getRateLimitKey_of_unauthenticated {verifyToken : String → Except PyException String}
    {request : HttpRequest} (h : authenticatedSub verifyToken request = none) :
    getRateLimitKey trusted verifyToken request =
      .ok (resolveClientIp trusted request.headers request.directPeer).1 := by
  rw [getRateLimitKey, h]
  dsimp only
  split
  · next hspoofing =>
    obtain ⟨hop, hhop⟩ := exists_lastHop hspoofing
    rw [hhop]
    rfl
  · rfl

/-- **Client identity cannot be spoofed.** For every set of trusted proxies: the header of a peer
that is not trusted is ignored; behind a trusted peer, a header with a hop that is not trusted may
be prefixed at will; the address is the direct peer or a valid one that is not trusted; and the rate
limit key is always there, and without a valid token it is the key of no user. -/
theorem client_identity (trusted : List Network) :
    (∀ directPeer headers, (trusted = [] ∨ ¬ IsTrustedPeer trusted directPeer) →
      (resolveClientIp trusted headers directPeer).1 = directPeer) ∧
    (∀ directPeer headers headers' xff text, IsTrustedPeer trusted directPeer →
      headers.get xForwardedFor = some xff → (∃ hop ∈ hopsOf xff, ¬ IsTrustedPeer trusted hop) →
      headers'.get xForwardedFor = some (text ++ "," ++ xff) →
      resolveClientIp trusted headers' directPeer = resolveClientIp trusted headers directPeer) ∧
    (∀ directPeer headers, (resolveClientIp trusted headers directPeer).1 = directPeer ∨
      IsValidIp (resolveClientIp trusted headers directPeer).1 ∧
        ¬ IsTrustedPeer trusted (resolveClientIp trusted headers directPeer).1) ∧
    ∀ verifyToken request, ∃ key, getRateLimitKey trusted verifyToken request = .ok key ∧
      (IsValidIp request.directPeer → authenticatedSub verifyToken request = none →
        ∀ sub, key ≠ "user:" ++ sub) := by
  refine ⟨fun directPeer headers h ↦ resolveForwarded_of_untrusted h _, ?_,
    fun directPeer headers ↦ resolveForwarded_cases _, ?_⟩
  · intro directPeer headers headers' xff text hpeer hheaders hhop hheaders'
    rw [resolveClientIp, resolveClientIp, hheaders, hheaders']
    exact resolveForwarded_prepend hpeer hhop text
  · intro verifyToken request
    rcases hsub : authenticatedSub verifyToken request with - | sub
    · refine ⟨_, getRateLimitKey_of_unauthenticated hsub, fun hpeer _ sub ↦ ?_⟩
      refine ne_userKey_of_isValidIp ?_ sub
      obtain hclient | ⟨hvalid, -⟩ := @resolveForwarded_cases trusted request.directPeer
        (request.headers.get xForwardedFor)
      · rw [resolveClientIp, hclient]
        exact hpeer
      · exact hvalid
    · refine ⟨"user:" ++ sub, ?_, fun _ h ↦ nomatch h⟩
      rw [getRateLimitKey, hsub]

/-- One trusted network. -/
def trustedTen : List Network :=
  [⟨.v4, 10 * 2 ^ 24, 255 * 2 ^ 24⟩]

/-- Behind the trusted peer `10.0.0.1` a client cannot put another address in front of its own, and
its key is its own address. -/
theorem client_identity_behind_proxy :
    let headers : Headers := [("x-forwarded-for", "198.51.100.23, 10.0.0.1")]
    let forged : Headers := [("x-forwarded-for", "203.0.113.9,198.51.100.23, 10.0.0.1")]
    (resolveClientIp trustedTen forged "9.9.9.9").1 = "9.9.9.9" ∧
    resolveClientIp trustedTen forged "10.0.0.1" = resolveClientIp trustedTen headers "10.0.0.1" ∧
    resolveClientIp trustedTen headers "10.0.0.1" = ("198.51.100.23", false) ∧
    ∃ key, getRateLimitKey trustedTen (fun _ ↦ .error (.httpException 401 "Token has expired"))
        ⟨("authorization", "Bearer abc") :: forged, some "10.0.0.1"⟩ = .ok key ∧
      ∀ sub, key ≠ "user:" ++ sub := by
  intro headers forged
  obtain ⟨hdirect, hprepend, -, hkey⟩ := client_identity trustedTen
  obtain ⟨key, hkey, huser⟩ := hkey (fun _ ↦ .error (.httpException 401 "Token has expired"))
    ⟨("authorization", "Bearer abc") :: forged, some "10.0.0.1"⟩
  refine ⟨hdirect _ _ (.inr (by decide)), ?_, by decide, key, hkey,
    huser (by decide) (by decide)⟩
  exact hprepend "10.0.0.1" headers forged "198.51.100.23, 10.0.0.1" "203.0.113.9"
    (by decide)
    rfl ⟨"198.51.100.23", by decide, by decide⟩ rfl

end InvestmentAssistant
