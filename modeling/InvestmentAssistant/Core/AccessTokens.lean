import InvestmentAssistant.Api.SocketSlots
import InvestmentAssistant.Core.Auth
import InvestmentAssistant.Foundation.Transition
import Mathlib.Logic.Encodable.Pi

/-!
# Access tokens

The server keeps no sessions: a request carries a token, and `verify_token` has it decoded. The JWT
library is third-party and stands as a parameter (`JwtLibrary`); what the code relies on is that a
token is decoded to the claims it was encoded from, that a text without the right signature is
refused, and that a token is refused from the second of its `exp` on (`JwtLibrary.Documented`).

What the tokens amount to is a table of sessions (`sessionOutcome`): a login opens one, and it ends
after the configured minutes, counted from the whole second of the login. Over every run of logins
and passing time, both `require_auth` and `ws_require_auth` answer as the table would
(`tokens_refine_sessions`), for every token that is not forged.
-/

namespace InvestmentAssistant

open Transition

/-! ### Verification -/

/-- What `jwt.decode` raises: `ExpiredSignatureError`, or another `InvalidTokenError`. -/
inductive JwtError
  | expiredSignature
  | invalidToken
  deriving DecidableEq, Repr

/-- A decoded payload; a claim may be missing. -/
structure JwtPayload where
  sub : Option String
  exp : Option ℤ
  iat : Option ℤ
  iss : Option String
  deriving DecidableEq, Repr

/-- The payload of a token with these claims. -/
def TokenClaims.payload (claims : TokenClaims) : JwtPayload where
  sub := some claims.sub
  exp := some claims.exp
  iat := some claims.iat
  iss := some claims.iss

/-- The JWT library. `decode` is given the token, the key, the algorithm, the issuer, the required
claims and the clock. -/
structure JwtLibrary where
  encode : TokenEncoder
  /-- The payload of a text that is a token signed with this key. -/
  verified : String → String → String → Option JwtPayload
  decode : String → String → String → String → List String → ℚ → Except JwtError JwtPayload

/-- The documented behaviour of the library. -/
structure JwtLibrary.Documented (jwt : JwtLibrary) : Prop where
  encode_ne_empty : ∀ claims key algorithm, jwt.encode claims key algorithm ≠ ""
  verified_encode : ∀ claims key algorithm,
    jwt.verified (jwt.encode claims key algorithm) key algorithm = some claims.payload
  decode_unverified : ∀ token key algorithm issuer required now,
    jwt.verified token key algorithm = none →
      jwt.decode token key algorithm issuer required now = .error .invalidToken
  decode_expired : ∀ token key algorithm issuer required (now : ℚ) claims,
    jwt.verified token key algorithm = some (TokenClaims.payload claims) →
      required ⊆ ["exp", "sub", "iat", "iss"] → (claims.iat : ℚ) ≤ now → (claims.exp : ℚ) ≤ now →
        jwt.decode token key algorithm issuer required now = .error .expiredSignature
  decode_valid : ∀ token key algorithm required (now : ℚ) claims,
    jwt.verified token key algorithm = some (TokenClaims.payload claims) →
      required ⊆ ["exp", "sub", "iat", "iss"] → (claims.iat : ℚ) ≤ now → now < claims.exp →
        jwt.decode token key algorithm claims.iss required now = .ok claims.payload

/-- `_TOKEN_ISSUER`. -/
def tokenIssuer : String := "investment-assistant"

section Verification

variable (jwt : JwtLibrary) (settings : AuthSettings) (now : ℚ)

/-- `verify_token`: the subject of the token. -/
def JwtLibrary.verifyToken (token : String) : Except PyException String :=
  match jwt.decode token settings.secretKey settings.algorithm tokenIssuer
      ["exp", "sub", "iat", "iss"] now with
  | .ok payload =>
    match payload.sub with
    | none => .error (.httpException 401 "Could not validate credentials")
    | some sub => .ok sub
  | .error .expiredSignature => .error (.httpException 401 "Token has expired")
  | .error .invalidToken => .error (.httpException 401 "Could not validate credentials")

/-- `require_auth`. -/
def JwtLibrary.requireAuth (token : String) : Except PyException String :=
  jwt.verifyToken settings now token

/-- What `ws_require_auth` raises: a `WebSocketException`, or what it does not catch. -/
inductive SocketAuthError
  | webSocket (code : ℕ) (reason : String)
  | raised (exc : PyException)
  deriving DecidableEq, Repr

/-- `ws_require_auth`. -/
def JwtLibrary.wsRequireAuth (token : Option String) : Except SocketAuthError String :=
  match token.filter (· ≠ "") with
  | none => .error (.webSocket 1008 "Authentication required")
  | some token =>
    match jwt.verifyToken settings now token with
    | .ok sub => .ok sub
    | .error (.httpException _ detail) => .error (.webSocket 1008 detail)
    | .error exc => .error (.raised exc)

/-- The socket endpoint, which leaves out how a refusal reads, admits the same tokens. -/
theorem wsRequireAuth_eq_ok_iff {token : Option String} {sub : String} :
    jwt.wsRequireAuth settings now token = .ok sub ↔
      wsRequireAuth (jwt.verifyToken settings now) token = .ok sub := by
  cases token with
  | none => simp [JwtLibrary.wsRequireAuth, wsRequireAuth]
  | some token =>
    by_cases hempty : token = ""
    · subst hempty
      have hfilter : (some "").filter (· ≠ "") = none := rfl
      simp only [JwtLibrary.wsRequireAuth, hfilter, wsRequireAuth, ite_true, reduceCtorEq]
    · have hfilter : (some token).filter (· ≠ "") = some token := by simp [hempty]
      simp only [JwtLibrary.wsRequireAuth, hfilter, wsRequireAuth, if_neg hempty]
      cases jwt.verifyToken settings now token with
      | ok subject => simp
      | error exc => cases exc <;> simp

end Verification

/-! ### Logins -/

/-- A token that was issued: to whom and when. -/
structure AuthSession where
  token : String
  user : String
  openedAt : ℚ
  deriving DecidableEq

/-- The clock, and the tokens issued so far. -/
structure AuthState where
  now : ℚ := 0
  sessions : List AuthSession := []

/-- Time passes, or somebody logs in. -/
inductive AuthEvent
  | tick (seconds : ℚ)
  | login (username password jti : String)
  deriving DecidableEq, Repr

section System

variable (jwt : JwtLibrary) (hasher : PasswordHasher) (settings : AuthSettings)

/-- One step of the server; the clock is read in whole seconds for a token. -/
def authStep (s : AuthState) : AuthEvent → Option AuthState
  | .tick seconds => if 0 ≤ seconds then some { s with now := s.now + seconds } else none
  | .login username password jti =>
    match loginForAccessToken hasher jwt.encode settings ⌊s.now⌋ jti username password with
    | .ok response => some
        { s with sessions := s.sessions ++ [⟨response.accessToken, username, s.now⟩] }
    | .error _ => some s

/-- The end of a session: the configured minutes after the second in which it was opened. -/
def AuthSession.endsAt (session : AuthSession) : ℤ :=
  ⌊session.openedAt⌋ + settings.accessTokenExpireMinutes * 60

/-- What a table of sessions would answer: the user of a session that has not ended, or why there is
none. -/
def sessionOutcome (s : AuthState) (token : String) : Except String String :=
  match s.sessions.find? fun session ↦ decide (session.token = token) with
  | none => .error "Could not validate credentials"
  | some session =>
    if s.now < session.endsAt settings then .ok session.user else .error "Token has expired"

/-- A token is genuine when it is not signed with the server's key, or was issued by the server. -/
def Genuine (s : AuthState) (token : String) : Prop :=
  jwt.verified token settings.secretKey settings.algorithm = none ∨
    ∃ session ∈ s.sessions, session.token = token

end System

/-! ### What is issued -/

section Invariant

variable {jwt : JwtLibrary} {hasher : PasswordHasher} {settings : AuthSettings} {s s' : AuthState}
  {e : AuthEvent} {es : List AuthEvent}

/-- The claims of a session's token. -/
def AuthSession.claims (settings : AuthSettings) (session : AuthSession) (jti : String) :
    TokenClaims where
  sub := session.user
  exp := session.endsAt settings
  iat := ⌊session.openedAt⌋
  iss := tokenIssuer
  jti := jti

/-- A session was opened by a login of the configured user, not later than now, and its token says
so. -/
structure AuthSession.IssuedBy (jwt : JwtLibrary) (settings : AuthSettings) (now : ℚ)
    (session : AuthSession) : Prop where
  token_eq : ∃ jti, session.token =
    jwt.encode (session.claims settings jti) settings.secretKey settings.algorithm
  past : session.openedAt ≤ now
  user_eq : session.user = settings.authUsername

/-- All sessions were opened by logins. -/
def SessionsIssued (jwt : JwtLibrary) (settings : AuthSettings) (s : AuthState) : Prop :=
  ∀ session ∈ s.sessions, session.IssuedBy jwt settings s.now

/-- The user who is authenticated is the configured one. -/
theorem eq_of_authenticateUser {username password user : String}
    (h : authenticateUser hasher settings username password = .ok (some user)) :
    user = username ∧ username = settings.authUsername := by
  unfold authenticateUser at h
  split at h
  · cases h
  · split at h
    · cases h
    · next hcompare =>
      rcases hdummy : dummyVerification hasher password settings.authPasswordHash with exc | ⟨⟩
      · rw [hdummy] at h
        cases h
      · rw [hdummy] at h
        cases h
    · next hcompare =>
      have heq : username = settings.authUsername := by
        rw [compareDigest] at hcompare
        split at hcompare
        · exact of_decide_eq_true (Except.ok.inj hcompare)
        · cases hcompare
      split at h
      · cases h
      · split at h
        · exact ⟨(Option.some.inj (Except.ok.inj h)).symm, heq⟩
        · split at h <;> cases h

/-- A login that succeeds is that of the configured user, who gets a token for now. -/
theorem of_login_eq_ok {now : ℤ} {jti username password : String} {response : TokenResponse}
    (h : loginForAccessToken hasher jwt.encode settings now jti username password =
      .ok response) :
    username = settings.authUsername ∧
      response.accessToken = createAccessToken jwt.encode settings now jti username := by
  unfold loginForAccessToken at h
  split at h
  · cases h
  · cases h
  · next user huser =>
    obtain ⟨rfl, hname⟩ := eq_of_authenticateUser huser
    split at h
    · cases h
    · exact ⟨hname, congrArg TokenResponse.accessToken (Except.ok.inj h).symm⟩

theorem AuthSession.IssuedBy.later {now now' : ℚ} {session : AuthSession}
    (h : session.IssuedBy jwt settings now) (hle : now ≤ now') :
    session.IssuedBy jwt settings now' :=
  ⟨h.token_eq, h.past.trans hle, h.user_eq⟩

theorem sessionsIssued_step (h : SessionsIssued jwt settings s)
    (hstep : authStep jwt hasher settings s e = some s') : SessionsIssued jwt settings s' := by
  cases e with
  | tick seconds =>
    rw [authStep] at hstep
    split at hstep
    · next hle =>
      obtain rfl := Option.some.inj hstep
      exact fun session hsession ↦ (h session hsession).later (le_add_of_nonneg_right hle)
    · cases hstep
  | login username password jti =>
    simp only [authStep] at hstep
    split at hstep
    · next response hlogin =>
      obtain rfl := Option.some.inj hstep
      obtain ⟨hname, htoken⟩ := of_login_eq_ok hlogin
      intro session hsession
      rcases List.mem_append.1 hsession with hsession | hsession
      · exact h session hsession
      · obtain rfl := List.mem_singleton.1 hsession
        exact ⟨⟨jti, htoken⟩, le_refl s.now, hname⟩
    · exact Option.some.inj hstep ▸ h

/-- **Every session was opened by a login of the configured user.** -/
theorem sessionsIssued_of_run (hrun : run (authStep jwt hasher settings) {} es = some s) :
    SessionsIssued jwt settings s :=
  invariant_run sessionsIssued_step (fun _ h ↦ absurd h List.not_mem_nil) hrun

/-! ### What is admitted -/

variable {session : AuthSession} {now : ℚ}

/-- A token of a session verifies until the session ends. -/
theorem verifyToken_of_issued (hjwt : jwt.Documented) (h : session.IssuedBy jwt settings now) :
    jwt.verifyToken settings now session.token =
      if now < session.endsAt settings then .ok session.user
      else .error (.httpException 401 "Token has expired") := by
  obtain ⟨jti, htoken⟩ := h.token_eq
  have hverified : jwt.verified session.token settings.secretKey settings.algorithm =
      some (session.claims settings jti).payload := by
    rw [htoken, hjwt.verified_encode]
  have hiat : ((session.claims settings jti).iat : ℚ) ≤ now := (Int.floor_le _).trans h.past
  rw [JwtLibrary.verifyToken]
  split_ifs with hlive
  · have hdecode := hjwt.decode_valid session.token settings.secretKey settings.algorithm
      ["exp", "sub", "iat", "iss"] now (session.claims settings jti) hverified (List.Subset.refl _)
      hiat hlive
    rw [show tokenIssuer = (session.claims settings jti).iss from rfl, hdecode]
    rfl
  · rw [hjwt.decode_expired session.token settings.secretKey settings.algorithm tokenIssuer
      ["exp", "sub", "iat", "iss"] now (session.claims settings jti) hverified (List.Subset.refl _)
      hiat (not_lt.1 hlive)]

/-- A token without the right signature is refused. -/
theorem verifyToken_of_unverified (hjwt : jwt.Documented) {token : String}
    (h : jwt.verified token settings.secretKey settings.algorithm = none) :
    jwt.verifyToken settings now token =
      .error (.httpException 401 "Could not validate credentials") := by
  rw [JwtLibrary.verifyToken, hjwt.decode_unverified _ _ _ _ _ _ h]

/-- The answer of the table, as an HTTP response. -/
def httpAnswer (outcome : Except String String) : Except PyException String :=
  outcome.mapError fun detail ↦ .httpException 401 detail

/-- The answer of the table, as the socket gives it. -/
def socketAnswer (outcome : Except String String) : Except SocketAuthError String :=
  outcome.mapError fun detail ↦ .webSocket 1008 detail

theorem of_find_session {sessions : List AuthSession} {token : String}
    (h : sessions.find? (fun session ↦ decide (session.token = token)) = some session) :
    session ∈ sessions ∧ session.token = token := by
  have htoken := List.find?_some (p := fun session : AuthSession ↦ decide (session.token = token)) h
  exact ⟨List.mem_of_find?_eq_some h, of_decide_eq_true htoken⟩

theorem verifyToken_eq (hjwt : jwt.Documented) (h : SessionsIssued jwt settings s) {token : String}
    (hgenuine : Genuine jwt settings s token) :
    jwt.verifyToken settings s.now token = httpAnswer (sessionOutcome settings s token) := by
  rw [sessionOutcome]
  split
  · next hnone =>
    rw [List.find?_eq_none] at hnone
    rcases hgenuine with hunverified | ⟨session, hsession, htoken⟩
    · exact verifyToken_of_unverified hjwt hunverified
    · exact absurd (decide_eq_true htoken) (hnone session hsession)
  · next session hfind =>
    obtain ⟨hmem, htoken⟩ := of_find_session hfind
    rw [← htoken, verifyToken_of_issued hjwt (h session hmem)]
    split <;> rfl

/-- Who is admitted is the configured user, with a token that is not empty. -/
theorem of_sessionOutcome_eq_ok (hjwt : jwt.Documented) (h : SessionsIssued jwt settings s)
    {token user : String} (hok : sessionOutcome settings s token = .ok user) :
    user = settings.authUsername ∧ token ≠ "" := by
  rw [sessionOutcome] at hok
  split at hok
  · cases hok
  · next session hfind =>
    obtain ⟨hmem, rfl⟩ := of_find_session hfind
    obtain ⟨⟨jti, htoken⟩, -, huser⟩ := h session hmem
    split at hok
    · refine ⟨Except.ok.inj hok ▸ huser, ?_⟩
      rw [htoken]
      exact hjwt.encode_ne_empty _ _ _
    · cases hok

/-- The socket asks `verify_token`, unless the token is empty. -/
theorem wsRequireAuth_eq {token : String} {outcome : Except String String}
    (h : jwt.verifyToken settings now token = httpAnswer outcome) :
    jwt.wsRequireAuth settings now (some token) =
      if token = "" then .error (.webSocket 1008 "Authentication required")
      else socketAnswer outcome := by
  by_cases hempty : token = ""
  · rw [if_pos hempty, JwtLibrary.wsRequireAuth, hempty]
    rfl
  · have hfilter : (some token).filter (· ≠ "") = some token := by simp [hempty]
    rw [if_neg hempty, JwtLibrary.wsRequireAuth, hfilter]
    dsimp only
    rw [h]
    cases outcome <;> rfl

/-- **Tokens amount to a table of sessions**, over HTTP and over the socket, whose endpoint admits
the same tokens, and they admit nobody but the configured user. -/
theorem tokens_refine_sessions (hjwt : jwt.Documented)
    (hrun : run (authStep jwt hasher settings) {} es = some s) {token : String}
    (hgenuine : Genuine jwt settings s token) :
    jwt.requireAuth settings s.now token = httpAnswer (sessionOutcome settings s token) ∧
      jwt.wsRequireAuth settings s.now (some token) =
        (if token = "" then .error (.webSocket 1008 "Authentication required")
          else socketAnswer (sessionOutcome settings s token)) ∧
      (∀ user, jwt.wsRequireAuth settings s.now (some token) = .ok user ↔
        wsRequireAuth (jwt.verifyToken settings s.now) (some token) = .ok user) ∧
      ∀ user, sessionOutcome settings s token = .ok user →
        user = settings.authUsername ∧ token ≠ "" := by
  have hissued := sessionsIssued_of_run hrun
  have hverify := verifyToken_eq hjwt hissued hgenuine
  exact ⟨hverify, wsRequireAuth_eq hverify, fun _ ↦ wsRequireAuth_eq_ok_iff ..,
    fun _ hok ↦ of_sessionOutcome_eq_ok hjwt hissued hok⟩

end Invariant

/-! ### A library -/

/-- The claims of a token as numbers. -/
abbrev ClaimCode := List ℕ × ℤ × ℤ × List ℕ

/-- The claims that a code stands for. -/
def ClaimCode.payload (code : ClaimCode) : JwtPayload where
  sub := some (String.ofList (code.1.map Char.ofNat))
  exp := some code.2.1
  iat := some code.2.2.1
  iss := some (String.ofList (code.2.2.2.map Char.ofNat))

/-- The code of claims. -/
def TokenClaims.code (claims : TokenClaims) : ClaimCode :=
  (claims.sub.toList.map Char.toNat, claims.exp, claims.iat, claims.iss.toList.map Char.toNat)

theorem payload_code (claims : TokenClaims) : claims.code.payload = claims.payload := by
  have hchars (text : String) :
      String.ofList ((text.toList.map Char.toNat).map Char.ofNat) = text := by
    have hchar : Char.ofNat ∘ Char.toNat = id := funext Char.ofNat_toNat
    rw [List.map_map, hchar, List.map_id, String.ofList_toList]
  rw [ClaimCode.payload, TokenClaims.code, TokenClaims.payload]
  simp only [hchars]

/-- A library whose token is a text as long as the number of its claims. -/
def unaryJwt : JwtLibrary where
  encode claims _ _ := String.ofList (List.replicate (Encodable.encode claims.code + 1) 'x')
  verified token _ _ :=
    (Encodable.decode (token.toList.length - 1) : Option ClaimCode).map ClaimCode.payload
  decode token _ _ issuer _ now :=
    match (Encodable.decode (token.toList.length - 1) : Option ClaimCode) with
    | none => .error .invalidToken
    | some code =>
      if now < code.2.2.1 then .error .invalidToken
      else if (code.2.1 : ℚ) ≤ now then .error .expiredSignature
      else if code.payload.iss = some issuer then .ok code.payload
      else .error .invalidToken

theorem unaryJwt_documented : unaryJwt.Documented where
  encode_ne_empty claims _ _ h := by
    have hlength := congrArg (fun t : String ↦ t.toList.length) h
    simp [unaryJwt] at hlength
  verified_encode claims _ _ := by
    have hlength (n : ℕ) : (String.ofList (List.replicate (n + 1) 'x')).toList.length - 1 = n := by
      simp
    simp only [unaryJwt]
    rw [hlength, Encodable.encodek, Option.map_some, payload_code]
  decode_unverified token key algorithm issuer required now h := by
    have hnone : (Encodable.decode (token.toList.length - 1) : Option ClaimCode) = none :=
      Option.map_eq_none_iff.1 h
    simp only [unaryJwt, hnone]
  decode_expired token key algorithm issuer required now claims h _ hiat hexp := by
    obtain ⟨code, hcode, hpayload⟩ := Option.map_eq_some_iff.1 h
    obtain ⟨hexp', hiat'⟩ : code.2.1 = claims.exp ∧ code.2.2.1 = claims.iat :=
      ⟨Option.some.inj (congrArg JwtPayload.exp hpayload),
        Option.some.inj (congrArg JwtPayload.iat hpayload)⟩
    simp only [unaryJwt, hcode]
    rw [hexp', hiat', if_neg (not_lt.2 hiat), if_pos hexp]
  decode_valid token key algorithm required now claims h _ hiat hexp := by
    obtain ⟨code, hcode, hpayload⟩ := Option.map_eq_some_iff.1 h
    obtain ⟨hexp', hiat'⟩ : code.2.1 = claims.exp ∧ code.2.2.1 = claims.iat :=
      ⟨Option.some.inj (congrArg JwtPayload.exp hpayload),
        Option.some.inj (congrArg JwtPayload.iat hpayload)⟩
    have hiss : claims.payload.iss = some claims.iss := rfl
    simp only [unaryJwt, hcode]
    rw [hexp', hiat', if_neg (not_lt.2 hiat), if_neg (not_le.2 hexp), hpayload, if_pos hiss]

/-- A minute after a login its token is that of a session. -/
theorem tokens_refine_sessions_login :
    ∃ s session, run (authStep unaryJwt markedHasher devSettings) {}
        [.login "dev" "dev-password" "id", .tick 60] = some s ∧ session ∈ s.sessions ∧
      unaryJwt.requireAuth devSettings s.now session.token =
        httpAnswer (sessionOutcome devSettings s session.token) ∧
      unaryJwt.wsRequireAuth devSettings s.now (some session.token) =
        (if session.token = "" then .error (.webSocket 1008 "Authentication required")
          else socketAnswer (sessionOutcome devSettings s session.token)) ∧
      (∀ user, unaryJwt.wsRequireAuth devSettings s.now (some session.token) = .ok user ↔
        wsRequireAuth (unaryJwt.verifyToken devSettings s.now) (some session.token) = .ok user) ∧
      ∀ user, sessionOutcome devSettings s session.token = .ok user →
        user = devSettings.authUsername ∧ session.token ≠ "" := by
  obtain ⟨s, session, hrun, hsession⟩ : ∃ s session,
      run (authStep unaryJwt markedHasher devSettings) {}
        [.login "dev" "dev-password" "id", .tick 60] = some s ∧ session ∈ s.sessions :=
    ⟨_, _, rfl, List.mem_singleton_self _⟩
  exact ⟨s, session, hrun, hsession,
    tokens_refine_sessions unaryJwt_documented hrun (.inr ⟨session, hsession, rfl⟩)⟩

end InvestmentAssistant
