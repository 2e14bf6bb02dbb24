import InvestmentAssistant.Core.Errors

/-!
# Password authentication and token issuance

`authenticateUser` compares the name in constant time, then has the stored hash verified, with a
dummy verification on the path of an unknown name. The verifier and the token encoder are
third-party and stand as parameters (`PasswordHasher`, `TokenEncoder`); what the code relies on is
`PasswordHasher.VerifiesBy`: a verification *returns* whether the password matches, it does not
raise on a mismatch.

The result of the verification is not looked at, neither on the dummy path, where that is intended,
nor on the path of the configured name, where only an exception leads to `none`. And the comparison
of names raises on text outside ASCII. So the function is correct exactly on ASCII names and, for
the configured name, on the right password: `authentication_correct_iff`.
-/

namespace InvestmentAssistant

/-- The settings the authentication reads. -/
structure AuthSettings where
  authUsername : String := "dev"
  authPasswordHash : String := ""
  secretKey : String := "dev-secret-key-change-in-production"
  algorithm : String := "HS256"
  accessTokenExpireMinutes : ℤ := 30

/-- The password hasher: `verify` returns whether the password matches the hash, or raises. -/
structure PasswordHasher where
  verify : String → String → Except PyException Bool

/-- The documented behaviour of a hasher: `True` on a match, `False` on a mismatch, no exception. -/
def PasswordHasher.VerifiesBy (hasher : PasswordHasher)
    (passwordMatches : String → String → Bool) : Prop :=
  ∀ password hash, hasher.verify password hash = .ok (passwordMatches password hash)

/-- The text is within ASCII. -/
def isAscii (s : String) : Bool :=
  s.toList.all fun c ↦ decide (c.toNat < 128)

/-- `secrets.compare_digest` on two `str` arguments. -/
def compareDigest (a b : String) : Except PyException Bool :=
  if isAscii a && isAscii b then .ok (decide (a = b))
  else .error (.typeError "comparing strings with non-ASCII characters is not supported")

/-- `except (VerificationError, VerifyMismatchError, ValueError, TypeError)`. -/
def isVerificationFailure : PyException → Bool
  | .verificationError => true
  | .verifyMismatchError => true
  | .valueError _ => true
  | .typeError _ => true
  | _ => false

/-- The dummy verification on the path of an unknown name: run for its duration, its result and its
expected failures dropped. -/
def dummyVerification (hasher : PasswordHasher) (password hash : String) :
    Except PyException Unit :=
  if hash = "" then .ok ()
  else
    match hasher.verify password hash with
    | .ok _ => .ok ()
    | .error e => if isVerificationFailure e then .ok () else .error e

/-- `authenticate_user`. -/
def authenticateUser (hasher : PasswordHasher) (settings : AuthSettings)
    (username password : String) : Except PyException (Option String) :=
  if settings.authUsername = "" then .ok none
  else
    match compareDigest username settings.authUsername with
    | .error e => .error e
    | .ok false => (dummyVerification hasher password settings.authPasswordHash).map fun _ ↦ none
    | .ok true =>
      if settings.authPasswordHash = "" then .ok none
      else
        match hasher.verify password settings.authPasswordHash with
        -- the returned Boolean is dropped
        | .ok _ => .ok (some username)
        | .error e => if isVerificationFailure e then .ok none else .error e

/-! ### Token issuance -/

/-- The claims of an access token. Times are in seconds. -/
structure TokenClaims where
  sub : String
  exp : ℤ
  iat : ℤ
  iss : String
  jti : String

/-- `jwt.encode`: the claims, the key and the algorithm to a token. -/
abbrev TokenEncoder := TokenClaims → String → String → String

/-- `create_access_token`; `now` and `jti` are the clock and the fresh identifier it reads. A zero
`expires_delta` counts as a missing one. -/
def createAccessToken (encode : TokenEncoder) (settings : AuthSettings) (now : ℤ) (jti : String)
    (sub : String) (expiresDelta : Option ℤ := none) : String :=
  let lifetime :=
    match expiresDelta with
    | some d => if d = 0 then settings.accessTokenExpireMinutes * 60 else d
    | none => settings.accessTokenExpireMinutes * 60
  encode ⟨sub, now + lifetime, now, "investment-assistant", jti⟩ settings.secretKey
    settings.algorithm

/-- The response of the token endpoint. -/
structure TokenResponse where
  accessToken : String
  tokenType : String
  deriving DecidableEq

/-- `login_for_access_token`. -/
def loginForAccessToken (hasher : PasswordHasher) (encode : TokenEncoder) (settings : AuthSettings)
    (now : ℤ) (jti : String) (username password : String) : Except PyException TokenResponse :=
  match authenticateUser hasher settings username password with
  | .error e => .error e
  | .ok none => .error (.httpException 401 "Incorrect username or password")
  | .ok (some user) =>
    if user = "" then .error (.httpException 401 "Incorrect username or password")
    else .ok ⟨createAccessToken encode settings now jti user, "bearer"⟩

/-! ### What the code does -/

section Outcomes

variable {hasher : PasswordHasher} {passwordMatches : String → String → Bool}
  {settings : AuthSettings} {username password : String}

/-- The dummy verification of a documented hasher never raises. -/
theorem dummyVerification_eq (hv : hasher.VerifiesBy passwordMatches) (hash : String) :
    dummyVerification hasher password hash = .ok () := by
  rw [dummyVerification, hv]
  split <;> rfl

/-- Outside ASCII the comparison of names raises, and so does the authentication. -/
theorem authenticateUser_of_not_ascii (hname : settings.authUsername ≠ "")
    (h : (isAscii username && isAscii settings.authUsername) = false) :
    authenticateUser hasher settings username password =
      .error (.typeError "comparing strings with non-ASCII characters is not supported") := by
  rw [authenticateUser, if_neg hname, compareDigest, h]
  rfl

/-- A name other than the configured one is refused. -/
theorem authenticateUser_of_ne (hv : hasher.VerifiesBy passwordMatches)
    (hname : settings.authUsername ≠ "")
    (h : (isAscii username && isAscii settings.authUsername) = true)
    (hne : username ≠ settings.authUsername) :
    authenticateUser hasher settings username password = .ok none := by
  rw [authenticateUser, if_neg hname, compareDigest, h, decide_eq_false hne,
    dummyVerification_eq hv]
  rfl

/-- **The configured name is accepted with every password**: the verifier's answer is dropped. -/
theorem authenticateUser_of_eq (hv : hasher.VerifiesBy passwordMatches)
    (hname : settings.authUsername ≠ "") (hhash : settings.authPasswordHash ≠ "")
    (h : (isAscii username && isAscii settings.authUsername) = true)
    (heq : username = settings.authUsername) :
    authenticateUser hasher settings username password = .ok (some username) := by
  rw [authenticateUser, if_neg hname, compareDigest, h, decide_eq_true heq, if_neg hhash, hv]
  rfl

/-- A token is issued only for a nonempty authenticated user. -/
theorem exists_of_login_eq_ok {encode : TokenEncoder} {now : ℤ} {jti : String}
    {response : TokenResponse}
    (h : loginForAccessToken hasher encode settings now jti username password = .ok response) :
    ∃ user, authenticateUser hasher settings username password = .ok (some user) := by
  unfold loginForAccessToken at h
  split at h
  · exact nomatch h
  · exact nomatch h
  · next user huser => exact ⟨user, huser⟩

end Outcomes

/-! ### When it is right -/

/-- The credentials are the configured ones. -/
def AreConfigured (passwordMatches : String → String → Bool) (settings : AuthSettings)
    (username password : String) : Prop :=
  username = settings.authUsername ∧
    passwordMatches password settings.authPasswordHash = true

instance (passwordMatches : String → String → Bool) (settings : AuthSettings)
    (username password : String) :
    Decidable (AreConfigured passwordMatches settings username password) :=
  inferInstanceAs (Decidable (_ ∧ _))

/-- The authentication is sound and complete on these inputs: it returns the name for the configured
credentials and `none` otherwise, without raising, and the token endpoint issues a token only for
the configured credentials. -/
structure AuthenticationCorrect (hasher : PasswordHasher)
    (passwordMatches : String → String → Bool) (settings : AuthSettings)
    (username password : String) : Prop where
  authenticate : authenticateUser hasher settings username password =
    .ok (if AreConfigured passwordMatches settings username password then some username else none)
  login : ∀ (encode : TokenEncoder) (now : ℤ) (jti : String) (response : TokenResponse),
    loginForAccessToken hasher encode settings now jti username password = .ok response →
      AreConfigured passwordMatches settings username password

/-- **Exactly when authentication is right**: both names are ASCII, and the configured name comes
with a matching password. -/
theorem authentication_correct_iff {hasher : PasswordHasher}
    {passwordMatches : String → String → Bool} (hv : hasher.VerifiesBy passwordMatches)
    {settings : AuthSettings} (hname : settings.authUsername ≠ "")
    (hhash : settings.authPasswordHash ≠ "") (username password : String) :
    AuthenticationCorrect hasher passwordMatches settings username password ↔
      isAscii username = true ∧ isAscii settings.authUsername = true ∧
        (username = settings.authUsername →
          passwordMatches password settings.authPasswordHash = true) := by
  constructor
  · intro hc
    have hascii : (isAscii username && isAscii settings.authUsername) = true := by
      by_contra hnot
      have hok := hc.authenticate
      rw [authenticateUser_of_not_ascii hname (Bool.eq_false_iff.2 hnot)] at hok
      exact nomatch hok
    obtain ⟨hu, hs⟩ := (Bool.and_eq_true _ _).mp hascii
    refine ⟨hu, hs, fun heq ↦ ?_⟩
    -- the name is accepted whatever the password, so being right forces the match
    have haccept := hc.authenticate
    rw [authenticateUser_of_eq hv hname hhash hascii heq] at haccept
    by_contra hmatch
    rw [if_neg fun h ↦ hmatch h.2] at haccept
    exact nomatch haccept
  · rintro ⟨hu, hs, hmatch⟩
    have hascii : (isAscii username && isAscii settings.authUsername) = true := by rw [hu, hs]; rfl
    have hauth : authenticateUser hasher settings username password =
        .ok (if AreConfigured passwordMatches settings username password
          then some username else none) := by
      by_cases heq : username = settings.authUsername
      · rw [authenticateUser_of_eq hv hname hhash hascii heq, if_pos ⟨heq, hmatch heq⟩]
      · rw [authenticateUser_of_ne hv hname hascii heq, if_neg fun h ↦ heq h.1]
    refine ⟨hauth, fun encode now jti response hlogin ↦ ?_⟩
    obtain ⟨user, huser⟩ := exists_of_login_eq_ok hlogin
    rw [hauth] at huser
    by_contra hnot
    rw [if_neg hnot] at huser
    exact nomatch huser

/-! ### A wrong password -/

/-- A hasher that keeps the password behind a marker. -/
def markedHasher : PasswordHasher :=
  ⟨fun password hash ↦ .ok (decide (hash = "hash:" ++ password))⟩

/-- One user, `dev`, with the password `dev-password`. -/
def devSettings : AuthSettings :=
  { authUsername := "dev", authPasswordHash := "hash:dev-password" }

/-- The configured credentials are accepted, as the equivalence says. -/
theorem authentication_correct_dev :
    AuthenticationCorrect markedHasher (fun password hash ↦ decide (hash = "hash:" ++ password))
      devSettings "dev" "dev-password" :=
  (authentication_correct_iff (fun _ _ ↦ rfl) (by decide) (by decide) "dev" "dev-password").2
    ⟨by decide, by decide, fun _ ↦ by decide⟩

/-- The configured name with a wrong password is accepted, and a token issued. -/
theorem authentication_accepts_wrong_password :
    authenticateUser markedHasher devSettings "dev" "wrong" = .ok (some "dev") ∧
      (∃ response, loginForAccessToken markedHasher (fun claims _ _ ↦ claims.sub) devSettings 0 "id"
        "dev" "wrong" = .ok response) ∧
      ¬ AuthenticationCorrect markedHasher
        (fun password hash ↦ decide (hash = "hash:" ++ password)) devSettings "dev" "wrong" := by
  refine ⟨by decide, ⟨⟨"dev", "bearer"⟩, by decide⟩, fun hc ↦ ?_⟩
  have hauth := hc.authenticate
  revert hauth
  decide

end InvestmentAssistant
