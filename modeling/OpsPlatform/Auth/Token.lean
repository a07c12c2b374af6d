import OpsPlatform.Config.Env
import OpsPlatform.Auth.Types

/-! `JWTManager`: the sessions it issues, for as long as the configuration says. -/
namespace OpsPlatform.Auth
open OpsPlatform.Go OpsPlatform.Go.Strconv Config

structure AuthClaims where
  displayName : String
  identifier : String
  roles : List Role
  subject : String
  issuer : String
  issuedAt : Time
  notBefore : Time
  expiresAt : Time

/-- What `Issue` takes from the `jwt` package, with the signing method it uses. -/
structure JWT where
  newNumericDate : Time → Time
  signedString : AuthClaims → Bytes → Except Error String

structure JWTManager where
  issuer : String
  secret : Bytes
  ttl : Duration

def newJWTManager (secret : Bytes) (issuer : String) (ttl : Duration) : JWTManager :=
  { issuer, secret, ttl }

namespace JWTManager

/-- `Issue` when the clock reads `issuedAt`; the results are the token and when it expires. -/
def issue (m : JWTManager) (jwt : JWT) (issuedAt : Time) (principal : Principal) :
    Except Error (String × Time) := do
  let expiresAt := issuedAt + m.ttl.toInt
  let claims : AuthClaims :=
    { displayName := principal.displayName
      identifier := principal.identifier
      roles := principal.roles
      subject := principal.userID
      issuer := m.issuer
      issuedAt := jwt.newNumericDate issuedAt
      notBefore := jwt.newNumericDate issuedAt
      expiresAt := jwt.newNumericDate expiresAt }
  let signedToken ← jwt.signedString claims m.secret
  return (signedToken,expiresAt)

section
variable {m : JWTManager} {jwt : JWT} {issuedAt : Time} {principal : Principal} {token : String × Time}

lemma expiresAt_of_issue (h : m.issue jwt issuedAt principal = .ok token) :
    token.2 = issuedAt + m.ttl.toInt := by
  rw [issue] at h
  cases hsigned : jwt.signedString _ m.secret with
  | error err =>
    rw [hsigned] at h
    cases h
  | ok signedToken =>
    rw [hsigned] at h
    cases h
    rfl

end

/-- Which configured lifetimes last: those whose minutes, in nanoseconds, do not wrap. -/
theorem lifetime_usable_iff (environ : Environ) :
    (0 < (load environ).authTokenTTL ∧ ∀ issuer jwt issuedAt principal token,
      (newJWTManager (load environ).authTokenSecret issuer (load environ).authTokenTTL).issue
        jwt issuedAt principal = .ok token → issuedAt < token.2) ↔
    ¬ ∃ value n, environ "AUTH_TOKEN_TTL_MINUTES" = some value ∧ SignedNumeral value n ∧
      n < 2^63 ∧ Wraps (n*60000000000) := by
  have hdefault : (0 : Int64) < 60*Config.minute := by decide
  rw [← getEnvMinutes_pos_iff hdefault]
  constructor
  · exact And.left
  · intro hpos
    refine ⟨hpos,fun issuer jwt issuedAt principal token htoken => ?_⟩
    have hpos : 0 < (load environ).authTokenTTL.toInt := Int64.lt_iff_toInt_lt.mp hpos
    rw [expiresAt_of_issue htoken]
    exact Int.lt_add_of_pos_right issuedAt hpos

/-- The first number of minutes past the largest `time.Duration`. -/
theorem lifetime_not_usable : ¬ ∀ environ : Environ,
    0 < (load environ).authTokenTTL ∧ ∀ issuer jwt issuedAt principal token,
      (newJWTManager (load environ).authTokenSecret issuer (load environ).authTokenTTL).issue
        jwt issuedAt principal = .ok token → issuedAt < token.2 := by
  intro h
  have hpos := (h fun key =>
    if key = "AUTH_TOKEN_TTL_MINUTES" then some "153722868".toUTF8.toList else none).1
  revert hpos
  decide +kernel

end JWTManager
end OpsPlatform.Auth
