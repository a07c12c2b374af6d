import Mathlib.Data.List.Nodup
import OpsPlatform.Auth.Token

/-! `JWTManager.Parse`, and how long it takes what `Issue` signed. -/
namespace OpsPlatform.Auth
open OpsPlatform.Go OpsPlatform.Go.Strconv

deriving instance DecidableEq for AuthClaims

/-- The claims a parser reads out of a token; the token may name no expiry. -/
structure ParsedClaims where
  displayName : String
  identifier : String
  roles : List Role
  subject : String
  issuer : String
  expiresAt : Option Time

/-- What `Parse` takes from the `jwt` package: `ParseWithClaims` of a parser that takes HS256 only,
at the time its clock shows. The second result is the `Valid` flag of the token. -/
structure JWTParser where
  parseWithClaims : Time → String → Bytes → Except Error (ParsedClaims × Bool)

def AuthClaims.parsed (claims : AuthClaims) : ParsedClaims where
  displayName := claims.displayName
  identifier := claims.identifier
  roles := claims.roles
  subject := claims.subject
  issuer := claims.issuer
  expiresAt := some claims.expiresAt

/-- The precision of a numeric date. -/
def second : Time := 1000000000

/-- Claims whose dates are whole seconds, which a token carries as they are. -/
structure AuthClaims.WholeSeconds (claims : AuthClaims) : Prop where
  issuedAt : second ∣ claims.issuedAt
  notBefore : second ∣ claims.notBefore
  expiresAt : second ∣ claims.expiresAt

/-- The package as documented: dates are cut to the second, a signed token is a word, and with its
secret it is taken from its `nbf` on until its `exp`. -/
structure JWTLibrary extends JWT, JWTParser where
  date_le : ∀ t, newNumericDate t ≤ t
  lt_date : ∀ t, t < newNumericDate t + second
  second_dvd : ∀ t, second ∣ newNumericDate t
  visible : ∀ claims secret rawToken, signedString claims secret = .ok rawToken →
    trimSpace rawToken = rawToken ∧ rawToken ≠ ""
  accepts : ∀ claims secret rawToken now, claims.WholeSeconds →
    signedString claims secret = .ok rawToken → claims.notBefore ≤ now →
    now < claims.expiresAt → parseWithClaims now rawToken secret = .ok (claims.parsed,true)
  refuses : ∀ claims secret rawToken now, claims.WholeSeconds →
    signedString claims secret = .ok rawToken → ¬ (claims.notBefore ≤ now ∧ now < claims.expiresAt) →
    ∃ err, parseWithClaims now rawToken secret = .error err

/-- A token, with what it signs and the secret it is signed with. -/
structure SignedToken where
  rawToken : String
  claims : AuthClaims
  secret : Bytes

section Table
variable {table : List SignedToken} {claims : AuthClaims} {secret : Bytes} {rawToken : String}

lemma signed_row (h : (match table.find? fun row => row.claims = claims ∧ row.secret = secret with
      | some row => .ok row.rawToken
      | none => .error ⟨"key is invalid"⟩ : Except Error String) = .ok rawToken) :
    ∃ row ∈ table, row.rawToken = rawToken ∧ row.claims = claims ∧ row.secret = secret := by
  split at h
  · rename_i row hfind
    cases h
    exact ⟨row,List.mem_of_find?_eq_some hfind,rfl,by simpa using List.find?_some hfind⟩
  · cases h

lemma find_row {row : SignedToken} (hnodup : (table.map (·.rawToken)).Nodup) (hrow : row ∈ table) :
    (table.find? fun other => other.rawToken = row.rawToken ∧ other.secret = row.secret) =
      some row := by
  cases hfind : table.find? fun other => other.rawToken = row.rawToken ∧ other.secret = row.secret with
  | none => simpa using List.find?_eq_none.mp hfind row hrow
  | some found =>
    have hsame : found.rawToken = row.rawToken := by
      have := List.find?_some hfind
      simp only [decide_eq_true_eq] at this
      exact this.1
    rw [List.inj_on_of_nodup_map hnodup (List.mem_of_find?_eq_some hfind) hrow hsame]

end Table

/-- Less than a second is cut off. -/
lemma lt_cut (t : ℤ) : t < t - t % 1000000000 + 1000000000 := by omega

/-- What is left is a whole number of seconds. -/
lemma dvd_cut (t : ℤ) : (1000000000 : ℤ) ∣ t - t % 1000000000 := by omega

/-- A library that can sign what is in a table. -/
def JWTLibrary.ofTable (table : List SignedToken)
    (hnodup : (table.map (·.rawToken)).Nodup)
    (hvisible : ∀ row ∈ table, trimSpace row.rawToken = row.rawToken ∧ row.rawToken ≠ "") :
    JWTLibrary where
  newNumericDate t := t - t % second
  signedString claims secret :=
    match table.find? fun row => row.claims = claims ∧ row.secret = secret with
    | some row => .ok row.rawToken
    | none => .error ⟨"key is invalid"⟩
  parseWithClaims now rawToken secret :=
    match table.find? fun row => row.rawToken = rawToken ∧ row.secret = secret with
    | some row =>
      if row.claims.notBefore ≤ now ∧ now < row.claims.expiresAt then .ok (row.claims.parsed,true)
      else .error ⟨"token has invalid claims"⟩
    | none => .error ⟨"token signature is invalid"⟩
  date_le t := Int.sub_le_self t (Int.emod_nonneg t (by decide))
  lt_date t := lt_cut t
  second_dvd t := dvd_cut t
  visible claims secret rawToken hsigned := by
    obtain ⟨row,hrow,rfl,-⟩ := signed_row hsigned
    exact hvisible row hrow
  accepts claims secret rawToken now _ hsigned hstart hend := by
    obtain ⟨row,hrow,rfl,rfl,rfl⟩ := signed_row hsigned
    rw [find_row hnodup hrow]
    exact if_pos ⟨hstart,hend⟩
  refuses claims secret rawToken now _ hsigned hwindow := by
    obtain ⟨row,hrow,rfl,rfl,rfl⟩ := signed_row hsigned
    rw [find_row hnodup hrow]
    exact ⟨_,if_neg hwindow⟩

namespace JWTManager

/-- The principal a token stands for; the flags of the account are not in it. -/
def principalOf (claims : ParsedClaims) : Principal where
  userID := claims.subject
  identifier := claims.identifier
  displayName := claims.displayName
  roles := claims.roles
  requiresPasswordChange := false
  emailVerified := false

/-- The checks of `Parse` on what the parser of the package returned. -/
def checkClaims (m : JWTManager) (claims : ParsedClaims) (valid : Bool) :
    Except Error (Principal × Time) :=
  if ¬ valid then .error errInvalidToken
  else
    match claims.expiresAt with
    | none => .error errInvalidToken
    | some expiresAt =>
      if claims.subject = "" then .error errInvalidToken
      else if claims.issuer ≠ m.issuer then .error errInvalidToken
      else .ok (principalOf claims,expiresAt)

/-- `Parse` when the clock reads `now`; the results are the principal and when the token
expires. -/
def parse (m : JWTManager) (jwt : JWTParser) (now : Time) (rawToken : String) :
    Except Error (Principal × Time) :=
  match jwt.parseWithClaims now rawToken m.secret with
  | .error _ => .error errInvalidToken
  | .ok (claims,valid) => m.checkClaims claims valid

/-- The principal as a token carries it. -/
def carried (principal : Principal) : Principal :=
  { principal with requiresPasswordChange := false, emailVerified := false }

/-- The claims `Issue` signs. -/
def claims (m : JWTManager) (jwt : JWT) (issuedAt : Time) (principal : Principal) : AuthClaims where
  displayName := principal.displayName
  identifier := principal.identifier
  roles := principal.roles
  subject := principal.userID
  issuer := m.issuer
  issuedAt := jwt.newNumericDate issuedAt
  notBefore := jwt.newNumericDate issuedAt
  expiresAt := jwt.newNumericDate (issuedAt + m.ttl.toInt)

section
variable {m : JWTManager} {jwt : JWTLibrary} {issuedAt now : Time} {principal : Principal}
  {rawToken : String} {expiresAt : Time}

lemma signed_of_issue (h : m.issue jwt.toJWT issuedAt principal = .ok (rawToken,expiresAt)) :
    jwt.signedString (m.claims jwt.toJWT issuedAt principal) m.secret = .ok rawToken ∧
      expiresAt = issuedAt + m.ttl.toInt := by
  have hexpires := expiresAt_of_issue h
  rw [issue] at h
  cases hsigned : jwt.signedString (m.claims jwt.toJWT issuedAt principal) m.secret with
  | error err =>
    rw [claims] at hsigned
    rw [hsigned] at h
    cases h
  | ok signedToken =>
    rw [claims] at hsigned
    rw [hsigned] at h
    cases h
    exact ⟨rfl,hexpires⟩

/-- `Issue` signs whole seconds. -/
lemma wholeSeconds_claims : (m.claims jwt.toJWT issuedAt principal).WholeSeconds :=
  ⟨jwt.second_dvd _,jwt.second_dvd _,jwt.second_dvd _⟩

/-- The window in which an issued token is taken: from its second on, up to the second of its
expiry. -/
def Honoured (m : JWTManager) (jwt : JWT) (issuedAt now : Time) : Prop :=
  jwt.newNumericDate issuedAt ≤ now ∧ now < jwt.newNumericDate (issuedAt + m.ttl.toInt)

/-- What `Issue` signed `Parse` reads back, in that window and never outside. -/
theorem parse_issued (now : Time) (h : m.issue jwt.toJWT issuedAt principal = .ok (rawToken,expiresAt))
    (hsubject : principal.userID ≠ "") :
    (m.Honoured jwt.toJWT issuedAt now ∧ m.parse jwt.toJWTParser now rawToken =
        .ok (carried principal,jwt.newNumericDate expiresAt)) ∨
    (¬ m.Honoured jwt.toJWT issuedAt now ∧
      m.parse jwt.toJWTParser now rawToken = .error errInvalidToken) := by
  obtain ⟨hsigned,rfl⟩ := signed_of_issue h
  by_cases hwindow : m.Honoured jwt.toJWT issuedAt now
  · refine .inl ⟨hwindow,?_⟩
    rw [parse, jwt.accepts _ _ _ now wholeSeconds_claims hsigned hwindow.1 hwindow.2]
    simp [checkClaims, AuthClaims.parsed, claims, hsubject, principalOf, carried]
  · obtain ⟨err,hrefused⟩ := jwt.refuses _ _ _ now wholeSeconds_claims hsigned hwindow
    refine .inr ⟨hwindow,?_⟩
    rw [parse, hrefused]

lemma honoured_lt (h : m.Honoured jwt.toJWT issuedAt now) : now < issuedAt + m.ttl.toInt :=
  h.2.trans_le (jwt.date_le _)

/-- A token is good from the moment it is issued, but for the last second before its expiry. -/
lemma honoured_of_lt (hissued : issuedAt ≤ now)
    (hexpires : now + second ≤ issuedAt + m.ttl.toInt) : m.Honoured jwt.toJWT issuedAt now := by
  have hcut := hexpires.trans_lt (jwt.lt_date (issuedAt + m.ttl.toInt))
  exact ⟨(jwt.date_le issuedAt).trans hissued,Int.lt_of_add_lt_add_right hcut⟩

/-- Nothing is read out of a token but what the parser of the package finds under the secret. -/
lemma parse_ok {read : Principal × Time} (h : m.parse jwt.toJWTParser now rawToken = .ok read) :
    ∃ found, jwt.parseWithClaims now rawToken m.secret = .ok (found,true) ∧
      found.subject = read.1.userID ∧ found.subject ≠ "" := by
  rw [parse] at h
  cases hparse : jwt.parseWithClaims now rawToken m.secret with
  | error err => rw [hparse] at h; cases h
  | ok found =>
    obtain ⟨found,valid⟩ := found
    simp only [hparse, checkClaims] at h
    cases hexpires : found.expiresAt with
    | none => simp [hexpires] at h
    | some expiry =>
      simp only [hexpires] at h
      split_ifs at h with hvalid hempty hissuer
      cases h
      rw [hvalid]
      exact ⟨found,rfl,rfl,hempty⟩

/-- Whenever a token is read it is read as what was signed. -/
lemma carried_of_parse (h : m.issue jwt.toJWT issuedAt principal = .ok (rawToken,expiresAt))
    {read : Principal × Time} (hread : m.parse jwt.toJWTParser now rawToken = .ok read) :
    read.1 = carried principal ∧ m.Honoured jwt.toJWT issuedAt now := by
  have hsubject : principal.userID ≠ "" := by
    intro hempty
    obtain ⟨found,hfound,-,hne⟩ := parse_ok hread
    obtain ⟨hsigned,rfl⟩ := signed_of_issue h
    by_cases hwindow : m.Honoured jwt.toJWT issuedAt now
    · rw [jwt.accepts _ _ _ now wholeSeconds_claims hsigned hwindow.1 hwindow.2] at hfound
      cases hfound
      exact hne hempty
    · obtain ⟨err,hrefused⟩ := jwt.refuses _ _ _ now wholeSeconds_claims hsigned hwindow
      rw [hrefused] at hfound
      cases hfound
  obtain ⟨hwindow,hparse⟩ | ⟨_,hparse⟩ := parse_issued now h hsubject
  · rw [Except.ok.inj (hread.symm.trans hparse)]
    exact ⟨rfl,hwindow⟩
  · cases hread.symm.trans hparse

end
end JWTManager
end OpsPlatform.Auth
