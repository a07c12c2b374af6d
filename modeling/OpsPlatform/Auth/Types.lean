import OpsPlatform.Go.Basic

/-! The data of the auth package: roles, accounts, the caller derived from an account, the inputs
of the service and the one-time codes kept in an account row. -/
namespace OpsPlatform.Auth
open OpsPlatform.Go

def errInvalidCredentials : Error := ⟨"invalid credentials"⟩
def errInactiveUser : Error := ⟨"inactive user"⟩
def errInvalidToken : Error := ⟨"invalid token"⟩
def errInvalidUserInput : Error := ⟨"invalid user input"⟩
def errInvalidRole : Error := ⟨"invalid role"⟩
def errIdentifierTaken : Error := ⟨"identifier already in use"⟩
def errUserNotFound : Error := ⟨"user not found"⟩
def errGoogleEmailAlreadyRegistered : Error :=
  ⟨"an account with this email already exists; log in with your password instead"⟩
def errInvalidOrExpiredCode : Error := ⟨"invalid or expired code"⟩
def errTooManyAttempts : Error := ⟨"too many attempts, try again later"⟩

/-- A role string: one of the four constants, or any other text a request may carry. -/
inductive Role
  | admin
  | assignee
  | supervisor
  | requester
  | other (text : String)
  deriving DecidableEq, Repr

def isKnownRole : Role → Bool
  | .other _ => false
  | _ => true

inductive AuthProvider
  | local
  | google
  deriving DecidableEq, Repr

/-- A field with a default is one the literals of the source may leave at its zero value. -/
structure User where
  id : String := ""
  identifier : String
  displayName : String
  passwordHash : String := ""
  roles : List Role
  isActive : Bool
  requiresPasswordChange : Bool := false
  createdByUserID : String := ""
  authProvider : AuthProvider
  googleSubjectID : Option String := none
  emailVerified : Bool
  emailVerificationCodeHash : Option String := none
  emailVerificationCodeExpiresAt : Option Time := none
  passwordResetCodeHash : Option String := none
  passwordResetCodeExpiresAt : Option Time := none
  failedOTPAttempts : ℕ := 0
  otpLockedUntil : Option Time := none
  deriving DecidableEq, Repr

def User.hasRole (u : User) (role : Role) : Bool := u.roles.contains role

/-- The caller the authentication middleware leaves in the request context. -/
structure Principal where
  userID : String
  identifier : String
  displayName : String
  roles : List Role
  requiresPasswordChange : Bool
  emailVerified : Bool
  deriving DecidableEq, Repr

def Principal.hasRole (p : Principal) (role : Role) : Bool := p.roles.contains role

def Principal.hasAnyRole (p : Principal) (roles : List Role) : Bool := roles.any p.hasRole

def principalFromUser (user : User) : Principal where
  userID := user.id
  identifier := user.identifier
  displayName := user.displayName
  roles := user.roles
  requiresPasswordChange := user.requiresPasswordChange
  emailVerified := user.emailVerified

structure Session where
  accessToken : String
  expiresAt : Time
  principal : Principal
  deriving DecidableEq, Repr

structure CreateUserInput where
  role : Role
  identifier : String
  displayName : String

/-- A partial patch; a field without a value is left as it is. -/
structure UpdateUserInput where
  isActive : Option Bool
  role : Option Role

structure GoogleIdentity where
  subject : String
  email : String
  name : String

structure SignUpInput where
  identifier : String
  password : String
  displayName : String

/-- What the program takes from libraries: the lower case of one character and the hexadecimal
SHA-256 digest of a text. -/
structure Lib where
  toLower : Char → Char
  sha256Hex : String → String

/-- `strings.ToLower(strings.TrimSpace(identifier))`. -/
def normalizeIdentifier (lib : Lib) (identifier : String) : String :=
  String.ofList ((trimSpace identifier).toList.map lib.toLower)

def minute : Time := 60000000000

def otpTTL : Time := 10 * minute

def otpMaxAttempts : ℕ := 5

def otpLockoutDuration : Time := 15 * minute

def hashOTP (lib : Lib) (code : String) : String := lib.sha256Hex code

def verifyOTP (lib : Lib) (code storedHash : String) : Bool := hashOTP lib code = storedHash

/-- The two flows that use a one-time code. -/
inductive CodeKind
  | emailVerification
  | passwordReset
  deriving DecidableEq, Repr

namespace CodeKind

/-- The stored hash of a code and its expiry. -/
def getCode : CodeKind → User → Option String × Option Time
  | .emailVerification, u => (u.emailVerificationCodeHash,u.emailVerificationCodeExpiresAt)
  | .passwordReset, u => (u.passwordResetCodeHash,u.passwordResetCodeExpiresAt)

/-- What a correct code does to the account. -/
def onSuccess : CodeKind → User → User
  | .emailVerification, u =>
    { u with
      emailVerified := true
      emailVerificationCodeHash := none
      emailVerificationCodeExpiresAt := none }
  | .passwordReset, u =>
    { u with passwordResetCodeHash := none, passwordResetCodeExpiresAt := none }

/-- A code is stored, is not expired, and is the presented one. -/
def accepts (kind : CodeKind) (lib : Lib) (now : Time) (code : String) (user : User) : Bool :=
  match kind.getCode user with
  | (some storedHash,some expiresAt) => now < expiresAt && verifyOTP lib code storedHash
  | _ => false

end CodeKind

/-- What a code check found, as the closure of `consumeOTP` records it. -/
structure OTPCheckResult where
  valid : Bool
  locked : Bool
  deriving DecidableEq, Repr

/-- The account is in its lockout window. -/
def User.lockedAt (u : User) (now : Time) : Bool :=
  u.otpLockedUntil.any fun lockedUntil => now < lockedUntil

/-- A wrong guess is counted; from the limit on, each one locks the account. -/
def User.recordFailure (u : User) (now : Time) : User :=
  { u with
    failedOTPAttempts := u.failedOTPAttempts+1
    otpLockedUntil := if otpMaxAttempts ≤ u.failedOTPAttempts+1 then some (now+otpLockoutDuration)
      else u.otpLockedUntil }

/-- The row `consumeOTP` writes back, and what it found. -/
def checkOTP (lib : Lib) (now : Time) (kind : CodeKind) (code : String) (user : User) :
    User × OTPCheckResult :=
  if user.lockedAt now then (user,⟨false,true⟩)
  else if kind.accepts lib now code user then
    ({ kind.onSuccess user with failedOTPAttempts := 0, otpLockedUntil := none },⟨true,false⟩)
  else (user.recordFailure now,⟨false,false⟩)

end OpsPlatform.Auth
