import OpsPlatform.Interaction.Program
import OpsPlatform.Auth.Store

/-! `auth.Service` as programs over the calls it makes on its user store, its password and token
managers, its mailer, the random source and the clock. -/
namespace OpsPlatform.Auth
open OpsPlatform.Go Interaction Program

inductive Op
  | findByIdentifier (identifier : String)
  | findByID (id : String)
  | findByGoogleSubjectID (subjectID : String)
  | create (user : User)
  | update (user : User)
  | updateAtomic (id : String) (mutate : User → Except Error (User × OTPCheckResult))
  | seed (user : User)
  | hash (password : String)
  | compare (hash password : String)
  | issue (principal : Principal)
  | parse (rawToken : String)
  | send (recipient subject body : String)
  | sendLater (recipient subject body : String)
  | randInt (max : ℕ)
  | now

abbrev Op.Res : Op → Type
  | .findByIdentifier _ => Option User
  | .findByID _ => Option User
  | .findByGoogleSubjectID _ => Option User
  | .create _ => Except Error User
  | .update _ => Except Error User
  | .updateAtomic _ _ => Except Error (User × OTPCheckResult)
  | .seed _ => Except Error Unit
  | .hash _ => Except Error String
  | .compare _ _ => Except Error Unit
  | .issue _ => Except Error (String × Time)
  | .parse _ => Except Error Principal
  | .send _ _ _ => Except Error Unit
  | .sendLater _ _ _ => Unit
  | .randInt max => Except Error (Fin max)
  | .now => Time

abbrev M (α : Type) := Program Op.Res Error α

/-- A closure for `UpdateAtomic` that cannot fail and captures nothing. -/
def mutation (f : User → User) (user : User) : Except Error (User × OTPCheckResult) :=
  .ok (f user,⟨false,false⟩)

/-- `fmt.Sprintf("%0*d", 6, n)`. -/
def sprintf06d (n : ℕ) : String := String.ofList ((Nat.toDigits 10 n).leftpad 6 '0')

/-- `GenerateOTP`. -/
def generateOTP : M String := do
  let n ← call (.randInt 1000000) fun r => fromResult (r.mapError fun err =>
    ⟨"auth: generate otp: " ++ err.text⟩)
  return sprintf06d n

def tempPasswordCharset : List Char :=
  "ABCDEFGHJKLMNPQRSTUVWXYZabcdefghijkmnopqrstuvwxyz23456789!@#$%".toList

def tempPasswordLength : ℕ := 14

/-- The loop of `GenerateTempPassword`, with the characters drawn so far. -/
def drawChars : ℕ → List Char → M String
  | 0, drawn => return String.ofList drawn
  | n+1, drawn => do
    let i ← call (.randInt tempPasswordCharset.length) fromResult
    drawChars n (drawn ++ [tempPasswordCharset.get i])

def generateTempPassword : M String := drawChars tempPasswordLength []

/-- A row an identifier or an id must name; `err` is reported where it names none. -/
def requireUser (op : Op) (found : op.Res → Option User) (err : Error) : M User :=
  call op fun r =>
    match found r with
    | some user => ret user
    | none => fail err

def issueSession (user : User) : M Session := do
  let principal := principalFromUser user
  let (accessToken,expiresAt) ← call (.issue principal) fromResult
  return { accessToken, expiresAt, principal }

def login (identifier password : String) : M Session := do
  let user ← requireUser (.findByIdentifier identifier) id errInvalidCredentials
  failIf (¬ user.isActive) errInactiveUser
  call (.compare user.passwordHash password) fun r => fromResult (r.mapError fun _ =>
    errInvalidCredentials)
  issueSession user

def authenticate (rawToken : String) : M Principal := do
  let principal ← call (.parse rawToken) fun r => fromResult (r.mapError fun _ => errInvalidToken)
  let user ← requireUser (.findByID principal.userID) id errInvalidToken
  failIf (¬ user.isActive) errInvalidToken
  return principalFromUser user

variable (lib : Lib)

/-- `CreateUser`; the second result is the temporary password. -/
def createUser (actingUserID : String) (input : CreateUserInput) : M (User × String) := do
  let identifier := normalizeIdentifier lib input.identifier
  let displayName := trimSpace input.displayName
  failIf (identifier = "" ∨ displayName = "") errInvalidUserInput
  failIf (¬ isKnownRole input.role) errInvalidRole
  let existing ← call (.findByIdentifier identifier) ret
  failIf (existing.isSome) errIdentifierTaken
  let tempPassword ← generateTempPassword
  let passwordHash ← call (.hash tempPassword) fromResult
  let created ← call (.create {
      identifier, displayName, passwordHash
      roles := [input.role]
      isActive := true
      requiresPasswordChange := true
      createdByUserID := actingUserID
      authProvider := .local
      emailVerified := true }) fromResult
  return (created,tempPassword)

def getUser (userID : String) : M User :=
  requireUser (.findByID userID) id errUserNotFound

/-- The patch of `UpdateUser`. -/
def UpdateUserInput.apply (input : UpdateUserInput) (user : User) : Except Error User :=
  if input.role.any fun role => !isKnownRole role then .error errInvalidRole
  else .ok { user with
    roles := match input.role with
      | some role => [role]
      | none => user.roles
    isActive := input.isActive.getD user.isActive }

def updateUser (userID : String) (input : UpdateUserInput) : M User := do
  let user ← getUser userID
  let patched ← fromResult (input.apply user)
  call (.update patched) fromResult

/-- `ResetPassword`; the result is the temporary password. -/
def resetPassword (userID : String) : M String := do
  let user ← getUser userID
  let tempPassword ← generateTempPassword
  let passwordHash ← call (.hash tempPassword) fromResult
  let _ ← call (.update { user with passwordHash, requiresPasswordChange := true }) fromResult
  return tempPassword

/-- The length rule of a password its owner chooses, counted in bytes: at least 8 after trimming,
at most 72 as it is. -/
def badLength (password : String) : Prop :=
  (trimSpace password).utf8ByteSize < 8 ∨ 72 < password.utf8ByteSize

instance (password : String) : Decidable (badLength password) :=
  inferInstanceAs (Decidable (_ ∨ _))

def changePassword (userID oldPassword newPassword : String) : M Unit := do
  let user ← getUser userID
  call (.compare user.passwordHash oldPassword) fun r => fromResult (r.mapError fun _ =>
    errInvalidCredentials)
  failIf (badLength newPassword) errInvalidUserInput
  let passwordHash ← call (.hash newPassword) fromResult
  let _ ← call (.update { user with passwordHash, requiresPasswordChange := false }) fromResult
  return ()

def loginWithGoogle (identity : GoogleIdentity) : M Session := do
  match ← call (.findByGoogleSubjectID identity.subject) ret with
  | some existing => do
    failIf (¬ existing.isActive) errInactiveUser
    issueSession existing
  | none => do
    let identifier := normalizeIdentifier lib identity.email
    let existing ← call (.findByIdentifier identifier) ret
    failIf (existing.isSome) errGoogleEmailAlreadyRegistered
    let created ← call (.create {
        identifier
        displayName := identity.name
        roles := [.requester]
        isActive := true
        authProvider := .google
        googleSubjectID := some identity.subject
        emailVerified := true }) fromResult
    issueSession created

/-- The text of a mail that carries a code. -/
def codeText (what code : String) : String :=
  "Your " ++ what ++ " code is " ++ code ++ ". It expires in 10 minutes."

def signUp (input : SignUpInput) : M Session := do
  let identifier := normalizeIdentifier lib input.identifier
  let displayName := trimSpace input.displayName
  failIf (identifier = "" ∨ displayName = "") errInvalidUserInput
  failIf (badLength input.password) errInvalidUserInput
  let existing ← call (.findByIdentifier identifier) ret
  failIf (existing.isSome) errIdentifierTaken
  let passwordHash ← call (.hash input.password) fromResult
  let code ← generateOTP
  call (.send identifier "Verify your email" (codeText "verification" code)) fromResult
  let now ← call .now ret
  let created ← call (.create {
      identifier, displayName, passwordHash
      roles := [.requester]
      isActive := true
      authProvider := .local
      emailVerified := false
      emailVerificationCodeHash := some (hashOTP lib code)
      emailVerificationCodeExpiresAt := some (now+otpTTL) }) fromResult
  issueSession created

def consumeOTP (userID code : String) (kind : CodeKind) : M Unit := do
  let now ← call .now ret
  let (_,result) ← call (.updateAtomic userID fun user => .ok (checkOTP lib now kind code user))
    fromResult
  failIf (result.locked) errTooManyAttempts
  failIf (¬ result.valid) errInvalidOrExpiredCode

def verifyEmail (userID code : String) : M Unit := consumeOTP lib userID code .emailVerification

/-- What `RequestPasswordReset` writes into the row. -/
def storeResetCode (hash : String) (expiresAt : Time) (current : User) : User :=
  { current with
    passwordResetCodeHash := some hash, passwordResetCodeExpiresAt := some expiresAt }

def requestPasswordReset (identifier : String) : M Unit := do
  match ← call (.findByIdentifier identifier) ret with
  | none => return ()
  | some user =>
    if ¬ user.hasRole .requester ∨ user.authProvider ≠ .local then return ()
    else do
      let code ← generateOTP
      let now ← call .now ret
      let _ ← call (.updateAtomic user.id
        (mutation (storeResetCode (hashOTP lib code) (now+otpTTL)))) fromResult
      call (.sendLater user.identifier "Reset your password" (codeText "password reset" code)) ret

def setPasswordHash (passwordHash : String) (current : User) : User := { current with passwordHash }

def completePasswordReset (identifier code newPassword : String) : M Unit := do
  let user ← requireUser (.findByIdentifier identifier) id errInvalidOrExpiredCode
  consumeOTP lib user.id code .passwordReset
  failIf (badLength newPassword) errInvalidUserInput
  let passwordHash ← call (.hash newPassword) fromResult
  let _ ← call (.updateAtomic user.id (mutation (setPasswordHash passwordHash))) fromResult
  return ()

structure BootstrapSeed where
  id : String
  identifier : String
  displayName : String
  password : String
  roles : List Role

/-- The identity the configuration gives to one bootstrap account. -/
structure BootstrapIdentity where
  identifier : String
  displayName : String
  password : String

/-- `config.Config`, as far as the bootstrap accounts need it. -/
structure BootstrapConfig where
  admin : BootstrapIdentity
  assignee : BootstrapIdentity
  supervisor : BootstrapIdentity
  requester : BootstrapIdentity

def BootstrapIdentity.seed (identity : BootstrapIdentity) (id : String) (role : Role) :
    BootstrapSeed :=
  ⟨id,identity.identifier,identity.displayName,identity.password,[role]⟩

def bootstrapSeedsFromConfig (cfg : BootstrapConfig) : List BootstrapSeed :=
  [cfg.admin.seed "user-admin-001" .admin, cfg.assignee.seed "user-assignee-001" .assignee,
    cfg.supervisor.seed "user-supervisor-001" .supervisor,
    cfg.requester.seed "user-requester-001" .requester]

/-- The row a bootstrap account starts with. -/
def seedUser (seed : BootstrapSeed) (passwordHash : String) : User where
  id := seed.id
  identifier := normalizeIdentifier lib seed.identifier
  displayName := seed.displayName
  passwordHash := passwordHash
  roles := seed.roles
  isActive := true
  authProvider := .local
  emailVerified := true

def seedBootstrapUsers : List BootstrapSeed → M Unit
  | [] => return ()
  | seed :: rest => do
    let passwordHash ← call (.hash seed.password) fromResult
    call (.seed (seedUser lib seed passwordHash)) fromResult
    seedBootstrapUsers rest

inductive Call
  | seedBootstrapUsers (cfg : BootstrapConfig)
  | createUser (actingUserID : String) (input : CreateUserInput)
  | signUp (input : SignUpInput)
  | login (identifier password : String)
  | loginWithGoogle (identity : GoogleIdentity)
  | updateUser (userID : String) (input : UpdateUserInput)
  | resetPassword (userID : String)
  | changePassword (userID oldPassword newPassword : String)
  | verifyEmail (userID code : String)
  | requestPasswordReset (identifier : String)
  | completePasswordReset (identifier code newPassword : String)

/-- The method a call invokes, its result dropped. -/
def Call.program : Call → M Unit
  | .seedBootstrapUsers cfg => Auth.seedBootstrapUsers lib (bootstrapSeedsFromConfig cfg)
  | .createUser actingUserID input => do let _ ← Auth.createUser lib actingUserID input
  | .signUp input => do let _ ← Auth.signUp lib input
  | .login identifier password => do let _ ← Auth.login identifier password
  | .loginWithGoogle identity => do let _ ← Auth.loginWithGoogle lib identity
  | .updateUser userID input => do let _ ← Auth.updateUser userID input
  | .resetPassword userID => do let _ ← Auth.resetPassword userID
  | .changePassword userID oldPassword newPassword =>
    Auth.changePassword userID oldPassword newPassword
  | .verifyEmail userID code => Auth.verifyEmail lib userID code
  | .requestPasswordReset identifier => Auth.requestPasswordReset lib identifier
  | .completePasswordReset identifier code newPassword =>
    Auth.completePasswordReset lib identifier code newPassword

end OpsPlatform.Auth
