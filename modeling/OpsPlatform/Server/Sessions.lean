import OpsPlatform.Go.Base64
import OpsPlatform.Server.Basic

/-! The handlers around an account's own session: login by password or through Google, sign-up,
and the handlers of its password and its codes. -/
namespace OpsPlatform.Server
open OpsPlatform.Go OpsPlatform.Http Interaction Program
open OpsPlatform.Auth (Role Principal)

def decoded {Input : Type} (r : Req Input) : H Input := http (decodeJSON r)

def caller {Input : Type} (r : Req Input) : H Principal := http (principalFromContext r)

structure LoginRequest where
  identifier : String
  password : String

/-- `decodeLoginRequest`; both fields must be there. -/
def decodeLoginRequest (r : Req LoginRequest) : Option LoginRequest :=
  r.body.filter fun request => request.identifier ≠ "" ∧ request.password ≠ ""

structure ChangePasswordRequest where
  oldPassword : String
  newPassword : String

structure ResetPasswordRequest where
  identifier : String
  code : String
  newPassword : String

/-- The parts of a callback request: its cookie and its two query parameters. -/
structure CallbackRequest where
  cookie : Option String
  state : String
  code : String

/-- `parseGoogleUserInfo`, after the payload is decoded. -/
def parseGoogleUserInfo (payload : UserInfo) : Except Error Auth.GoogleIdentity :=
  if payload.subject = "" ∨ payload.email = "" then
    .error ⟨"auth: google userinfo missing sub or email"⟩
  else if payload.emailVerified = false then .error ⟨"auth: google account email is not verified"⟩
  else .ok ⟨payload.subject,payload.email,payload.name⟩

/-- `Exchange` of the Google client. -/
def exchange (code : String) : H (Except Error Auth.GoogleIdentity) :=
  call (.googleUserInfo code) fun r => ret (r.bind parseGoogleUserInfo)

/-- `GenerateOAuthState`. -/
def generateOAuthState : H (Except Error String) :=
  call (.randRead 32) fun r => ret ((r.mapError fun err =>
    ⟨"auth: generate oauth state: " ++ err.text⟩).map Base64.encodeToString)

/-- `writeOTPError`. -/
def otpError : Error → Response :=
  errorSwitch [] [(Auth.errTooManyAttempts,⟨429,.message Auth.errTooManyAttempts.text⟩),
    (Auth.errInvalidOrExpiredCode,⟨400,.message Auth.errInvalidOrExpiredCode.text⟩),
    (Auth.errInvalidUserInput,⟨400,.message "new password must be at least 8 characters"⟩),
    (Auth.errUserNotFound,⟨404,.message Auth.errUserNotFound.text⟩)]
    "unable to complete request"

namespace AuthHandler

def googleLogin (authCodeURL : String → String) : H Reply := do
  match ← generateOAuthState with
  | .error _ => return message 500 "unable to start google login"
  | .ok state => return ⟨302,.redirect (authCodeURL state) state⟩

def googleCallback (lib : Auth.Lib) (r : CallbackRequest) : H Reply := do
  failIf (r.cookie ≠ some r.state ∨ r.state = "") (message 400 "invalid or missing oauth state")
  failIf (r.code = "") (message 400 "missing authorization code")
  match ← exchange r.code with
  | .error _ => return message 502 "unable to verify google identity"
  | .ok identity => do
    let session ← auth (errorSwitch []
        [(Auth.errGoogleEmailAlreadyRegistered,
            ⟨409,.message Auth.errGoogleEmailAlreadyRegistered.text⟩),
          (Auth.errInactiveUser,⟨403,.message "user is inactive"⟩)]
        "unable to complete google login")
      (Auth.loginWithGoogle lib identity)
    return ⟨200,.session session⟩

def login (r : Req LoginRequest) : H Reply := do
  let request ← http (require (decodeLoginRequest r) 400 "invalid request payload")
  let session ← auth (errorSwitch []
      [(Auth.errInvalidCredentials,⟨401,.message "invalid credentials"⟩),
        (Auth.errInactiveUser,⟨403,.message "user is inactive"⟩)]
      "unable to complete login")
    (Auth.login request.identifier request.password)
  return ⟨200,.session session⟩

def changePassword (r : Req ChangePasswordRequest) : H Reply := do
  let input ← decoded r
  let principal ← caller r
  auth (errorSwitch []
      [(Auth.errInvalidCredentials,⟨401,.message "old password is incorrect"⟩),
        (Auth.errInvalidUserInput,⟨400,.message "new password must be at least 8 characters"⟩)]
      "unable to change password")
    (Auth.changePassword principal.userID input.oldPassword input.newPassword)
  return ⟨204,.body .empty⟩

def signUp (lib : Auth.Lib) (r : Req Auth.SignUpInput) : H Reply := do
  let input ← decoded r
  let session ← auth (errorSwitch []
      [(Auth.errInvalidUserInput,⟨400,.message "invalid identifier, password, or display name"⟩),
        (Auth.errIdentifierTaken,⟨409,.message Auth.errIdentifierTaken.text⟩)]
      "unable to complete signup")
    (Auth.signUp lib input)
  return ⟨201,.session session⟩

/-- The body is the code. -/
def verifyEmail (lib : Auth.Lib) (r : Req String) : H Reply := do
  let code ← decoded r
  let principal ← caller r
  auth otpError (Auth.verifyEmail lib principal.userID code)
  return ⟨204,.body .empty⟩

/-- The body is the identifier. -/
def forgotPassword (lib : Auth.Lib) (r : Req String) : H Reply := do
  let identifier ← decoded r
  auth (fun _ => ⟨500,.message "unable to process request"⟩)
    (Auth.requestPasswordReset lib identifier)
  return message 200 "if an account exists, a reset code has been sent"

def resetPassword (lib : Auth.Lib) (r : Req ResetPasswordRequest) : H Reply := do
  let input ← decoded r
  auth otpError
    (Auth.completePasswordReset lib input.identifier input.code input.newPassword)
  return ⟨204,.body .empty⟩

def me (r : Req Unit) : H Reply := do
  let principal ← caller r
  return ⟨200,.principal principal⟩

end AuthHandler
end OpsPlatform.Server
