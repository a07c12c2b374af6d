import OpsPlatform.Auth.Memory
import OpsPlatform.Http.Handlers

/-! The routes of work items and notifications: each handler behind its middlewares. The accounts
are a table that the requests of a run leave as it is. -/
namespace OpsPlatform.Http
open OpsPlatform.Go OpsPlatform.Workitems Interaction Program
open OpsPlatform.Auth (Role Principal MemoryUserStore principalFromUser)

/-- The `Authorization` header: no bearer token, or the user its token names, none where the token
does not parse. -/
inductive Authorization
  | missing
  | bearer (userID : Option String)

section Middlewares
variable {Op : Type} {Res : Op → Type}

/-- `RequireAuth`: the principal is taken from the stored account, not from the token. -/
def requireAuth (users : MemoryUserStore) : Authorization → Program Res Response Principal
  | .missing => fail ⟨401,.message "authentication required"⟩
  | .bearer none => fail ⟨401,.message "invalid access token"⟩
  | .bearer (some userID) =>
    match users.findByID userID with
    | none => fail ⟨401,.message "invalid access token"⟩
    | some user =>
      if user.isActive then ret (principalFromUser user)
      else fail ⟨401,.message "invalid access token"⟩

/-- This is the answer of `Authenticate`, whatever the token manager makes of the token. -/
theorem requireAuth_eq_authenticate (lib : Auth.Lib) (env : Auth.Env) (s : Auth.State)
    (rawToken : String) :
    (requireAuth s.users (.bearer ((env.parse rawToken).toOption.map (·.userID))) :
      Program Res Response Principal) =
    fromResult (((Auth.authenticate rawToken).run (Auth.exec lib env) s).1.mapError
      fun _ => ⟨401,.message "invalid access token"⟩) := by
  unfold Auth.authenticate
  rw [call_bind, run_call]
  cases hparse : env.parse rawToken with
  | error err => simp [Auth.exec, hparse, requireAuth, Except.toOption, Except.mapError]
  | ok principal =>
    simp only [Auth.exec, hparse, Except.mapError, Auth.requireUser]
    cases hfind : s.users.findByID principal.userID with
    | none => simp [Auth.exec, hfind, requireAuth, Except.toOption]
    | some user =>
      cases hactive : user.isActive <;>
        simp [Auth.exec, hfind, hactive, requireAuth, Except.toOption, run_failIf_bind]

def requirePasswordChangeCleared (principal : Principal) : Program Res Response Unit :=
  failIf (principal.requiresPasswordChange = true)
    ⟨403,.message "password change required before continuing"⟩

def requireVerifiedEmailForRequester (principal : Principal) : Program Res Response Unit :=
  failIf (principal.hasRole .requester = true ∧ principal.emailVerified = false)
    ⟨403,.message "verify your email before creating a work item"⟩

def requireRoles (principal : Principal) (allowedRoles : List Role) :
    Program Res Response Unit :=
  failIf (¬ principal.hasAnyRole allowedRoles) ⟨403,.message "insufficient permissions"⟩

end Middlewares

namespace Request

/-- The roles `RequireRoles` lets through to the handler of a request. -/
def allowedRoles : Request → List Role
  | create _ => [.admin,.supervisor,.requester]
  | update _ => [.admin,.supervisor]
  | changeStatus _ => [.admin,.assignee,.supervisor]
  | verify _ => [.admin,.supervisor]
  | flag _ => [.admin,.supervisor]
  | assign _ => [.admin,.supervisor]
  | acceptAssignment _ => [.assignee]
  | declineAssignment _ => [.assignee]
  | upload _ => [.admin,.assignee,.supervisor]

/-- The route that also asks a requester for a verified email. -/
def needsVerifiedEmail : Request → Bool
  | create _ => true
  | _ => false

/-- The request with the principal in its context. -/
def withPrincipal (principal : Principal) : Request → Request
  | create r => create { r with principal := some principal }
  | update r => update { r with principal := some principal }
  | changeStatus r => changeStatus { r with principal := some principal }
  | verify r => verify { r with principal := some principal }
  | flag r => flag { r with principal := some principal }
  | assign r => assign { r with principal := some principal }
  | acceptAssignment r => acceptAssignment { r with principal := some principal }
  | declineAssignment r => declineAssignment { r with principal := some principal }
  | upload r => upload { r with principal := some principal }

/-- The whole route of a request. -/
def route (users : MemoryUserStore) (s : Service) (authorization : Authorization)
    (request : Request) : H Response := do
  let principal ← requireAuth users authorization
  requirePasswordChangeCleared principal
  let _ ← if request.needsVerifiedEmail then requireVerifiedEmailForRequester principal else ret ()
  requireRoles principal request.allowedRoles
  (request.withPrincipal principal).program s

end Request

namespace NotificationHandler

/-- A handler of notifications under way. -/
abbrev H (α : Type) := Program Notifications.Op.Res Response α

/-- A call of the notification service. -/
def notifications {α : Type} (onError : Error → Response) (p : Notifications.M α) : H α :=
  p.translate (fun op => op) (fun _ r => r) onError

def list (r : Req Unit) (onlyUnread : Bool) : H Response := do
  let principal ← principalFromContext r
  let list ← notifications (fun _ => ⟨500,.message "unable to fetch notifications"⟩)
    (Notifications.list r.ctx principal.userID onlyUnread)
  return ⟨200,.notifications list⟩

def markAsRead (r : Req Unit) : H Response := do
  let principal ← principalFromContext r
  let notification ← notifications (errorSwitch [Notifications.errInvalidInput]
      [(Notifications.errNotFound,⟨404,.message "notification not found"⟩),
        (Notifications.errNotOwned,⟨404,.message "notification not found"⟩)]
      "unable to mark notification as read")
    (Notifications.markAsRead r.ctx r.id principal.userID)
  return ⟨200,.notification notification⟩

def allowedRoles : List Role := [.admin,.assignee]

/-- The two routes of a user's inbox. -/
def route (users : MemoryUserStore) (authorization : Authorization) (r : Req Unit)
    (handler : Req Unit → H Response) : H Response := do
  let principal ← requireAuth users authorization
  requirePasswordChangeCleared principal
  requireRoles principal allowedRoles
  handler { r with principal := some principal }

end NotificationHandler
end OpsPlatform.Http
