import OpsPlatform.Auth.Memory
import OpsPlatform.Teams.Service
import OpsPlatform.Http.Basic

/-! The HTTP handlers of user and team management, and requests to them served one after another on
the in-memory stores. -/
namespace OpsPlatform.Http.Users
open OpsPlatform.Go Interaction Program
open OpsPlatform.Auth (Role Principal User UpdateUserInput)

inductive Op
  | auth (op : Auth.Op)
  | teams (op : Teams.Op)

abbrev Op.Res : Op → Type
  | .auth op => op.Res
  | .teams op => op.Res

abbrev H (α : Type) := Program Op.Res Response α

/-- A call of the auth service, its error answered by `onError`. -/
def auth {α : Type} (onError : Error → Response) (p : Auth.M α) : H α :=
  p.translate Op.auth (fun _ r => r) onError

/-- A call of the teams service. -/
def teams {α : Type} (onError : Error → Response) (p : Teams.M α) : H α :=
  p.translate Op.teams (fun _ r => r) onError

/-- `writeUserError`. -/
def userError : Error → Response :=
  errorSwitch [Auth.errInvalidUserInput,Auth.errInvalidRole]
    [(Auth.errIdentifierTaken,⟨409,.message Auth.errIdentifierTaken.text⟩),
      (Auth.errUserNotFound,⟨404,.message Auth.errUserNotFound.text⟩)]
    "unable to complete user operation"

/-- `writeTeamError`. -/
def teamError : Error → Response :=
  errorSwitch [Teams.errInvalidInput]
    [(Teams.errNotFound,⟨404,.message Teams.errNotFound.text⟩),
      (Teams.errNotSupervisor,⟨404,.message Teams.errNotSupervisor.text⟩)]
    "unable to complete team operation"

def insufficientPermissions : Response := ⟨403,.message "insufficient permissions"⟩

structure CreateUserInput where
  role : Role
  identifier : String
  displayName : String
  teamID : Option String

/-- The team the request names; an empty id names none. -/
def CreateUserInput.team (input : CreateUserInput) : Option String :=
  input.teamID.filter fun teamID => teamID ≠ ""

namespace UsersHandler
variable (lib : Auth.Lib)

/-- The team must be there before the account is created. -/
def requireTeam (ctx : Context) : Option String → H Unit
  | none => ret ()
  | some teamID => do
    let known ← teams (fun _ => ⟨500,.message "unable to validate team"⟩)
      (Teams.teamExists ctx teamID)
    failIf (¬ known) ⟨400,.message "teamId does not refer to a real team"⟩

/-- Where the new account goes on its team. -/
def joinTeam (ctx : Context) (userID actingUserID : String) : Option String → Role → H Unit
  | some teamID, .assignee => do
    let _ ← teams (fun err => ⟨400,.message ("user created but team assignment failed: " ++ err.text)⟩)
      (Teams.addAssignee ctx teamID userID actingUserID)
    return ()
  | some teamID, .supervisor => do
    let _ ← teams
      (fun err => ⟨400,.message ("user created but supervisor assignment failed: " ++ err.text)⟩)
      (Teams.addSupervisor ctx teamID userID actingUserID)
    return ()
  | _, _ => ret ()

def create (r : Req CreateUserInput) : H Response := do
  let input ← decodeJSON r
  let principal ← principalFromContext r
  failIf ((input.role = .supervisor ∨ input.role = .assignee) ∧ input.team = none)
    ⟨400,.message "teamId is required for supervisor and assignee roles"⟩
  requireTeam r.ctx input.team
  let (user,tempPassword) ← auth userError
    (Auth.createUser lib principal.userID ⟨input.role,input.identifier,input.displayName⟩)
  joinTeam r.ctx user.id principal.userID input.team input.role
  return ⟨201,.createdUser user tempPassword⟩

/-- `supervisorMayAct`. -/
def supervisorMayAct (ctx : Context) (supervisorUserID targetUserID fallback : String) : H Bool := do
  let supervised ← teams (fun _ => ⟨500,.message fallback⟩)
    (Teams.supervisedAssigneeUserIDs ctx supervisorUserID)
  return supervised.any fun id => id = targetUserID

def requireSupervision (ctx : Context) (supervisorUserID targetUserID fallback : String) :
    H Unit := do
  let allowed ← supervisorMayAct ctx supervisorUserID targetUserID fallback
  failIf (¬ allowed) insufficientPermissions

def update (r : Req UpdateUserInput) : H Response := do
  let input ← decodeJSON r
  let principal ← principalFromContext r
  let targetID := r.id
  let _ ← if principal.hasRole .admin then ret () else do
    failIf (input.role.isSome) ⟨403,.message "only admin may change a user's role"⟩
    requireSupervision r.ctx principal.userID targetID "unable to update user"
  let user ← auth userError (Auth.updateUser targetID input)
  return ⟨200,.user user⟩

def resetPassword (r : Req Unit) : H Response := do
  let principal ← principalFromContext r
  let targetID := r.id
  let _ ← if principal.hasRole .admin then ret () else do
    let target ← auth userError (Auth.getUser targetID)
    failIf (target.hasRole .admin) insufficientPermissions
    requireSupervision r.ctx principal.userID targetID "unable to reset password"
  let tempPassword ← auth userError (Auth.resetPassword targetID)
  return ⟨200,.tempPassword tempPassword⟩

end UsersHandler

namespace TeamHandler

/-- The body is the name of the team. -/
def create (r : Req String) : H Response := do
  let name ← decodeJSON r
  let team ← teams (errorSwitch [Teams.errInvalidInput] [] "unable to create team")
    (Teams.createTeam r.ctx name)
  return ⟨201,.team team⟩

/-- The body is the id of the user; so it is for `addSupervisor`. -/
def addAssignee (r : Req String) : H Response := do
  let userID ← decodeJSON r
  let principal ← principalFromContext r
  let membership ← teams teamError (Teams.addAssignee r.ctx r.id userID principal.userID)
  return ⟨201,.membership membership⟩

def addSupervisor (r : Req String) : H Response := do
  let userID ← decodeJSON r
  let principal ← principalFromContext r
  let supervision ← teams teamError (Teams.addSupervisor r.ctx r.id userID principal.userID)
  return ⟨201,.supervision supervision⟩

/-- The second path value is the id of the user. -/
def removeSupervisor (r : Req Unit) (userID : String) : H Response := do
  teams teamError (Teams.removeSupervisor r.ctx r.id userID)
  return ⟨204,.empty⟩

end TeamHandler

inductive Request
  | createUser (r : Req CreateUserInput)
  | updateUser (r : Req UpdateUserInput)
  | resetPassword (r : Req Unit)
  | createTeam (r : Req String)
  | addAssignee (r : Req String)
  | addSupervisor (r : Req String)
  | removeSupervisor (r : Req Unit) (userID : String)

/-- The handler that serves a request. -/
def Request.program (lib : Auth.Lib) : Request → H Response
  | .createUser r => UsersHandler.create lib r
  | .updateUser r => UsersHandler.update r
  | .resetPassword r => UsersHandler.resetPassword r
  | .createTeam r => TeamHandler.create r
  | .addAssignee r => TeamHandler.addAssignee r
  | .addSupervisor r => TeamHandler.addSupervisor r
  | .removeSupervisor r userID => TeamHandler.removeSupervisor r userID

structure State where
  auth : Auth.State
  teams : Teams.State

/-- One atomic call while the clock of the teams service shows `now`. -/
inductive Answers (lib : Auth.Lib) (now : Time) : (op : Op) → State → op.Res → State → Prop
  | auth {s : State} {op : Auth.Op} {r : op.Res} {t : Auth.State}
      (h : Auth.Answers lib op s.auth r t) : Answers lib now (.auth op) s r { s with auth := t }
  | teams {s : State} (op : Teams.Op) :
      Answers lib now (.teams op) s (Teams.exec now op s.teams).1
        { s with teams := (Teams.exec now op s.teams).2 }

/-- A request, its response, and the states it led between. -/
structure Exchange where
  request : Request
  before : State
  response : Except Response Response
  after : State

/-- One request served, as a labelled step. -/
structure Serves (lib : Auth.Lib) (s : State) (x : Exchange) (t : State) : Prop where
  before : x.before = s
  after : x.after = t
  runs : ∃ now, (x.request.program lib).Runs (Answers lib now) s x.response t

/-- One atomic call in a given environment. -/
def exec (lib : Auth.Lib) (env : Auth.Env) : (op : Op) → State → op.Res × State
  | .auth op, s => ((Auth.exec lib env op s.auth).1,
      { s with auth := (Auth.exec lib env op s.auth).2 })
  | .teams op, s => ((Teams.exec env.now op s.teams).1,
      { s with teams := (Teams.exec env.now op s.teams).2 })

theorem answers_exec (lib : Auth.Lib) (env : Auth.Env) (op : Op) (s : State) :
    Answers lib env.now op s (exec lib env op s).1 (exec lib env op s).2 := by
  cases op with
  | auth op => exact .auth (Auth.answers_exec lib env op s.auth)
  | teams op => exact .teams op

/-- One request served in a given environment. -/
def serve (lib : Auth.Lib) (env : Auth.Env) (request : Request) (s : State) : Exchange :=
  let reply := (request.program lib).run (exec lib env) s
  ⟨request,s,reply.1,reply.2⟩

/-- Requests served in order, each in an environment of its own. -/
def serveAll (lib : Auth.Lib) (s : State) (requests : List (Auth.Env × Request)) : List Exchange :=
  labels (fun request => serve lib request.1 request.2) (·.after) s requests

theorem trace_serveAll (lib : Auth.Lib) (s : State) (requests : List (Auth.Env × Request)) :
    ∃ t, Trace (Serves lib) s (serveAll lib s requests) t :=
  trace_labels (fun request s => ⟨rfl,rfl,request.1.now,runs_run (answers_exec lib request.1) _ s⟩)
    s requests

end OpsPlatform.Http.Users
