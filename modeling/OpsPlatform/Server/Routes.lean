import OpsPlatform.Server.Sessions

/-! The routes of `router.New`: the middlewares in front of each handler, and one request served
by the whole server. -/
namespace OpsPlatform.Server
open OpsPlatform.Go OpsPlatform.Http Interaction Program
open OpsPlatform.Auth (Role Principal)

/-- `strings.CutPrefix`, none where the prefix is not there. -/
def cutPrefix (s front : String) : Option String :=
  if front.toList <+: s.toList then some (String.ofList (s.toList.drop front.toList.length))
  else none

def extractBearerToken (authorizationHeader : String) : Except Error String :=
  let headerValue := trimSpace authorizationHeader
  if headerValue = "" then .error ⟨"missing authorization header"⟩
  else
    match cutPrefix headerValue "Bearer " with
    | none => .error ⟨"missing bearer token"⟩
    | some token =>
      if trimSpace token = "" then .error ⟨"missing bearer token"⟩ else .ok (trimSpace token)

/-- A word is a bearer token as it stands. -/
lemma extractBearerToken_bearer {token : String} (htrim : trimSpace token = token)
    (hne : token ≠ "") : extractBearerToken ("Bearer " ++ token) = .ok token := by
  have hlist : (token.toList.dropWhile isSpace).rdropWhile isSpace = token.toList := by
    have := congrArg String.toList htrim
    rwa [trimSpace, String.toList_ofList] at this
  have hnil : token.toList ≠ [] := by simpa using hne
  have hlast : ¬ isSpace (token.toList.getLast hnil) := by
    have := List.rdropWhile_last_not isSpace (token.toList.dropWhile isSpace) (by rwa [hlist])
    simpa only [hlist] using this
  have hheader : trimSpace ("Bearer " ++ token) = "Bearer " ++ token := by
    rw [trimSpace, String.toList_append]
    have hdrop : ("Bearer ".toList ++ token.toList).dropWhile isSpace =
        "Bearer ".toList ++ token.toList := rfl
    rw [hdrop, List.rdropWhile_eq_self_iff.mpr, String.ofList_append]
    · simp
    · intro h
      rwa [List.getLast_append_of_right_ne_nil _ _ hnil]
  have hcut : cutPrefix ("Bearer " ++ token) "Bearer " = some token := by
    rw [cutPrefix, String.toList_append, if_pos (List.prefix_append _ _), List.drop_left,
      String.ofList_toList]
  rw [extractBearerToken, hheader, if_neg (by simp), hcut]
  dsimp only
  rw [htrim, if_neg hne]

/-- `RequireAuth`, up to its call of the handler behind it. -/
def requireAuth (authorizationHeader : String) : H Principal := do
  let token ← fromResult ((extractBearerToken authorizationHeader).mapError fun _ =>
    message 401 "authentication required")
  auth (fun _ => ⟨401,.message "invalid access token"⟩) (Auth.authenticate token)

/-- The middlewares between `RequireAuth` and a handler; no roles where there is no
`RequireRoles`. -/
structure Gate where
  cleared : Bool
  verified : Bool
  roles : Option (List Role)

/-- `RequireAuth` alone. -/
def Gate.session : Gate := ⟨false,false,none⟩

/-- The usual middlewares. -/
def Gate.of (roles : List Role) : Gate := ⟨true,false,some roles⟩

/-- A middleware of some routes. -/
def wrapped (here : Bool) (middleware : Http.H Unit) : H Unit :=
  if here then http middleware else ret ()

def Gate.check (gate : Gate) (principal : Principal) : H Unit := do
  wrapped gate.cleared (requirePasswordChangeCleared principal)
  wrapped gate.verified (requireVerifiedEmailForRequester principal)
  match gate.roles with
  | none => ret ()
  | some roles => http (requireRoles principal roles)

namespace UsersHandler

def list (r : Req Unit) : H Reply := do
  let principal ← caller r
  let all ← call .userList fun rows => fromResult (rows.mapError fun _ =>
    message 500 "unable to list users")
  if principal.hasRole .admin then return ⟨200,.users all⟩
  else do
    let supervised ← teams (fun _ => ⟨500,.message "unable to list users"⟩)
      (Teams.supervisedAssigneeUserIDs r.ctx principal.userID)
    let allowed (id : String) : Bool := id = principal.userID ∨ id ∈ supervised
    return ⟨200,.users (all.filter fun user => allowed user.id)⟩

end UsersHandler

def TeamHandler.list : H Reply :=
  call .teamList fun
    | .ok rows => ret ⟨200,.teams rows⟩
    | .error _ => fail (message 500 "unable to list teams")

def WorkItemHandler.list (r : Req Unit) : H Reply := do
  let principal ← caller r
  let items ← work (errorSwitch [Workitems.errInvalidInput] [] "unable to list work items")
    (workItemService.list r.ctx principal.userID (principal.hasRole .admin)
      (principal.hasRole .supervisor) (principal.hasRole .requester))
  return ⟨200,.items items⟩

def WorkItemHandler.getAssignment (r : Req Unit) : H Reply := do
  let principal ← caller r
  let assignment ← work (errorSwitch [Workitems.errInvalidInput] [notFound,assignmentNotFound]
      "unable to fetch assignment")
    (workItemService.getAssignment r.ctx r.id principal.userID (principal.hasRole .admin)
      (principal.hasRole .supervisor))
  return ⟨200,.body (.assignment assignment)⟩

def AttachmentHandler.list (r : Req Unit) : H Reply := do
  let principal ← caller r
  let _ ← work accessError (workItemService.getByID r.ctx r.id principal.userID
    (principal.hasRole .admin) (principal.hasRole .supervisor) false)
  let list ← http (Http.attachments (fun _ => ⟨500,.message "unable to list attachments"⟩)
    (Attachments.list r.ctx r.id))
  return ⟨200,.attachments list⟩

/-- The routes without `RequireAuth`. -/
inductive Public
  | health
  | docs
  | login (r : Req LoginRequest)
  | googleLogin
  | googleCallback (r : CallbackRequest)
  | signUp (r : Req Auth.SignUpInput)
  | forgotPassword (r : Req String)
  | resetPassword (r : Req ResetPasswordRequest)

/-- The routes behind `RequireAuth`. -/
inductive Guarded
  | me (r : Req Unit)
  | changePassword (r : Req ChangePasswordRequest)
  | verifyEmail (r : Req String)
  | manage (request : Users.Request)
  | listUsers (r : Req Unit)
  | listTeams (r : Req Unit)
  | accessAdmin
  | accessAssignee
  | work (request : Http.Request)
  | listWorkItems (r : Req Unit)
  | getWorkItem (r : Req Unit)
  | statusHistory (r : Req Unit)
  | assignmentHistory (r : Req Unit)
  | getAssignment (r : Req Unit)
  | listAttachments (r : Req Unit)
  | listNotifications (r : Req Unit) (onlyUnread : Bool)
  | markAsRead (r : Req Unit)

inductive Request
  | open (route : Public)
  | guarded (authorizationHeader : String) (route : Guarded)
  | unknown

/-- The routes of a feature that is turned off are not there. -/
def Public.mounted (cfg : Config) : Public → Bool
  | .googleLogin | .googleCallback _ => cfg.googleOAuthEnabled
  | .signUp _ | .forgotPassword _ | .resetPassword _ => cfg.emailEnabled
  | _ => true

def Guarded.mounted (cfg : Config) : Guarded → Bool
  | .verifyEmail _ => cfg.emailEnabled
  | _ => true

/-- The roles `RequireRoles` lets through to user and team management. -/
def manageRoles : Users.Request → List Role
  | .updateUser _ | .resetPassword _ => [.admin,.supervisor]
  | _ => [.admin]

def Guarded.gate : Guarded → Gate
  | .me _ | .changePassword _ | .verifyEmail _ => .session
  | .manage request => .of (manageRoles request)
  | .listUsers _ => .of [.admin,.supervisor]
  | .listTeams _ => .of [.admin]
  | .accessAdmin => .of [.admin]
  | .accessAssignee => .of [.assignee]
  | .work request => ⟨true,request.needsVerifiedEmail,some request.allowedRoles⟩
  | .listWorkItems _ | .getWorkItem _ => .of [.admin,.assignee,.supervisor,.requester]
  | .statusHistory _ | .assignmentHistory _ | .getAssignment _ | .listAttachments _ =>
    .of [.admin,.assignee,.supervisor]
  | .listNotifications _ _ | .markAsRead _ => .of NotificationHandler.allowedRoles

def withPrincipal {Input : Type} (r : Req Input) (principal : Principal) : Req Input :=
  { r with principal := some principal }

/-- The request with the principal in its context. -/
def manageAs (principal : Principal) : Users.Request → Users.Request
  | .createUser r => .createUser { r with principal := some principal }
  | .updateUser r => .updateUser { r with principal := some principal }
  | .resetPassword r => .resetPassword { r with principal := some principal }
  | .createTeam r => .createTeam { r with principal := some principal }
  | .addAssignee r => .addAssignee { r with principal := some principal }
  | .addSupervisor r => .addSupervisor { r with principal := some principal }
  | .removeSupervisor r userID => .removeSupervisor { r with principal := some principal } userID

variable (cfg : Config)

def Public.handler : Public → H Reply
  | .health => ret ⟨200,.health cfg.appEnv⟩
  | .docs => ret ⟨200,.static⟩
  | .login r => AuthHandler.login r
  | .googleLogin => AuthHandler.googleLogin cfg.authCodeURL
  | .googleCallback r => AuthHandler.googleCallback cfg.lib r
  | .signUp r => AuthHandler.signUp cfg.lib r
  | .forgotPassword r => AuthHandler.forgotPassword cfg.lib r
  | .resetPassword r => AuthHandler.resetPassword cfg.lib r

def Guarded.handler (principal : Principal) : Guarded → H Reply
  | .me r => AuthHandler.me (withPrincipal r principal)
  | .changePassword r => AuthHandler.changePassword (withPrincipal r principal)
  | .verifyEmail r => AuthHandler.verifyEmail cfg.lib (withPrincipal r principal)
  | .manage request => ofResponse <$> users ((manageAs principal request).program cfg.lib)
  | .listUsers r => UsersHandler.list (withPrincipal r principal)
  | .listTeams _ => TeamHandler.list
  | .accessAdmin => ret (message 200 "admin access granted")
  | .accessAssignee => ret (message 200 "assignee access granted")
  | .work request => ofResponse <$> http ((request.withPrincipal principal).program workItemService)
  | .listWorkItems r => WorkItemHandler.list (withPrincipal r principal)
  | .getWorkItem r =>
    ofResponse <$> http (Http.WorkItemHandler.getByID ⟨workItemService⟩ (withPrincipal r principal))
  | .statusHistory r => ofResponse <$> http
    (Http.WorkItemHandler.listStatusHistory ⟨workItemService⟩ (withPrincipal r principal))
  | .assignmentHistory r => ofResponse <$> http
    (Http.WorkItemHandler.listAssignmentHistory ⟨workItemService⟩ (withPrincipal r principal))
  | .getAssignment r => WorkItemHandler.getAssignment (withPrincipal r principal)
  | .listAttachments r => AttachmentHandler.list (withPrincipal r principal)
  | .listNotifications r onlyUnread =>
    ofResponse <$> inbox (NotificationHandler.list (withPrincipal r principal) onlyUnread)
  | .markAsRead r =>
    ofResponse <$> inbox (NotificationHandler.markAsRead (withPrincipal r principal))

/-- The answer of the mux where no pattern matches. -/
def pageNotFound : Reply := message 404 "404 page not found"

/-- The handler of a request behind its middlewares. -/
def Request.program : Request → H Reply
  | .open route => if route.mounted cfg then route.handler cfg else ret pageNotFound
  | .guarded authorizationHeader route =>
    if route.mounted cfg then do
      let principal ← requireAuth authorizationHeader
      route.gate.check principal
      route.handler cfg principal
    else ret pageNotFound
  | .unknown => ret pageNotFound

/-- An early reply is a reply too. -/
def settle : Except Reply Reply → Reply
  | .ok reply => reply
  | .error reply => reply

/-- A request, its reply, the states it led between, and when it was served. -/
structure Exchange where
  request : Request
  before : State
  reply : Reply
  after : State
  moment : Moment

/-- One request served, as a labelled step. -/
structure Serves (s : State) (x : Exchange) (t : State) : Prop where
  before : x.before = s
  after : x.after = t
  runs : ∃ y, (x.request.program cfg).Runs (Answers cfg x.moment) s y t ∧ x.reply = settle y

/-- One request served in a given environment. -/
def serve (env : Env) (request : Request) (s : State) : Exchange :=
  let reply := (request.program cfg).run (exec cfg env) s
  ⟨request,s,settle reply.1,reply.2,env.moment⟩

/-- Requests served in order, each in an environment of its own. -/
def serveAll (s : State) (requests : List (Env × Request)) : List Exchange :=
  labels (fun request => serve cfg request.1 request.2) (·.after) s requests

variable {cfg}

lemma serves_serve (env : Env) (request : Request) {s : State}
    (hs : s.work.notifications.Numbered) :
    Serves cfg s (serve cfg env request s) (serve cfg env request s).after ∧
      (serve cfg env request s).after.work.notifications.Numbered := by
  have hexec := answers_exec cfg env
  exact ⟨⟨rfl,rfl,_,runs_run_of_inv hexec _ hs,rfl⟩,run_inv _ (fun op s hs => (hexec op s hs).2) _ hs⟩

theorem trace_serveAll {s : State} (hs : s.work.notifications.Numbered)
    (requests : List (Env × Request)) : ∃ t, Trace (Serves cfg) s (serveAll cfg s requests) t :=
  trace_labels_of_inv (I := fun s : State => s.work.notifications.Numbered)
    (fun request _ hs => serves_serve request.1 request.2 hs) hs requests

end OpsPlatform.Server
