import OpsPlatform.Auth.Outcome
import OpsPlatform.Auth.TokenParse
import OpsPlatform.Http.Inbox
import OpsPlatform.Http.Users
import OpsPlatform.Notifications.Order

/-! The whole server on the in-memory stores: the signature of everything its handlers call, the
state of all stores, and what a handler may answer. -/
namespace OpsPlatform.Server
open OpsPlatform.Go OpsPlatform.Http Interaction Program
open OpsPlatform.Auth (Role Principal JWTManager JWTLibrary)

/-- What Google's userinfo endpoint tells of an account. -/
structure UserInfo where
  subject : String
  email : String
  emailVerified : Bool
  name : String

/-- The calls of all handlers: those of the services, two listings that no service method but one
makes, the code exchange with Google and `rand.Read`. -/
inductive Op
  | users (op : Users.Op)
  | http (op : Http.Op)
  | notifications (op : Notifications.Op)
  | userList
  | teamList
  | googleUserInfo (code : String)
  | randRead (n : ℕ)

abbrev Op.Res : Op → Type
  | .users op => op.Res
  | .http op => op.Res
  | .notifications op => op.Res
  | .userList => Except Error (List Auth.User)
  | .teamList => Except Error (List Teams.Team)
  | .googleUserInfo _ => Except Error UserInfo
  | .randRead _ => Except Error Bytes

inductive Payload
  | body (body : Body)
  | session (session : Auth.Session)
  | principal (principal : Principal)
  | users (rows : List Auth.User)
  | teams (rows : List Teams.Team)
  | items (rows : List Workitems.WorkItem)
  | attachments (rows : List Attachments.Attachment)
  | health (appEnv : String)
  /-- A redirect, with the state its cookie keeps. -/
  | redirect (location cookie : String)
  | static
  deriving DecidableEq, Repr

structure Reply where
  status : ℕ
  payload : Payload
  deriving DecidableEq, Repr

def ofResponse (response : Response) : Reply := ⟨response.status,.body response.body⟩

def message (status : ℕ) (text : String) : Reply := ⟨status,.body (.message text)⟩

/-- A handler under way; an early reply is its error. -/
abbrev H (α : Type) := Program Op.Res Reply α

section Embeddings
variable {α : Type}

/-- A handler of work items or attachments. -/
def http (p : Http.H α) : H α := p.translate Op.http (fun _ r => r) ofResponse

/-- A handler of users or teams. -/
def users (p : Users.H α) : H α := p.translate Op.users (fun _ r => r) ofResponse

/-- A handler of notifications. -/
def inbox (p : NotificationHandler.H α) : H α :=
  p.translate Op.notifications (fun _ r => r) ofResponse

/-- A call of the auth service, its error answered by `onError`. -/
def auth (onError : Error → Response) (p : Auth.M α) : H α := users (Users.auth onError p)

/-- A call of the teams service. -/
def teams (onError : Error → Response) (p : Teams.M α) : H α := users (Users.teams onError p)

/-- A call of the work item service. -/
def work (onError : Error → Response) (p : Workitems.M α) : H α := http (Http.work onError p)

end Embeddings

structure State where
  users : Users.State
  http : Http.State

namespace State

abbrev auth (s : State) : Auth.State := s.users.auth

abbrev teams (s : State) : Teams.State := s.users.teams

abbrev work (s : State) : Workitems.State := s.http.work

/-- The accounts. -/
abbrev accounts (s : State) : Auth.MemoryUserStore := s.users.auth.users

end State

/-- What a server is built with: its libraries, its token manager, and the optional features its
configuration turns on. -/
structure Config where
  lib : Auth.Lib
  tokens : JWTManager
  jwt : JWTLibrary
  authCodeURL : String → String
  appEnv : String
  googleOAuthEnabled : Bool
  emailEnabled : Bool

/-- The work item service as `router.New` builds it without a database. -/
def workItemService : Workitems.Service := .inMemory true true

/-- What the clock shows while a request is served, when it is read first and last, when the
services read it and when a notification does, and what the storage answers meanwhile. -/
structure Moment where
  began : Time
  now : Time
  notifiedAt : Time
  ended : Time
  save : Context → String → Bytes → Except Error (String × Int)
  began_le : began ≤ now
  now_le : now ≤ notifiedAt
  le_ended : notifiedAt ≤ ended

/-- What the token manager and the clock answer the auth service at that moment; the rest of the
outside answers as it likes. -/
def Config.Within (cfg : Config) (m : Moment) : (op : Auth.Op) → op.Res → Prop
  | .issue principal, r => ∃ now, m.began ≤ now ∧ now ≤ m.ended ∧
    r = cfg.tokens.issue cfg.jwt.toJWT now principal
  | .parse rawToken, r => ∃ now, m.began ≤ now ∧ now ≤ m.ended ∧
    r = (cfg.tokens.parse cfg.jwt.toJWTParser now rawToken).map Prod.fst
  | .now, r => m.began ≤ r ∧ r ≤ m.ended
  | _, _ => True

/-- The team service and the notification service in their places beside the work items. -/
def State.env (s : State) (m : Moment) : Http.Env where
  work := {
    now := m.now
    isActiveSupervisorOf := fun supervisorUserID assigneeUserID =>
      ((Teams.isActiveSupervisorOf background supervisorUserID assigneeUserID).run
        (Teams.exec m.now) s.teams).1
    supervisedAssigneeUserIDs := fun supervisorUserID =>
      ((Teams.supervisedAssigneeUserIDs background supervisorUserID).run (Teams.exec m.now)
        s.teams).1
    notify := Notifications.notifyMemory m.notifiedAt }
  save := m.save

def State.setNotifications (s : State) (notifications : Notifications.MemoryStore) : State :=
  { s with http := { s.http with work := { s.work with notifications } } }

/-- One atomic call of user or team management at that moment. -/
inductive Manages (cfg : Config) (m : Moment) :
    (op : Users.Op) → Users.State → op.Res → Users.State → Prop
  | auth {s : Users.State} {op : Auth.Op} {r : op.Res} {t : Auth.State}
      (hanswer : Auth.Within cfg.lib (cfg.Within m) op s.auth r t) :
      Manages cfg m (.auth op) s r { s with auth := t }
  | teams {s : Users.State} (op : Teams.Op) : Manages cfg m (.teams op) s
      (Teams.exec m.now op s.teams).1 { s with teams := (Teams.exec m.now op s.teams).2 }

/-- One atomic call at that moment. -/
inductive Answers (cfg : Config) (m : Moment) : (op : Op) → State → op.Res → State → Prop
  | users {s : State} {op : Users.Op} {r : op.Res} {t : Users.State}
      (hanswer : Manages cfg m op s.users r t) : Answers cfg m (.users op) s r { s with users := t }
  | http {s : State} (op : Http.Op) : Answers cfg m (.http op) s
      (Http.exec (s.env m) op s.http).1 { s with http := (Http.exec (s.env m) op s.http).2 }
  | notifications {s : State} {op : Notifications.Op} {r : op.Res} {t : Notifications.MemoryStore}
      (hanswer : Notifications.Answers m.now op s.work.notifications r t) :
      Answers cfg m (.notifications op) s r (s.setNotifications t)
  | userList {s : State} : Answers cfg m .userList s (.ok s.accounts.users) s
  | teamList {s : State} : Answers cfg m .teamList s (.ok s.teams.teams.teams) s
  | googleUserInfo {s : State} {code : String} (r : Except Error UserInfo) :
      Answers cfg m (.googleUserInfo code) s r s
  | randRead {s : State} {n : ℕ} (r : Except Error Bytes)
      (hlength : ∀ raw, r = .ok raw → raw.length = n) : Answers cfg m (.randRead n) s r s

/-- What the rest of the world answers while a request is served. -/
structure Env where
  moment : Moment
  hash : String → Except Error String
  compare : String → String → Except Error Unit
  send : Except Error Unit
  randInt : (max : ℕ) → Except Error (Fin max)
  googleUserInfo : String → Except Error UserInfo
  randRead : (n : ℕ) → Except Error { raw : Bytes // raw.length = n }

def Env.auth (cfg : Config) (env : Env) : Auth.Env where
  now := env.moment.now
  hash := env.hash
  compare := env.compare
  issue := cfg.tokens.issue cfg.jwt.toJWT env.moment.now
  parse rawToken := (cfg.tokens.parse cfg.jwt.toJWTParser env.moment.now rawToken).map Prod.fst
  send := env.send
  randInt := env.randInt

/-- One atomic call in a given environment. -/
def exec (cfg : Config) (env : Env) : (op : Op) → State → op.Res × State
  | .users (.auth op), s => ((Auth.exec cfg.lib (env.auth cfg) op s.auth).1,
      { s with users := { s.users with auth := (Auth.exec cfg.lib (env.auth cfg) op s.auth).2 } })
  | .users (.teams op), s => ((Teams.exec env.moment.now op s.teams).1,
      { s with users := { s.users with teams := (Teams.exec env.moment.now op s.teams).2 } })
  | .http op, s => ((Http.exec (s.env env.moment) op s.http).1,
      { s with http := (Http.exec (s.env env.moment) op s.http).2 })
  | .notifications op, s => ((Notifications.exec env.moment.now op s.work.notifications).1,
      s.setNotifications (Notifications.exec env.moment.now op s.work.notifications).2)
  | .userList, s => (.ok s.accounts.users,s)
  | .teamList, s => (.ok s.teams.teams.teams,s)
  | .googleUserInfo code, s => (env.googleUserInfo code,s)
  | .randRead n, s => ((env.randRead n).map Subtype.val,s)

lemma Moment.le_now_ended (m : Moment) : m.now ≤ m.ended := m.now_le.trans m.le_ended

lemma within_exec (cfg : Config) (env : Env) (op : Auth.Op) (s : Auth.State) :
    cfg.Within env.moment op (Auth.exec cfg.lib (env.auth cfg) op s).1 := by
  cases op with
  | issue | parse => exact ⟨env.moment.now,env.moment.began_le,env.moment.le_now_ended,rfl⟩
  | now => exact ⟨env.moment.began_le,env.moment.le_now_ended⟩
  | _ => trivial

/-- The answers of an environment are among those its moment allows. -/
lemma answers_exec (cfg : Config) (env : Env) (op : Op) (s : State)
    (hs : s.work.notifications.Numbered) :
    Answers cfg env.moment op s (exec cfg env op s).1 (exec cfg env op s).2 ∧
      (exec cfg env op s).2.work.notifications.Numbered := by
  cases op with
  | users op =>
    cases op with
    | auth op =>
      exact ⟨.users (.auth ⟨Auth.answers_exec cfg.lib (env.auth cfg) op s.auth,
        within_exec cfg env op s.auth⟩),hs⟩
    | teams op => exact ⟨.users (.teams op),hs⟩
  | http op =>
    refine ⟨.http op,?_⟩
    cases op with
    | work op =>
      have hnotify : (s.env env.moment).work.notify =
          Notifications.notifyMemory env.moment.notifiedAt := rfl
      exact numbered_of_answers hs hnotify rfl
    | attachments op => cases op <;> exact hs
  | notifications op =>
    obtain ⟨hanswer,hnumbered⟩ :=
      Notifications.answers_exec env.moment.now op s.work.notifications hs
    exact ⟨.notifications hanswer,hnumbered⟩
  | userList => exact ⟨.userList,hs⟩
  | teamList => exact ⟨.teamList,hs⟩
  | googleUserInfo code => exact ⟨.googleUserInfo _,hs⟩
  | randRead n =>
    refine ⟨.randRead _ fun raw hraw => ?_,hs⟩
    change (env.randRead n).map Subtype.val = .ok raw at hraw
    cases hread : env.randRead n with
    | error err => rw [hread] at hraw; cases hraw
    | ok read =>
      rw [hread] at hraw
      cases hraw
      exact read.2

end OpsPlatform.Server
