import OpsPlatform.Server.Admission

/-! Requests served one after another: what an execution inside the whole server is on the part of
the state it sees, and who a guarded request comes from. -/
namespace OpsPlatform.Server
open OpsPlatform.Go OpsPlatform.Http Interaction Program
open OpsPlatform.Auth (Role Principal User principalFromUser)

lemma state_eq {s t : State} (hauth : t.auth = s.auth) (hteams : t.teams = s.teams)
    (hhttp : t.http = s.http) : t = s := by
  obtain ⟨⟨_,_⟩,_⟩ := s
  obtain ⟨⟨_,_⟩,_⟩ := t
  cases hauth; cases hteams; cases hhttp
  rfl

/-- The account a guarded request comes from: its bearer token names it, it is active, and the gate
of the route lets it through. -/
structure Caller (cfg : Config) (x : Exchange) (route : Guarded) (user : User) : Prop where
  request : ∃ authorizationHeader rawToken read,
    x.request = .guarded authorizationHeader route ∧
    extractBearerToken authorizationHeader = .ok rawToken ∧
    cfg.Within x.moment (.parse rawToken) (.ok read) ∧ read.userID = user.id
  mounted : route.mounted cfg = true
  found : x.before.accounts.findByID user.id = some user
  isActive : user.isActive = true
  lets : route.gate.Lets (principalFromUser user)

/-- A guarded request is served as this account: it comes from it, the handler of the route runs as its
principal, and the reply is what this run comes to. -/
structure Served (cfg : Config) (x : Exchange) (route : Guarded) (user : User) : Prop where
  caller : Caller cfg x route user
  handled : ∃ y, (route.handler cfg (principalFromUser user)).Runs (Answers cfg x.moment) x.before y
    x.after ∧ x.reply = settle y

/-- What the store finds by an id. -/
lemma findByID_of_answers {lib : Auth.Lib} {id : String} {s t : Auth.State} {r : Option User}
    (h : Auth.Answers lib (.findByID id) s r t) : r = s.users.findByID id := by
  cases h
  rfl

/-- The server turns a token down: it does not read it, or finds no active account of its subject. -/
def Turned (cfg : Config) (m : Moment) (s : State) (rawToken : String) : Prop :=
  (∃ err, cfg.Within m (.parse rawToken) (.error err)) ∨
    ∃ read, cfg.Within m (.parse rawToken) (.ok read) ∧
      ∀ user, s.accounts.findByID read.userID = some user → user.isActive = false

/-- The server takes a token, as one of this account. -/
def Taken (cfg : Config) (m : Moment) (s : State) (rawToken : String) (user : User) : Prop :=
  ∃ read, cfg.Within m (.parse rawToken) (.ok read) ∧
    s.accounts.findByID read.userID = some user ∧ user.isActive = true

lemma Caller.of_taken {cfg : Config} {x : Exchange} {s : State} {authorizationHeader rawToken : String}
    {route : Guarded} {user : User} (hrequest : x.request = .guarded authorizationHeader route)
    (hbefore : x.before = s) (hmounted : route.mounted cfg = true)
    (htoken : extractBearerToken authorizationHeader = .ok rawToken)
    (htaken : Taken cfg x.moment s rawToken user)
    (hlets : route.gate.Lets (principalFromUser user)) : Caller cfg x route user := by
  obtain ⟨read,hread,hfound,hactive⟩ := htaken
  have hid : read.userID = user.id := (Auth.MemoryUserStore.id_of_findByID hfound).symm
  refine ⟨⟨authorizationHeader,rawToken,read,hrequest,htoken,hread,hid⟩,hmounted,?_,hactive,hlets⟩
  rw [hbefore, ← hid]
  exact hfound

section Parts
variable {cfg : Config} {m : Moment} {s t : State} {α β Input : Type} {x : Except Reply α}

lemma answers_auth {op : Auth.Op} {r : op.Res} (h : Answers cfg m (.users (.auth op)) s r t) :
    Auth.Within cfg.lib (cfg.Within m) op s.auth r t.auth := by
  cases h with
  | users hmanages =>
    cases hmanages with
    | auth hwithin => exact hwithin

/-- A handler of users or teams leaves the rest of the server. -/
lemma runs_users {p : Users.H α} (h : (users p).Runs (Answers cfg m) s x t) :
    ∃ y, x = y.mapError ofResponse ∧ p.Runs (Manages cfg m) s.users y t.users ∧
      t.http = s.http := by
  refine Runs.of_translate State.users State.http ?_ h
  rintro op s r t ⟨hanswer⟩
  exact ⟨hanswer,rfl⟩

/-- A call of the auth service leaves everything but the accounts. -/
lemma runs_auth {onError : Error → Response} {p : Auth.M α}
    (h : (auth onError p).Runs (Answers cfg m) s x t) :
    ∃ y, x = y.mapError (fun err => ofResponse (onError err)) ∧
      p.Runs (Auth.Within cfg.lib (cfg.Within m)) s.auth y t.auth ∧
      t.teams = s.teams ∧ t.http = s.http := by
  rw [auth_eq] at h
  have hsplit : ∃ y, x = y.mapError (fun err => ofResponse (onError err)) ∧
      p.Runs (Auth.Within cfg.lib (cfg.Within m)) s.auth y t.auth ∧
      (t.teams,t.http) = (s.teams,s.http) := by
    refine Runs.of_translate State.auth (fun s => (s.teams,s.http)) ?_ h
    rintro op s r t ⟨⟨hanswer⟩⟩
    exact ⟨hanswer,rfl⟩
  obtain ⟨y,hy,hruns,hrest⟩ := hsplit
  exact ⟨y,hy,hruns,Prod.mk.inj hrest⟩

/-- A call of the auth service that the handler answers with a reply of its own. -/
lemma runs_auth_reply {onError : Error → Response} {p : Auth.M α} {reply : α → Reply}
    {x : Except Reply Reply}
    (h : (auth onError p >>= fun a => ret (reply a)).Runs (Answers cfg m) s x t) :
    ∃ y, x = (y.map reply).mapError (fun err => ofResponse (onError err)) ∧
      p.Runs (Auth.Within cfg.lib (cfg.Within m)) s.auth y t.auth ∧
      t.teams = s.teams ∧ t.http = s.http := by
  obtain ⟨a,u,hcall,hret⟩ | ⟨e,hcall,rfl⟩ := runs_bind.mp h
  · cases hret
    obtain ⟨y,hy,hruns,hrest⟩ := runs_auth hcall
    cases y with
    | error err => cases hy
    | ok b =>
      cases hy
      exact ⟨.ok a,rfl,hruns,hrest⟩
  · obtain ⟨y,hy,hruns,hrest⟩ := runs_auth hcall
    cases y with
    | error err =>
      cases hy
      exact ⟨.error err,rfl,hruns,hrest⟩
    | ok b => cases hy

lemma runs_require_bind {value : Option α} {status : ℕ} {text : String} {k : α → H β}
    {x : Except Reply β}
    (h : (http (require value status text) >>= k).Runs (Answers cfg m) s x t) :
    (value = none ∧ x = .error (message status text) ∧ t = s) ∨
      ∃ a, value = some a ∧ (k a).Runs (Answers cfg m) s x t := by
  cases value with
  | none =>
    cases h
    exact .inl ⟨rfl,rfl,rfl⟩
  | some a => exact .inr ⟨a,rfl,h⟩

/-- `Authenticate` changes no account, and takes a token or turns it down. -/
lemma runs_authenticate {rawToken : String} {x : Except Error Principal} {t : Auth.State}
    (h : (Auth.authenticate rawToken).Runs (Auth.Within cfg.lib (cfg.Within m)) s.auth x t) :
    t = s.auth ∧ ((∃ err, x = .error err ∧ Turned cfg m s rawToken) ∨
      ∃ user, x = .ok (principalFromUser user) ∧ Taken cfg m s rawToken user) := by
  unfold Auth.authenticate Auth.requireUser at h
  rw [call_bind] at h
  obtain ⟨parsed,u,⟨hanswer,hwithin⟩,h⟩ := runs_call.mp h
  obtain rfl : u = s.auth := by cases hanswer; rfl
  cases parsed with
  | error err =>
    cases h
    exact ⟨rfl,.inl ⟨_,rfl,.inl ⟨err,hwithin⟩⟩⟩
  | ok read =>
    rw [Except.mapError, fromResult_ok, ret_bind, call_bind] at h
    obtain ⟨found,v,⟨hanswer,-⟩,h⟩ := runs_call.mp h
    obtain ⟨rfl,hfound⟩ : v = s.auth ∧ found = s.accounts.findByID read.userID := by
      cases hanswer
      exact ⟨rfl,rfl⟩
    cases found with
    | none =>
      cases h
      exact ⟨rfl,.inl ⟨_,rfl,.inr ⟨read,hwithin,by simp [← hfound]⟩⟩⟩
    | some user =>
      rw [id, ret_bind] at h
      obtain ⟨hinactive,rfl,rfl⟩ | ⟨hactive,hret⟩ := runs_failIf_bind.mp h
      · refine ⟨rfl,.inl ⟨_,rfl,.inr ⟨read,hwithin,fun other hother => ?_⟩⟩⟩
        rw [← Option.some.inj (hfound.trans hother)]
        simpa using hinactive
      · cases hret
        exact ⟨rfl,.inr ⟨user,rfl,read,hwithin,hfound.symm,by simpa using hactive⟩⟩

/-- So does `RequireAuth`. -/
lemma runs_requireAuth {authorizationHeader : String} {x : Except Reply Principal}
    (h : (requireAuth authorizationHeader).Runs (Answers cfg m) s x t) :
    t = s ∧ ((∃ reply, x = .error reply ∧ reply.status = 401 ∧ ∀ rawToken,
        extractBearerToken authorizationHeader = .ok rawToken → Turned cfg m s rawToken) ∨
      ∃ rawToken user, extractBearerToken authorizationHeader = .ok rawToken ∧
        x = .ok (principalFromUser user) ∧ Taken cfg m s rawToken user) := by
  unfold requireAuth at h
  cases htoken : extractBearerToken authorizationHeader with
  | error err =>
    rw [htoken] at h
    cases h
    exact ⟨rfl,.inl ⟨_,rfl,rfl,fun _ h => (by cases h)⟩⟩
  | ok token =>
    rw [htoken, Except.mapError, fromResult_ok, ret_bind] at h
    obtain ⟨y,rfl,hruns,hteams,hhttp⟩ := runs_auth h
    obtain ⟨hauth,hcases⟩ := runs_authenticate hruns
    refine ⟨state_eq hauth hteams hhttp,?_⟩
    obtain ⟨err,rfl,hturned⟩ | ⟨user,rfl,htaken⟩ := hcases
    · refine .inl ⟨_,rfl,rfl,fun rawToken h => ?_⟩
      cases h
      exact hturned
    · exact .inr ⟨token,user,rfl,rfl,htaken⟩

/-- The middlewares behind it call nothing. -/
lemma runs_check {gate : Gate} {principal : Principal} {x : Except Reply Unit}
    (h : (gate.check principal).Runs (Answers cfg m) s x t) :
    t = s ∧ ((∃ reply, x = .error reply ∧ reply.status = 403 ∧ ¬ gate.Lets principal) ∨
      x = .ok () ∧ gate.Lets principal) := by
  obtain ⟨cleared,verified,roles⟩ := gate
  rw [Gate.check, requirePasswordChangeCleared, requireVerifiedEmailForRequester, wrapped_failIf,
    wrapped_failIf] at h
  obtain ⟨⟨hhere,hchange⟩,rfl,rfl⟩ | ⟨hcleared,h⟩ := runs_failIf_bind.mp h
  · refine ⟨rfl,.inl ⟨_,rfl,rfl,fun hlets => ?_⟩⟩
    rw [hlets.cleared hhere] at hchange
    cases hchange
  obtain ⟨⟨hhere,hrequester,hunverified⟩,rfl,rfl⟩ | ⟨hverified,h⟩ := runs_failIf_bind.mp h
  · refine ⟨rfl,.inl ⟨_,rfl,rfl,fun hlets => ?_⟩⟩
    rw [hlets.verified hhere hrequester] at hunverified
    cases hunverified
  have hlets : (∀ allowed, roles = some allowed → principal.hasAnyRole allowed = true) →
      Gate.Lets ⟨cleared,verified,roles⟩ principal := .of_passed hcleared hverified
  cases roles with
  | none =>
    cases h
    exact ⟨rfl,.inr ⟨rfl,hlets fun allowed h => (by cases h)⟩⟩
  | some allowed =>
    dsimp only at h
    rw [requireRoles, http_failIf, ← bind_ret (failIf _ _)] at h
    obtain ⟨hnot,rfl,rfl⟩ | ⟨hany,h⟩ := runs_failIf_bind.mp h
    · exact ⟨rfl,.inl ⟨_,rfl,rfl,fun hlets => hnot (hlets.roles allowed rfl)⟩⟩
    · cases h
      refine ⟨rfl,.inr ⟨rfl,hlets ?_⟩⟩
      rintro _ ⟨⟩
      exact not_not.mp hany

/-- A guarded handler is refused with nothing changed, or runs for an account its gate lets
through. -/
lemma runs_guarded {authorizationHeader : String} {gate : Gate} {handler : Principal → H Reply}
    {x : Except Reply Reply}
    (h : (do
      let principal ← requireAuth authorizationHeader
      gate.check principal
      handler principal : H Reply).Runs (Answers cfg m) s x t) :
    ((settle x).status = 401 ∧ t = s ∧ ∀ rawToken,
      extractBearerToken authorizationHeader = .ok rawToken → Turned cfg m s rawToken) ∨
    ∃ rawToken user, extractBearerToken authorizationHeader = .ok rawToken ∧
      Taken cfg m s rawToken user ∧
      ((settle x).status = 403 ∧ t = s ∧ ¬ gate.Lets (principalFromUser user) ∨
        gate.Lets (principalFromUser user) ∧
        (handler (principalFromUser user)).Runs (Answers cfg m) s x t) := by
  obtain ⟨principal,u,hrequire,hrest⟩ | ⟨reply,hrequire,rfl⟩ := runs_bind.mp h
  · obtain ⟨rfl,⟨_,h,_⟩ | ⟨rawToken,user,htoken,h,htaken⟩⟩ := runs_requireAuth hrequire
    · cases h
    cases h
    refine .inr ⟨rawToken,user,htoken,htaken,?_⟩
    obtain ⟨_,v,hcheck,hhandler⟩ | ⟨reply,hcheck,rfl⟩ := runs_bind.mp hrest
    · obtain ⟨rfl,⟨_,h,_⟩ | ⟨-,hlets⟩⟩ := runs_check hcheck
      · cases h
      · exact .inr ⟨hlets,hhandler⟩
    · obtain ⟨rfl,⟨_,h,hstatus,hnot⟩ | ⟨h,_⟩⟩ := runs_check hcheck
      · cases h
        exact .inl ⟨hstatus,rfl,hnot⟩
      · cases h
  · obtain ⟨rfl,⟨_,h,hstatus,hturned⟩ | ⟨_,_,_,h,_⟩⟩ := runs_requireAuth hrequire
    · cases h
      exact .inl ⟨hstatus,rfl,hturned⟩
    · cases h

end Parts
end OpsPlatform.Server
