import OpsPlatform.Auth.Unauthenticated
import OpsPlatform.Http.AdminAccounts
import OpsPlatform.Server.Routes

/-! Who gets past the middlewares, in any interleaving of any requests. What a request has seen
says whether it was admitted; before that it looks up its own token and the account this token names,
and without a token a request reaches the account its input names. -/
namespace OpsPlatform.Server
open OpsPlatform.Go OpsPlatform.Http Interaction Program
open OpsPlatform.Auth (Role Principal principalFromUser)

/-- The two calls of `Authenticate`, of the token in the header and of the account read from it. -/
inductive Looks (authorizationHeader : String) (seen : List (Event Op.Res)) : Op → Prop
  | parse {rawToken : String} (token : extractBearerToken authorizationHeader = .ok rawToken) :
      Looks authorizationHeader seen (.users (.auth (.parse rawToken)))
  | find {rawToken : String} {read : Principal}
      (token : extractBearerToken authorizationHeader = .ok rawToken)
      (parsed : ⟨.users (.auth (.parse rawToken)),.ok read⟩ ∈ seen) :
      Looks authorizationHeader seen (.users (.auth (.findByID read.userID)))

/-- The middlewares let this principal through. -/
structure Gate.Lets (gate : Gate) (principal : Principal) : Prop where
  cleared : gate.cleared = true → principal.requiresPasswordChange = false
  verified : gate.verified = true → principal.hasRole .requester = true →
    principal.emailVerified = true
  roles : ∀ roles, gate.roles = some roles → principal.hasAnyRole roles = true

/-- The request has parsed its bearer token, and found the account the token names, active and let
through by the gate. -/
def Admitted (authorizationHeader : String) (gate : Gate) (seen : List (Event Op.Res)) : Prop :=
  ∃ rawToken read user, extractBearerToken authorizationHeader = .ok rawToken ∧
    ⟨.users (.auth (.parse rawToken)),.ok read⟩ ∈ seen ∧
    ⟨.users (.auth (.findByID read.userID)),some user⟩ ∈ seen ∧
    user.isActive = true ∧ gate.Lets (principalFromUser user)

def authEvent : Event Op.Res → Option (Event Auth.Op.Res)
  | ⟨.users (.auth op),r⟩ => some ⟨op,r⟩
  | _ => none

/-- What a route without `RequireAuth` may call, having seen these answers: what its one call of the
auth service asks, with the input the request carries. -/
def Public.May (lib : Auth.Lib) (seen : List (Event Op.Res)) : Public → Op → Prop
  | .login r, .users (.auth op) => ∃ request, decodeLoginRequest r = some request ∧
    Auth.Asks lib (seen.filterMap authEvent) (.login request.identifier request.password) op
  | .googleLogin, .randRead n => n = 32
  | .googleCallback r, .googleUserInfo code =>
    code = r.code ∧ r.cookie = some r.state ∧ r.state ≠ ""
  | .googleCallback r, .users (.auth op) => ∃ info identity,
    ⟨.googleUserInfo r.code,.ok info⟩ ∈ seen ∧ parseGoogleUserInfo info = .ok identity ∧
    Auth.Asks lib (seen.filterMap authEvent) (.loginWithGoogle identity) op
  | .signUp r, .users (.auth op) => ∃ input, r.body = some input ∧
    Auth.Asks lib (seen.filterMap authEvent) (.signUp input) op
  | .forgotPassword r, .users (.auth op) => ∃ identifier, r.body = some identifier ∧
    Auth.Asks lib (seen.filterMap authEvent) (.requestPasswordReset identifier) op
  | .resetPassword r, .users (.auth op) => ∃ input, r.body = some input ∧
    Auth.Asks lib (seen.filterMap authEvent)
      (.completePasswordReset input.identifier input.code input.newPassword) op
  | _, _ => False

/-- What a request may call, having seen these answers. -/
def Request.May (lib : Auth.Lib) (seen : List (Event Op.Res)) (op : Op) : Request → Prop
  | .open route => route.May lib seen op
  | .guarded authorizationHeader route =>
    Looks authorizationHeader seen op ∨ Admitted authorizationHeader route.gate seen
  | .unknown => False

/-- What a request may be answered, having seen these answers: refusals, until it is admitted. -/
def Request.MayGet (seen : List (Event Op.Res)) (reply : Reply) : Request → Prop
  | .guarded authorizationHeader route => reply.status ∈ [401,403,404] ∨
    Admitted authorizationHeader route.gate seen
  | _ => True

section Judgements
variable {α : Type} {seen : List (Event Op.Res)} {authorizationHeader : String} {gate : Gate}
  {R : List (Event Op.Res) → Event Op.Res → Prop}

lemma auth_eq (onError : Error → Response) (p : Auth.M α) :
    auth onError p = p.translate (fun op => Op.users (.auth op)) (fun _ r => r)
      fun err => ofResponse (onError err) :=
  translate_translate p

lemma mem_authEvent {op : Auth.Op} {r : op.Res} :
    ⟨op,r⟩ ∈ seen.filterMap authEvent ↔ ⟨.users (.auth op),r⟩ ∈ seen := by
  rw [List.mem_filterMap]
  constructor
  · rintro ⟨e,he,hview⟩
    unfold authEvent at hview
    split at hview
    · cases hview
      exact he
    · cases hview
  · exact fun h => ⟨_,h,rfl⟩

lemma Admitted.mono {seen' : List (Event Op.Res)} (hseen : seen <+: seen')
    (h : Admitted authorizationHeader gate seen) : Admitted authorizationHeader gate seen' := by
  obtain ⟨rawToken,read,user,htoken,hparse,hfind,hrest⟩ := h
  exact ⟨rawToken,read,user,htoken,hseen.subset hparse,hseen.subset hfind,hrest⟩

/-- `Authenticate` looks up the token it is given, and the account the token names. -/
lemma ensures_authenticate (rawToken : String) (seen : List (Event Auth.Op.Res))
    {R : List (Event Auth.Op.Res) → Event Auth.Op.Res → Prop} :
    (Auth.authenticate rawToken).Ensures R (fun seen op => op = .parse rawToken ∨
        ∃ read, ⟨.parse rawToken,.ok read⟩ ∈ seen ∧ op = .findByID read.userID)
      (fun seen' x => ∀ principal, x = .ok principal → ∃ read user,
        ⟨.parse rawToken,.ok read⟩ ∈ seen' ∧ ⟨.findByID read.userID,some user⟩ ∈ seen' ∧
        user.isActive = true ∧ principal = principalFromUser user) seen := by
  unfold Auth.authenticate Auth.requireUser
  rw [call_bind, ensures_call]
  refine ⟨.inl rfl,fun r _ => ?_⟩
  cases r with
  | error err => exact (ensures_fail _).mpr (by simp)
  | ok read =>
    simp only [Except.mapError, fromResult_ok, ret_bind, call_bind]
    rw [ensures_call]
    refine ⟨.inr ⟨read,by simp,rfl⟩,fun found _ => ?_⟩
    cases found with
    | none => exact (ensures_fail _).mpr (by simp)
    | some user =>
      simp only [id_eq, ret_bind, ensures_failIf_bind]
      refine ⟨by simp,fun hactive => (ensures_ret _).mpr ?_⟩
      rintro _ ⟨⟩
      exact ⟨read,user,by simp,by simp,by simpa using hactive,rfl⟩

lemma ensures_requireAuth : (requireAuth authorizationHeader).Ensures R
    (Looks authorizationHeader) (fun seen' x =>
      (∀ reply, x = .error reply → reply.status = 401) ∧
      ∀ principal, x = .ok principal → ∃ rawToken read user,
        extractBearerToken authorizationHeader = .ok rawToken ∧
        ⟨.users (.auth (.parse rawToken)),.ok read⟩ ∈ seen' ∧
        ⟨.users (.auth (.findByID read.userID)),some user⟩ ∈ seen' ∧
        user.isActive = true ∧ principal = principalFromUser user) seen := by
  unfold requireAuth
  cases htoken : extractBearerToken authorizationHeader with
  | error err =>
    rw [Except.mapError, fromResult_error, fail_bind, ensures_fail]
    refine ⟨?_,nofun⟩
    rintro _ ⟨⟩
    rfl
  | ok rawToken =>
    rw [Except.mapError, fromResult_ok, ret_bind, auth_eq]
    refine ensures_translate authEvent (fun _ _ => rfl) (ensures_authenticate rawToken _)
      (R := fun _ _ => True) (fun _ _ _ _ _ => trivial) ?_ ?_
    · rintro seen' op _ (rfl | ⟨read,hread,rfl⟩)
      · exact .parse htoken
      · exact .find htoken (mem_authEvent.mp hread)
    intro seen' x _ hx
    cases x with
    | error err =>
      refine ⟨fun reply h => ?_,fun found h => (by cases h)⟩
      cases h
      rfl
    | ok principal =>
      refine ⟨fun reply h => (by cases h),fun found h => ?_⟩
      cases h
      obtain ⟨read,user,hparse,hfind,hactive,heq⟩ := hx principal rfl
      exact ⟨rawToken,read,user,rfl,mem_authEvent.mp hparse,mem_authEvent.mp hfind,hactive,heq⟩

lemma http_failIf (c : Prop) [Decidable c] (response : Response) :
    http (failIf c response) = failIf c (ofResponse response) :=
  translate_failIf c response

lemma wrapped_failIf (here : Bool) (c : Prop) [Decidable c] (response : Response) :
    wrapped here (failIf c response) = failIf (here = true ∧ c) (ofResponse response) := by
  cases here with
  | false => exact (failIf_false (by simp) _).symm
  | true =>
    rw [wrapped, if_pos rfl, http_failIf]
    simp

lemma Gate.Lets.of_passed {principal : Principal}
    (hcleared : ¬ (gate.cleared = true ∧ principal.requiresPasswordChange = true))
    (hverified : ¬ (gate.verified = true ∧ principal.hasRole .requester = true ∧
      principal.emailVerified = false))
    (hroles : ∀ allowed, gate.roles = some allowed → principal.hasAnyRole allowed = true) :
    gate.Lets principal where
  cleared h := by simpa [h] using hcleared
  verified h hrequester := by simpa [h, hrequester] using hverified
  roles := hroles

/-- The outcome of the middlewares. -/
def Gate.Checked (gate : Gate) (principal : Principal) : Except Reply Unit → Prop
  | .error reply => reply.status = 403
  | .ok _ => gate.Lets principal

/-- The middlewares call nothing. -/
lemma ensures_check {P : List (Event Op.Res) → Op → Prop} (principal : Principal) :
    (gate.check principal).Ensures R P
      (fun seen' x => seen' = seen ∧ gate.Checked principal x) seen := by
  obtain ⟨cleared,verified,roles⟩ := gate
  rw [Gate.check, requirePasswordChangeCleared, requireVerifiedEmailForRequester, wrapped_failIf,
    wrapped_failIf, ensures_failIf_bind]
  refine ⟨fun _ => ⟨rfl,rfl⟩,fun hcleared => ?_⟩
  rw [ensures_failIf_bind]
  refine ⟨fun _ => ⟨rfl,rfl⟩,fun hverified => ?_⟩
  have hlets : (∀ allowed, roles = some allowed → principal.hasAnyRole allowed = true) →
      Gate.Lets ⟨cleared,verified,roles⟩ principal := .of_passed hcleared hverified
  cases roles with
  | none => exact (ensures_ret _).mpr ⟨rfl,hlets fun allowed h => (by cases h)⟩
  | some allowed =>
    dsimp only
    rw [requireRoles, http_failIf, ensures_failIf]
    refine ⟨fun _ => ⟨rfl,rfl⟩,fun hadmitted => ⟨rfl,hlets ?_⟩⟩
    rintro _ ⟨⟩
    exact not_not.mp hadmitted

/-- A guarded handler starts behind all its middlewares. -/
lemma ensures_guarded (handler : Principal → H Reply) :
    (do
      let principal ← requireAuth authorizationHeader
      gate.check principal
      handler principal).Ensures R
      (fun seen op => Looks authorizationHeader seen op ∨ Admitted authorizationHeader gate seen)
      (fun seen x => (settle x).status ∈ [401,403,404] ∨ Admitted authorizationHeader gate seen)
      seen := by
  rw [ensures_bind]
  refine ensures_requireAuth.imp (fun _ _ h => .inl h) fun seen' x _ hx => ?_
  cases x with
  | error reply => exact .inl (by simp [settle, hx.1 reply rfl])
  | ok principal =>
    obtain ⟨rawToken,read,user,htoken,hparse,hfind,hactive,rfl⟩ := hx.2 principal rfl
    dsimp only
    rw [ensures_bind]
    refine (ensures_check _).imp (fun _ _ h => h) fun seen'' x _ hx => ?_
    obtain ⟨rfl,hchecked⟩ := hx
    cases x with
    | error reply => exact .inl (by simp [settle, show reply.status = 403 from hchecked])
    | ok u =>
      have hadmitted : Admitted authorizationHeader gate seen'' :=
        ⟨rawToken,read,user,htoken,hparse,hfind,hactive,hchecked⟩
      exact (ensures_stable (fun _ _ h => h.mono (List.prefix_append _ _)) _ hadmitted).imp
        (fun _ _ h => .inr h) fun _ _ _ h => .inr h

end Judgements

section Public
variable {α Input : Type} {seen : List (Event Op.Res)} {R : List (Event Op.Res) → Event Op.Res → Prop}
  {P : List (Event Op.Res) → Op → Prop}

lemma only_auth {K : Op → Prop} {onError : Error → Response} {p : Auth.M α}
    (hp : p.Only fun op => K (.users (.auth op))) : (auth onError p).Only K := by
  rw [auth_eq]
  exact only_translate hp

/-- A login only reads. -/
lemma only_login (identifier password : String) :
    (Auth.login identifier password).Only Auth.Op.Quiet := by
  unfold Auth.login Auth.requireUser
  refine only_bind (only_call trivial fun found => ?_) fun user => ?_
  · cases found
    · exact only_fail _
    · exact only_ret _
  · refine only_bind (only_failIf _ _) fun _ => ?_
    exact only_bind (only_call trivial fun _ => only_fromResult _) fun _ => Auth.only_issueSession user

lemma ensures_require_bind {value : Option Input} {status : ℕ} {text : String} {k : Input → H α}
    (hk : ∀ input, value = some input → (k input).Ensures R P (fun _ _ => True) seen) :
    (http (require value status text) >>= k).Ensures R P (fun _ _ => True) seen := by
  cases value with
  | none => exact (ensures_fail _).mpr trivial
  | some input => exact hk input rfl

/-- A call of the auth service and the reply made of its result. -/
lemma ensures_asks {lib : Auth.Lib} {c : Auth.Call} {onError : Error → Response} {p : Auth.M α}
    {reply : α → Reply} (hp : ∀ seen, p.Ensures (fun _ _ => True) (fun seen => Auth.Asks lib seen c)
      (fun _ _ => True) seen)
    (hP : ∀ seen' op, seen <+: seen' → Auth.Asks lib (seen'.filterMap authEvent) c op →
      P seen' (.users (.auth op))) :
    (auth onError p >>= fun a => ret (reply a)).Ensures R P (fun _ _ => True) seen := by
  have hcall : (auth onError p).Ensures R P (fun _ _ => True) seen := by
    rw [auth_eq]
    exact ensures_translate authEvent (fun _ _ => rfl) (hp _) (fun _ _ _ _ _ => trivial) hP
      fun _ _ _ _ => trivial
  exact hcall.andThen fun _ _ _ _ => (ensures_ret _).mpr trivial

/-- What the routes without `RequireAuth` call. -/
lemma ensures_open (cfg : Config) (route : Public) : (route.handler cfg).Ensures R
    (fun seen op => route.May cfg.lib seen op) (fun _ _ => True) seen := by
  cases route with
  | health | docs => exact (ensures_ret _).mpr trivial
  | login r =>
    refine ensures_require_bind fun request hrequest => ?_
    exact ensures_asks (fun _ => Auth.asks_login _ _) fun _ op _ hop => ⟨request,hrequest,hop⟩
  | googleLogin =>
    refine (ensures_call _ _).mpr ⟨rfl,fun raw _ => ?_⟩
    cases raw <;> exact (ensures_ret _).mpr trivial
  | googleCallback r =>
    refine ensures_failIf_andThen fun hcookie => ensures_failIf_andThen fun _ => ?_
    rw [not_or, not_not] at hcookie
    unfold exchange
    rw [call_bind, ensures_call]
    refine ⟨⟨rfl,hcookie⟩,fun info _ => ?_⟩
    rw [ret_bind]
    cases hidentity : Except.bind info parseGoogleUserInfo with
    | error err => exact (ensures_ret _).mpr trivial
    | ok identity =>
      obtain _ | payload := info
      · cases hidentity
      · refine ensures_asks (fun _ => Auth.asks_loginWithGoogle identity) fun seen' op hseen hop => ?_
        exact ⟨payload,identity,hseen.subset List.mem_concat_self,hidentity,hop⟩
  | signUp r =>
    refine ensures_require_bind fun input hinput => ?_
    exact ensures_asks (fun _ => Auth.asks_signUp input) fun _ op _ hop => ⟨input,hinput,hop⟩
  | forgotPassword r =>
    refine ensures_require_bind fun identifier hidentifier => ?_
    exact ensures_asks (fun _ => Auth.asks_requestPasswordReset identifier) fun _ op _ hop =>
      ⟨identifier,hidentifier,hop⟩
  | resetPassword r =>
    refine ensures_require_bind fun input hinput => ?_
    exact ensures_asks (fun _ => Auth.asks_completePasswordReset _ _ _) fun _ op _ hop =>
      ⟨input,hinput,hop⟩

end Public

/-- What every request keeps to from its beginning on. -/
lemma Request.ensures (cfg : Config) (request : Request)
    {R : List (Event Op.Res) → Event Op.Res → Prop} :
    (request.program cfg).Ensures R (fun seen op => request.May cfg.lib seen op)
      (fun seen x => request.MayGet seen (settle x)) [] := by
  cases request with
  | «open» route =>
    rw [program]
    split_ifs
    · exact ensures_open cfg route
    · exact (ensures_ret _).mpr trivial
  | guarded authorizationHeader route =>
    rw [program]
    split_ifs
    · exact ensures_guarded _
    · exact (ensures_ret _).mpr (.inl (by decide))
  | unknown => exact (ensures_ret _).mpr trivial

/-- One atomic call at some moment. -/
def Answered (cfg : Config) (op : Op) (s : State) (r : op.Res) (t : State) : Prop :=
  ∃ m, Answers cfg m op s r t

/-- The answers of an environment are given at its moment. -/
lemma answered_exec (cfg : Config) (env : Env) (op : Op) (s : State)
    (hs : s.work.notifications.Numbered) :
    Answered cfg op s (exec cfg env op s).1 (exec cfg env op s).2 ∧
      (exec cfg env op s).2.work.notifications.Numbered :=
  (answers_exec cfg env op s hs).imp (fun h => ⟨_,h⟩) id

/-- Concurrent requests to one server. -/
abbrev Requests (ι : Type) := Pool ι Op.Res Reply Reply State

/-- All requests at their beginning. -/
def begin {ι : Type} (cfg : Config) (requests : ι → Request) (s : State) : Requests ι :=
  Pool.start s fun i => (requests i).program cfg

/-- A session of an account, issued at the beginning of time for an hour. -/
def sampleToken (user : Auth.User) : Auth.SignedToken where
  rawToken := user.id
  claims := {
    displayName := user.displayName
    identifier := user.identifier
    roles := user.roles
    subject := user.id
    issuer := "ops-platform-starter"
    issuedAt := 0
    notBefore := 0
    expiresAt := 3600*Auth.second }
  secret := []

/-- A server that can issue these sessions to the bootstrap accounts. -/
def sampleConfig : Config where
  lib := Auth.sampleLib
  tokens := Auth.newJWTManager [] "ops-platform-starter" (60*Config.minute)
  jwt := .ofTable (Http.Users.started.auth.users.users.map sampleToken) (by decide +kernel)
    (by decide +kernel)
  authCodeURL := id
  appEnv := "test"
  googleOAuthEnabled := true
  emailEnabled := true

/-- The clock stands still while a request is served. -/
def sampleMoment (now : Time) : Moment where
  began := now
  now := now
  notifiedAt := now
  ended := now
  save _ filename content := .ok (filename,content.length)
  began_le := le_refl _
  now_le := le_refl _
  le_ended := le_refl _

def sampleEnv (now : Time) : Env where
  moment := sampleMoment now
  hash := (Auth.sampleEnv now).hash
  compare := (Auth.sampleEnv now).compare
  send := .ok ()
  randInt := (Auth.sampleEnv now).randInt
  googleUserInfo _ := .error ⟨"no network"⟩
  randRead n := .ok ⟨List.replicate n 0,List.length_replicate⟩

/-- The server after its start. -/
def started : State := ⟨Http.Users.started,.empty⟩

/-- Requests served in order after the start. -/
lemma exists_serveAll (requests : List (Env × Request)) :
    ∃ t, Trace (Serves sampleConfig) started (serveAll sampleConfig started requests) t :=
  trace_serveAll Notifications.MemoryStore.new_numbered requests

/-- Requests served concurrently after the start, in the order of a schedule. -/
lemma trace_schedule {ι : Type} [DecidableEq ι] (requests : ι → Request) (schedule : List ι) :
    Trace (Pool.Step (Answered sampleConfig)) (begin sampleConfig requests started)
      ((begin sampleConfig requests started).play (exec sampleConfig (sampleEnv 0)) schedule).1
      ((begin sampleConfig requests started).play (exec sampleConfig (sampleEnv 0)) schedule).2 :=
  (Pool.trace_play_of_inv (answered_exec sampleConfig (sampleEnv 0)) (fun _ _ => true) _ schedule
    (Pool.passes_true _ _) Notifications.MemoryStore.new_numbered).imp fun _ _ _ h => h.1

end OpsPlatform.Server
