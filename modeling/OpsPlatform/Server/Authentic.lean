import OpsPlatform.Auth.SignIn
import OpsPlatform.Server.Authority

/-! Whom a session belongs to. In every interleaving of any requests the accounts stay apart, and a
reply with a session is one to a caller who has signed in to the account it is for. -/
namespace OpsPlatform.Server
open OpsPlatform.Go OpsPlatform.Http Interaction Program
open OpsPlatform.Auth (Principal User Session Field Knows)

/-- The session a reply hands out. -/
def Reply.session? (reply : Reply) : Option Session :=
  match reply.payload with
  | .session session => some session
  | _ => none

/-- The calls by which a request signs somebody in. -/
inductive Request.Asks (seen : List (Event Op.Res)) : Request → Auth.Call → Prop
  | login {r : Req LoginRequest} {input : LoginRequest} (body : decodeLoginRequest r = some input) :
      Asks seen (.open (.login r)) (.login input.identifier input.password)
  | signUp {r : Req Auth.SignUpInput} {input : Auth.SignUpInput} (body : r.body = some input) :
      Asks seen (.open (.signUp r)) (.signUp input)
  | google {r : CallbackRequest} {info : UserInfo} {identity : Auth.GoogleIdentity}
      (state : r.cookie = some r.state) (answered : ⟨.googleUserInfo r.code,.ok info⟩ ∈ seen)
      (verified : parseGoogleUserInfo info = .ok identity) :
      Asks seen (.open (.googleCallback r)) (.loginWithGoogle identity)

/-- The session is one of an account that the request has signed in to. -/
def SessionOf (cfg : Config) (request : Request) (seen : List (Event Op.Res)) (user : User)
    (session : Session) : Prop :=
  ∃ c, request.Asks seen c ∧ Auth.SignedIn cfg.lib (seen.filterMap authEvent) c user ∧
    Auth.Opened (seen.filterMap authEvent) user session

/-- What the server may answer. -/
def Answerable (cfg : Config) (_ : List (Event Op.Res)) (e : Event Op.Res) : Prop :=
  ∃ m s t, Answers cfg m e.op s e.res t

section Silent
variable {cfg : Config} {α : Type} {seen : List (Event Op.Res)}
  {R : List (Event Op.Res) → Event Op.Res → Prop}

/-- An error that hands out no session. -/
def Plain (x : Except Reply α) : Prop := ∀ reply, x = .error reply → reply.session? = none

/-- The program ends without a session. -/
abbrev Silent (R : List (Event Op.Res) → Event Op.Res → Prop) (p : H Reply) : Prop :=
  ∀ seen, p.Ensures R (fun _ _ => True) (fun _ x => (settle x).session? = none) seen

lemma plain_translate {Op' ε : Type} {Res : Op' → Type} {f : Op' → Op}
    {back : (op : Op') → (f op).Res → Res op} {g : ε → Reply} (hg : ∀ e, (g e).session? = none)
    (p : Program Res ε α) : (p.translate f back g).Ensures R (fun _ _ => True) (fun _ x => Plain x)
      seen := by
  induction p generalizing seen with
  | ret a => exact (ensures_ret _).mpr fun reply h => by cases h
  | fail e =>
    refine (ensures_fail _).mpr fun reply h => ?_
    cases h
    exact hg e
  | call op next ih => exact (ensures_call _ _).mpr ⟨trivial,fun r _ => ih _⟩

lemma plain_http (p : Http.H α) :
    (http p).Ensures R (fun _ _ => True) (fun _ x => Plain x) seen := plain_translate (fun _ => rfl) p

lemma plain_auth (onError : Error → Response) (p : Auth.M α) :
    (auth onError p).Ensures R (fun _ _ => True) (fun _ x => Plain x) seen :=
  plain_translate (fun _ => rfl) _

lemma plain_requireAuth {authorizationHeader : String} :
    (requireAuth authorizationHeader).Ensures R (fun _ _ => True) (fun _ x => Plain x) seen := by
  unfold requireAuth
  cases extractBearerToken authorizationHeader with
  | error err =>
    refine (ensures_fail _).mpr fun reply h => ?_
    cases h
    rfl
  | ok token => exact plain_auth _ _

lemma plain_wrapped (here : Bool) (middleware : Http.H Unit) :
    (wrapped here middleware).Ensures R (fun _ _ => True) (fun _ x => Plain x) seen := by
  unfold wrapped
  split_ifs
  · exact plain_http _
  · exact (ensures_ret _).mpr fun reply h => by cases h

lemma plain_bind {β : Type} {p : H α} {f : α → H β}
    (hp : p.Ensures R (fun _ _ => True) (fun _ x => Plain x) seen)
    (hf : ∀ a seen, (f a).Ensures R (fun _ _ => True) (fun _ x => Plain x) seen) :
    (p >>= f).Ensures R (fun _ _ => True) (fun _ x => Plain x) seen := by
  rw [ensures_bind]
  refine hp.imp (fun _ _ h => h) fun seen' x _ hx => ?_
  cases x with
  | error reply => exact fun _ h => hx _ (by cases h; rfl)
  | ok a => exact hf a seen'

lemma plain_check (gate : Gate) (principal : Principal) :
    (gate.check principal).Ensures R (fun _ _ => True) (fun _ x => Plain x) seen := by
  refine plain_bind (plain_wrapped _ _) fun _ _ => plain_bind (plain_wrapped _ _) fun _ _ => ?_
  cases gate.roles with
  | none => exact (ensures_ret _).mpr fun reply h => by cases h
  | some roles => exact plain_http _

lemma silent_ret {reply : Reply} (h : reply.session? = none) : Silent R (ret reply) :=
  fun _ => (ensures_ret _).mpr h

lemma silent_fail {reply : Reply} (h : reply.session? = none) : Silent R (fail reply) :=
  fun _ => (ensures_fail _).mpr h

lemma silent_bind {p : H α} {f : α → H Reply}
    (hp : ∀ seen, p.Ensures R (fun _ _ => True) (fun _ x => Plain x) seen)
    (hf : ∀ a, Silent R (f a)) : Silent R (p >>= f) := by
  intro seen
  rw [ensures_bind]
  refine (hp seen).imp (fun _ _ h => h) fun seen' x _ hx => ?_
  cases x with
  | error reply => exact hx reply rfl
  | ok a => exact hf a seen'

/-- A handler of one of the services that replies with a response. -/
lemma silent_response {Op' : Type} {Res : Op' → Type} {f : Op' → Op}
    {back : (op : Op') → (f op).Res → Res op} (p : Program Res Response Response) :
    Silent R (ofResponse <$> p.translate f back ofResponse) :=
  silent_bind (fun _ => plain_translate (fun _ => rfl) p) fun _ => silent_ret rfl

/-- Behind `RequireAuth` no session is handed out. -/
lemma silent_guarded (principal : Principal) (route : Guarded) :
    Silent R (route.handler cfg principal) := by
  have hhttp : ∀ {α : Type} (p : Http.H α) seen,
      (http p).Ensures R (fun _ _ => True) (fun _ x => Plain x) seen := fun p seen => plain_http p
  have hauth : ∀ {α : Type} (onError : Error → Response) (p : Auth.M α) seen,
      (auth onError p).Ensures R (fun _ _ => True) (fun _ x => Plain x) seen :=
    fun onError p seen => plain_auth onError p
  cases route with
  | me => exact silent_bind (hhttp _) fun _ => silent_ret rfl
  | changePassword | verifyEmail =>
    exact silent_bind (hhttp _) fun _ => silent_bind (hhttp _) fun _ => silent_bind (hauth _ _)
      fun _ => silent_ret rfl
  | accessAdmin | accessAssignee => exact silent_ret rfl
  | listUsers r =>
    refine silent_bind (hhttp _) fun principal => silent_bind (fun seen => ?_) fun all => ?_
    · refine (ensures_call _ _).mpr ⟨trivial,fun rows _ => ?_⟩
      cases rows with
      | error err =>
        refine (ensures_fail _).mpr fun reply h => ?_
        cases h
        rfl
      | ok rows => exact (ensures_ret _).mpr fun reply h => by cases h
    · split_ifs
      · exact silent_ret rfl
      · exact silent_bind (fun _ => plain_translate (fun _ => rfl) _) fun _ => silent_ret rfl
  | listTeams r =>
    refine fun seen => (ensures_call _ _).mpr ⟨trivial,fun rows _ => ?_⟩
    cases rows with
    | error err => exact silent_fail rfl _
    | ok rows => exact silent_ret rfl _
  | listWorkItems | getAssignment =>
    exact silent_bind (hhttp _) fun _ => silent_bind (hhttp _) fun _ => silent_ret rfl
  | listAttachments =>
    exact silent_bind (hhttp _) fun _ => silent_bind (hhttp _) fun _ => silent_bind (hhttp _)
      fun _ => silent_ret rfl
  | manage | work | getWorkItem | statusHistory | assignmentHistory | listNotifications
  | markAsRead => exact silent_response _

end Silent

section SignsIn
variable {cfg : Config} {seen : List (Event Op.Res)} {request : Request}

/-- A session in a reply is one of an account the request has signed in to. -/
def Request.SignsIn (cfg : Config) (request : Request) (seen : List (Event Op.Res))
    (x : Except Reply Reply) : Prop :=
  ∀ session, (settle x).session? = some session → ∃ user, SessionOf cfg request seen user session

lemma signsIn_of_none {x : Except Reply Reply} (h : (settle x).session? = none) :
    request.SignsIn cfg seen x := fun session hsession => by
  rw [h] at hsession
  cases hsession

lemma ensures_of_silent {p : H Reply} (h : Silent (Answerable cfg) p) :
    p.Ensures (Answerable cfg) (fun _ _ => True) (request.SignsIn cfg) seen :=
  (h seen).imp (fun _ _ h => h) fun _ _ _ hx => signsIn_of_none hx

/-- The call a handler makes to sign somebody in, and its reply. -/
lemma ensures_session {onError : Error → Response} {p : Auth.M Session} {c : Auth.Call}
    {status : ℕ} (hc : c.respond cfg.lib = .session <$> p)
    (hasks : ∀ seen', seen <+: seen' → request.Asks seen' c) :
    (auth onError p >>= fun session => ret ⟨status,.session session⟩).Ensures (Answerable cfg)
      (fun _ _ => True) (request.SignsIn cfg) seen := by
  have hcall : p.Ensures (Auth.Answerable cfg.lib) (fun _ _ => True)
      (fun seen x => Auth.SignsIn cfg.lib c seen (x.map .session)) (seen.filterMap authEvent) := by
    rw [← ensures_map, ← hc]
    exact Auth.ensures_signsIn c _
  rw [ensures_bind, auth_eq]
  refine ensures_translate authEvent (fun _ _ => rfl) hcall ?_ (fun _ _ _ _ => trivial) ?_
  · rintro seen' op r _ ⟨m,s,t,hanswer⟩
    exact ⟨s.auth,t.auth,(answers_auth hanswer).1⟩
  · intro seen' x hseen hx
    cases x with
    | error err => exact signsIn_of_none rfl
    | ok session =>
      refine (ensures_ret _).mpr fun session' h => ?_
      cases h
      obtain ⟨user,hsigned,hopened⟩ := hx session rfl
      exact ⟨user,c,hasks seen' hseen,hsigned,hopened⟩

lemma http_require {α : Type} (value : α) (status : ℕ) (text : String) :
    http (require (some value) status text) = ret value := rfl

/-- The routes without `RequireAuth`. -/
lemma ensures_signsIn_open (route : Public) :
    (route.handler cfg).Ensures (Answerable cfg) (fun _ _ => True)
      ((Request.open route).SignsIn cfg) seen := by
  cases route with
  | health | docs => exact ensures_of_silent (silent_ret rfl)
  | googleLogin =>
    refine ensures_of_silent fun seen => (ensures_call _ _).mpr ⟨trivial,fun r _ => ?_⟩
    cases r with
    | error err => exact silent_ret rfl _
    | ok raw => exact silent_ret rfl _
  | forgotPassword | resetPassword =>
    exact ensures_of_silent (silent_bind (fun _ => plain_http _) fun _ =>
      silent_bind (fun _ => plain_auth _ _) fun _ => silent_ret rfl)
  | login r =>
    cases hbody : decodeLoginRequest r with
    | none =>
      change (AuthHandler.login r).Ensures _ _ _ _
      rw [AuthHandler.login, hbody]
      exact ensures_of_silent (silent_fail rfl)
    | some input =>
      change (AuthHandler.login r).Ensures _ _ _ _
      rw [AuthHandler.login, hbody, http_require, ret_bind]
      exact ensures_session (c := .login _ _) rfl fun _ _ => .login hbody
  | signUp r =>
    change (AuthHandler.signUp cfg.lib r).Ensures _ _ _ _
    rw [AuthHandler.signUp, decoded, decodeJSON]
    cases hbody : r.body with
    | none => exact ensures_of_silent (silent_fail rfl)
    | some input =>
      rw [http_require, ret_bind]
      exact ensures_session (c := .signUp input) rfl fun _ _ => .signUp hbody
  | googleCallback r =>
    change (AuthHandler.googleCallback cfg.lib r).Ensures _ _ _ _
    rw [AuthHandler.googleCallback, ensures_failIf_bind]
    refine ⟨fun _ => signsIn_of_none rfl,fun hstate => ?_⟩
    rw [ensures_failIf_bind]
    refine ⟨fun _ => signsIn_of_none rfl,fun _ => ?_⟩
    rw [exchange_bind, ensures_call]
    refine ⟨trivial,fun answer _ => ?_⟩
    cases answer with
    | error err => exact ensures_of_silent (silent_ret rfl)
    | ok info =>
      cases hverified : parseGoogleUserInfo info with
      | error err =>
        simp only [Except.bind, hverified]
        exact ensures_of_silent (silent_ret rfl)
      | ok identity =>
        simp only [Except.bind, hverified]
        refine ensures_session (c := .loginWithGoogle identity) rfl fun seen' hseen => ?_
        refine .google (by_contra fun h => hstate (.inl h)) (hseen.subset ?_) hverified
        simp

/-- Every request hands out only such sessions. -/
theorem Request.ensures_signsIn (cfg : Config) (request : Request) :
    (request.program cfg).Ensures (Answerable cfg) (fun _ _ => True) (request.SignsIn cfg) [] := by
  cases request with
  | unknown => exact ensures_of_silent (silent_ret rfl)
  | «open» route =>
    rw [program]
    split_ifs
    · exact ensures_signsIn_open route
    · exact ensures_of_silent (silent_ret rfl)
  | guarded authorizationHeader route =>
    rw [program]
    split_ifs
    · exact ensures_of_silent (silent_bind (fun _ => plain_requireAuth) fun principal =>
        silent_bind (fun _ => plain_check _ _) fun _ => silent_guarded principal route)
    · exact ensures_of_silent (silent_ret rfl)

end SignsIn

/-- The account row an answer has shown to a request. -/
def shownRow (e : Event Op.Res) : Option User :=
  match e with
  | ⟨.users (.auth (.findByIdentifier _)),found⟩ => found
  | ⟨.users (.auth op),r⟩ => Auth.shown ⟨op,r⟩
  | _ => none

/-- The accounts are apart, and every account a request was shown is still there. -/
structure Identified {ι : Type} (p : Requests ι) : Prop where
  distinct : p.state.accounts.Distinct
  known : ∀ i, ∀ e ∈ p.seen i, ∀ row, shownRow e = some row → Knows p.state.accounts row

section Run
variable {ι : Type} {cfg : Config} {requests : ι → Request} {s : State} {user : User}
  {seen : List (Event Op.Res)}

lemma shownRow_of_shown {e : Event Auth.Op.Res} (h : Auth.shown e = some user) :
    shownRow ⟨.users (.auth e.op),e.res⟩ = some user := by
  obtain ⟨op,r⟩ := e
  cases op <;> first | exact h | cases h

lemma exists_auth_of_shown {op : Op} {r : op.Res} (h : shownRow ⟨op,r⟩ = some user) :
    ∃ aop, op = .users (.auth aop) := by
  cases op with
  | users op =>
    cases op with
    | auth aop => exact ⟨aop,rfl⟩
    | teams => cases h
  | _ => cases h

/-- A row that an answer shows is stored. -/
lemma mem_of_shownRow {m : Moment} {op : Op} {r : op.Res} {u v : State} (h : Answers cfg m op u r v)
    (hrow : shownRow ⟨op,r⟩ = some user) : user ∈ v.accounts.users := by
  obtain ⟨aop,rfl⟩ := exists_auth_of_shown hrow
  have hauth := (answers_auth h).1
  cases aop with
  | findByIdentifier identifier =>
    change user ∈ v.auth.users.users
    generalize v.auth = t at hauth
    cases hauth
    exact List.mem_of_find?_eq_some hrow
  | findByID id => exact Auth.mem_of_shown (e := ⟨.findByID id,r⟩) hauth hrow
  | findByGoogleSubjectID id => exact Auth.mem_of_shown (e := ⟨.findByGoogleSubjectID id,r⟩) hauth hrow
  | create row => exact Auth.mem_of_shown (e := ⟨.create row,r⟩) hauth hrow
  | _ => cases hrow

/-- The account a request has signed in to was shown to it. -/
lemma exists_shown_of_signedIn {c : Auth.Call}
    (h : Auth.SignedIn cfg.lib (seen.filterMap authEvent) c user) :
    ∃ e ∈ seen, shownRow e = some user := by
  cases h with
  | password found => exact ⟨_,mem_authEvent.mp found,rfl⟩
  | google found => exact ⟨_,mem_authEvent.mp found,rfl⟩
  | googleCreated create => exact ⟨_,mem_authEvent.mp create,rfl⟩
  | signUp _ create => exact ⟨_,mem_authEvent.mp (create.subset List.mem_concat_self),rfl⟩

variable [DecidableEq ι] {p q : Requests ι} {ls : List (ι × Event Op.Res)} {l : ι × Event Op.Res}

/-- The step lemma. -/
lemma Identified.step (h : Identified p) (hstep : Pool.Step (Answered cfg) p l q)
    (hmay : (requests l.1).MayWrite cfg.lib (p.seen l.1) l.2.op) : Identified q := by
  have hnext : q.state.accounts.Distinct ∧
      (∀ row, Knows p.state.accounts row → Knows q.state.accounts row) ∧
      ∀ row, shownRow l.2 = some row → Knows q.state.accounts row := by
    obtain ⟨m,hanswer⟩ := hstep.answered
    obtain ⟨i,op,r⟩ := l
    by_cases hop : ∃ aop, op = .users (.auth aop)
    swap
    · rw [accounts_of_answers hanswer fun aop heq => hop ⟨aop,heq⟩]
      exact ⟨h.distinct,fun _ hrow => hrow,fun row hrow => (hop (exists_auth_of_shown hrow)).elim⟩
    obtain ⟨aop,rfl⟩ := hop
    have hauth := (answers_auth hanswer).1
    have hknown : ∀ e ∈ (p.seen i).filterMap authEvent, ∀ row, Auth.shown e = some row →
        Knows p.state.accounts row := fun e he row hrow =>
      h.known i _ (mem_authEvent.mp he) row (shownRow_of_shown hrow)
    have hdistinct : q.state.accounts.Distinct ∧
        (∀ row, Knows p.state.accounts row → Knows q.state.accounts row) ∧
        ∀ row, Auth.shown ⟨aop,r⟩ = some row → Knows q.state.accounts row := by
      obtain hquiet | ⟨c,hsent,hwrites⟩ := hmay aop rfl
      · exact Auth.distinct_step (c := .login "" "") (e := ⟨aop,r⟩) h.distinct hknown
          (fun _ hc => by cases hc) (Auth.may_of_quiet hquiet) hauth
      · exact Auth.distinct_step (e := ⟨aop,r⟩) h.distinct hknown hsent.not_seed hwrites.may hauth
    refine ⟨hdistinct.1,hdistinct.2.1,fun row hrow => ?_⟩
    cases aop with
    | findByIdentifier identifier =>
      exact .of_mem hdistinct.1.sound (mem_of_shownRow hanswer hrow)
    | _ => exact hdistinct.2.2 row hrow
  refine ⟨hnext.1,fun i e he row hrow => ?_⟩
  rw [hstep.seen, Function.update_apply] at he
  split_ifs at he with hi
  · obtain he | he := List.mem_append.mp he
    · exact hnext.2.1 row (h.known _ e he row hrow)
    · rw [List.mem_singleton.mp he] at hrow
      exact hnext.2.2 row hrow
  · exact hnext.2.1 row (h.known i e he row hrow)

/-- In every interleaving the accounts stay apart, and a reply with a session is one to a request
that has signed in to the account of the session, which is there and has its identifier alone. -/
theorem sessions_authentic (hs : s.accounts.Distinct)
    (hrun : Trace (Pool.Step (Answered cfg)) (begin cfg requests s) ls q) :
    q.state.accounts.Distinct ∧
    ∀ i x session, (q.thread i).result = some x → (settle x).session? = some session →
      ∃ row, SessionOf cfg (requests i) (q.seen i) row session ∧
        ∃ user ∈ q.state.accounts.users, Field.identity.Same row user ∧
          ∀ other ∈ q.state.accounts.users, other.identifier = row.identifier → other = user := by
  have hinv : Identified q ∧
      (∀ i, (q.thread i).Ensures (fun _ _ => True) ((requests i).MayWrite cfg.lib)
        (fun _ _ => True) (q.seen i)) ∧
      ∀ i, (q.thread i).Ensures (Answerable cfg) (fun _ _ => True) ((requests i).SignsIn cfg)
        (q.seen i) := by
    refine hrun.inv (I := fun _ q => Identified q ∧
      (∀ i, (q.thread i).Ensures (fun _ _ => True) ((requests i).MayWrite cfg.lib)
        (fun _ _ => True) (q.seen i)) ∧
      ∀ i, (q.thread i).Ensures (Answerable cfg) (fun _ _ => True) ((requests i).SignsIn cfg)
        (q.seen i)) ?_ ?_
    · exact ⟨⟨hs,fun i e he => (by cases he)⟩,fun i => (requests i).ensures_mayWrite cfg,
        fun i => (requests i).ensures_signsIn cfg⟩
    · rintro _ p l q ⟨hp,hwrites,hsigns⟩ hstep
      obtain ⟨hmay,hwrites'⟩ := hstep.ensures hwrites trivial
      obtain ⟨m,hanswer⟩ := hstep.answered
      exact ⟨hp.step hstep hmay,hwrites',(hstep.ensures hsigns ⟨m,_,_,hanswer⟩).2⟩
  obtain ⟨hidentified,-,hsigns⟩ := hinv
  refine ⟨hidentified.distinct,fun i x session hresult hsession => ?_⟩
  obtain ⟨row,hof⟩ := (hsigns i).result hresult session hsession
  obtain ⟨c,hasks,hsigned,hopened⟩ := hof
  obtain ⟨e,he,hrow⟩ := exists_shown_of_signedIn hsigned
  obtain ⟨user,hfound,hsame⟩ := hidentified.known i e he row hrow
  have huser := Auth.MemoryUserStore.mem_of_findByID hfound
  refine ⟨row,⟨c,hasks,hsigned,hopened⟩,user,huser,hsame,fun other hother heq => ?_⟩
  exact hidentified.distinct.identifier_inj hother huser (heq.trans hsame.2.1)

end Run

/-- The admin and the requester log in at the same time. -/
def logins (second : Bool) : Request :=
  .open (.login ⟨background,"",none,some ⟨if second then "requester@ops.local" else "admin@ops.local",
    "ChangeMe123!"⟩⟩)

lemma started_distinct : started.accounts.Distinct :=
  ⟨started_sound,by decide +kernel,by decide +kernel⟩

theorem sessions_authentic_logins : ∃ (q : Requests Bool) (row : User) (session : Session),
    session.principal.userID = "user-requester-001" ∧
    SessionOf sampleConfig (logins true) (q.seen true) row session := by
  let p := begin sampleConfig logins started
  let schedule := [true,false,false,true,true,false]
  obtain ⟨-,hsessions⟩ := sessions_authentic started_distinct (trace_schedule logins schedule)
  have hreply : (((p.play (exec sampleConfig (sampleEnv 0)) schedule).2.thread true).result.bind
      fun x => (settle x).session?).map (·.principal.userID) = some "user-requester-001" := by
    decide +kernel
  obtain ⟨session,hsome,hid⟩ := Option.map_eq_some_iff.mp hreply
  obtain ⟨x,hx,hsession⟩ := Option.bind_eq_some_iff.mp hsome
  obtain ⟨row,hof,_⟩ := hsessions true x session hx hsession
  exact ⟨_,row,session,hid,hof⟩

end OpsPlatform.Server
