import OpsPlatform.Server.Authentic

/-! The life of a session. It starts with a reply to somebody who has signed in to an active account,
is honoured while the account is active and the token has not expired, and ends with either. -/
namespace OpsPlatform.Server
open OpsPlatform.Go OpsPlatform.Http Interaction Program
open OpsPlatform.Auth (Principal User Session principalFromUser second)

/-- An operation that writes no account, or adds one. -/
def Op.Adds (op : Op) : Prop := op.Spares ∨ ∃ user, op = .users (.auth (.create user))

section Session
variable {cfg : Config} {m : Moment} {s t u v : State} {x : Exchange} {seen : List (Event Op.Res)}
  {request : Request} {c : Auth.Call} {op : Op} {r : op.Res} {user : User} {session : Session}

/-- A request that signs somebody in writes nothing but a new account. -/
lemma adds_of_asks (hasks : request.Asks seen c) {seen' : List (Event Op.Res)}
    (hmay : request.MayWrite cfg.lib seen' op) : op.Adds := by
  by_cases hop : ∃ aop, op = .users (.auth aop)
  swap
  · refine .inl ?_
    cases op with
    | users op =>
      cases op with
      | auth aop => exact (hop ⟨aop,rfl⟩).elim
      | teams => trivial
    | _ => trivial
  obtain ⟨aop,rfl⟩ := hop
  obtain hquiet | ⟨c',hsent,hwrites⟩ := hmay aop rfl
  · exact .inl hquiet
  have hnames : c'.names = none ∧ c'.guess = none ∧ (∀ k, c' ≠ .requestPasswordReset k) ∧
      (∀ k l n, c' ≠ .completePasswordReset k l n) := by
    cases hasks <;> cases hsent <;> simp [Auth.Call.names, Auth.Call.guess]
  cases aop with
  | create user => exact .inr ⟨user,rfl⟩
  | update user =>
    obtain ⟨userID,_,hsome,_⟩ := hwrites.updates
    rw [hnames.1] at hsome
    cases hsome
  | updateAtomic id mutate =>
    cases hwrites.may with
    | check at_ hguess =>
      rw [hnames.2.1] at hguess
      cases hguess
    | storeCode => exact (hnames.2.2.1 _ rfl).elim
    | setPassword => exact (hnames.2.2.2 _ _ _ rfl).elim
  | seed user =>
    obtain ⟨boot,hboot,_⟩ := hwrites.may
    exact (hsent.not_seed boot hboot).elim
  | _ => exact .inl trivial

/-- What the accounts are while such a request runs: the old ones as they were, the new ones under
issued ids, and all it has been shown among them. -/
structure Grows (cfg : Config) (m : Moment) (s : State) (seen : List (Event Op.Res)) (u : State) :
    Prop where
  sound : u.accounts.Sound
  kept : ∀ id old, s.accounts.findByID id = some old → u.accounts.findByID id = some old
  issued : ∀ id, s.accounts.findByID id = none → (u.accounts.findByID id).isSome →
    ∃ n, id = Auth.userID n
  shown : ∀ e ∈ seen, ∀ row, shownRow e = some row → u.accounts.findByID row.id = some row
  within : ∀ e ∈ seen.filterMap authEvent, cfg.Within m e.op e.res

lemma Grows.start (hs : s.accounts.Sound) : Grows cfg m s [] s where
  sound := hs
  kept _ _ h := h
  issued id hnone hsome := by
    rw [hnone] at hsome
    cases hsome
  shown _ he := by cases he
  within _ he := by cases he

/-- The step lemma. -/
lemma Grows.step (h : Grows cfg m s seen u) (hadds : op.Adds) (hanswer : Answers cfg m op u r v) :
    Grows cfg m s (seen ++ [⟨op,r⟩]) v := by
  have hnext : v.accounts.Sound ∧
      (∀ id old, u.accounts.findByID id = some old → v.accounts.findByID id = some old) ∧
      ∀ id, u.accounts.findByID id = none → (v.accounts.findByID id).isSome →
        ∃ n, id = Auth.userID n := by
    obtain hspares | ⟨user,rfl⟩ := hadds
    · rw [hspares.accounts hanswer]
      refine ⟨h.sound,fun _ _ hold => hold,fun id hnone hsome => ?_⟩
      rw [hnone] at hsome
      cases hsome
    · have hauth := (answers_auth hanswer).1
      change v.auth.users.Sound ∧ (∀ id old, _ → v.auth.users.findByID id = some old) ∧
        ∀ id, _ → (v.auth.users.findByID id).isSome → _
      generalize v.auth = t at hauth
      cases hauth
      obtain hstore | ⟨row,hrow,hstore⟩ := u.auth.users.create_cases cfg.lib user
      · rw [hstore]
        refine ⟨h.sound,fun _ _ hold => hold,fun id hnone hsome => ?_⟩
        rw [show u.auth.users.findByID id = none from hnone] at hsome
        cases hsome
      · have hid : row.id = Auth.userID (u.auth.users.seq+1) := by rw [hrow]
        have hfree : u.auth.users.findByID row.id = none := by
          rw [hid]
          exact Auth.MemoryUserStore.findByID_next h.sound
        rw [hstore]
        refine ⟨h.sound.create hid,fun id old hold => ?_,fun id hnone hsome => ?_⟩
        · rw [Auth.MemoryUserStore.findByID_concat hfree, if_neg ?_]
          · exact hold
          · rintro rfl
            rw [State.accounts, hfree] at hold
            cases hold
        · rw [Auth.MemoryUserStore.findByID_concat hfree] at hsome
          split_ifs at hsome with heq
          · exact ⟨_,heq.trans hid⟩
          · rw [show u.auth.users.findByID id = none from hnone] at hsome
            cases hsome
  refine ⟨hnext.1,fun id old hold => hnext.2.1 id old (h.kept id old hold),?_,?_,?_⟩
  · intro id hnone hsome
    cases hfind : u.accounts.findByID id with
    | none => exact hnext.2.2 id hfind hsome
    | some row => exact h.issued id hnone (by rw [hfind]; rfl)
  · intro e he row hrow
    obtain he | he := List.mem_append.mp he
    · exact hnext.2.1 row.id row (h.shown e he row hrow)
    · rw [List.mem_singleton.mp he] at hrow
      exact Auth.MemoryUserStore.findByID_of_mem hnext.1 (mem_of_shownRow hanswer hrow)
  · intro e he
    rw [List.filterMap_append] at he
    obtain he | he := List.mem_append.mp he
    · exact h.within e he
    · obtain ⟨aop,r'⟩ := e
      have hmem : (⟨.users (.auth aop),r'⟩ : Event Op.Res) = ⟨op,r⟩ :=
        List.mem_singleton.mp (mem_authEvent.mp he)
      cases hmem
      exact (answers_auth hanswer).2

/-- How a session begins: the account was there as it is now, or is a new one. -/
structure Begun (cfg : Config) (x : Exchange) (session : Session) (user : User) (issuedAt : Time) :
    Prop where
  isActive : user.isActive = true
  principal : session.principal = principalFromUser user
  began : x.moment.began ≤ issuedAt
  ended : issuedAt ≤ x.moment.ended
  issued : cfg.tokens.issue cfg.jwt.toJWT issuedAt session.principal =
    .ok (session.accessToken,session.expiresAt)
  stored : x.after.accounts.findByID user.id = some user
  known : ∀ old, x.before.accounts.findByID user.id = some old → old = user
  fresh : x.before.accounts.findByID user.id = none → ∃ n, user.id = Auth.userID n

lemma Begun.id_ne {issuedAt : Time} (h : Begun cfg x session user issuedAt) (hbefore : x.before = s)
    (hids : s.accounts.findByID "" = none) : session.principal.userID ≠ "" := by
  rw [h.principal]
  change user.id ≠ ""
  intro hempty
  obtain ⟨n,hn⟩ := h.fresh (by rw [hempty, hbefore]; exact hids)
  rw [hempty] at hn
  have hmem : 'u' ∈ (Auth.userID n).toList := by simp [Auth.userID, sprintf04d]
  rw [← hn] at hmem
  cases hmem

lemma Serves.begun (h : Serves cfg s x t) (hs : s.accounts.Sound)
    (hsession : x.reply.session? = some session) :
    ∃ user issuedAt, Begun cfg x session user issuedAt := by
  obtain ⟨rfl,rfl,y,hruns,hreply⟩ := h
  rw [hreply] at hsession
  obtain ⟨_,-,hsigns⟩ := (x.request.ensures_signsIn cfg).runs (J := fun _ _ => True) hruns trivial
    fun _ _ _ _ _ _ _ hanswer => ⟨⟨_,_,_,hanswer⟩,trivial⟩
  obtain ⟨_,_,hasks,_⟩ := hsigns session hsession
  -- now that the route is known to be one that adds at most an account
  obtain ⟨seen,hgrows,hsigns⟩ := ((x.request.ensures_signsIn cfg).and
    (x.request.ensures_mayWrite cfg)).runs (J := Grows cfg x.moment x.before) hruns (.start hs)
    fun _ _ _ _ _ hmay hgrows hanswer =>
      ⟨⟨_,_,_,hanswer⟩,hgrows.step (adds_of_asks hasks hmay.2) hanswer⟩
  obtain ⟨user,c,_,hsigned,hopened⟩ := hsigns.1 session hsession
  obtain ⟨e,he,hrow⟩ := exists_shown_of_signedIn hsigned
  have hstored := hgrows.shown e he user hrow
  obtain ⟨issuedAt,hbegan,hended,hissued⟩ := hgrows.within _ hopened.issued
  refine ⟨user,issuedAt,hopened.isActive,hopened.principal,hbegan,hended,hissued.symm,hstored,?_,?_⟩
  · intro old hold
    exact Option.some.inj ((hgrows.kept user.id old hold).symm.trans hstored)
  · intro hnone
    exact hgrows.issued user.id hnone (by rw [hstored]; rfl)

/-- A guarded request is turned down for its token, refused by a middleware, or served to its
caller. -/
lemma Serves.caller {authorizationHeader : String} {route : Guarded} (h : Serves cfg s x t)
    (hrequest : x.request = .guarded authorizationHeader route) (hmounted : route.mounted cfg = true) :
    (x.reply.status = 401 ∧ x.after = x.before ∧ ∀ rawToken,
      extractBearerToken authorizationHeader = .ok rawToken →
        Turned cfg x.moment x.before rawToken) ∨
    ∃ rawToken user, extractBearerToken authorizationHeader = .ok rawToken ∧
      Taken cfg x.moment x.before rawToken user ∧
      (x.reply.status = 403 ∧ x.after = x.before ∧ ¬ route.gate.Lets (principalFromUser user) ∨
        Served cfg x route user) := by
  obtain ⟨rfl,rfl,y,hruns,hreply⟩ := h
  rw [hrequest, Request.program, if_pos hmounted] at hruns
  obtain ⟨hstatus,hsame,hturned⟩ | ⟨rawToken,user,htoken,htaken,hcases⟩ := runs_guarded hruns
  · exact .inl ⟨hreply ▸ hstatus,hsame,hturned⟩
  · refine .inr ⟨rawToken,user,htoken,htaken,?_⟩
    obtain ⟨hstatus,hrefused⟩ | ⟨hlets,hhandler⟩ := hcases
    · exact .inl ⟨hreply ▸ hstatus,hrefused⟩
    · exact .inr ⟨.of_taken hrequest rfl hmounted htoken htaken hlets,y,hhandler,hreply⟩

/-- The bearer token of the request is one issued for this account. -/
def Names (cfg : Config) (rawToken id : String) : Prop :=
  ∃ issuedAt principal expiresAt,
    cfg.tokens.issue cfg.jwt.toJWT issuedAt principal = .ok (rawToken,expiresAt) ∧
    principal.userID = id

/-- Whatever token an account is served for, it is one of its own. -/
lemma Taken.id_of_names {rawToken id : String} (h : Taken cfg m s rawToken user)
    (hnames : Names cfg rawToken id) : user.id = id := by
  obtain ⟨read,⟨now,_,_,hread⟩,hfound,_⟩ := h
  obtain ⟨issuedAt,principal,expiresAt,hissued,rfl⟩ := hnames
  cases hparse : cfg.tokens.parse cfg.jwt.toJWTParser now rawToken with
  | error err =>
    rw [hparse] at hread
    cases hread
  | ok found =>
    rw [hparse] at hread
    cases hread
    rw [Auth.MemoryUserStore.id_of_findByID hfound,
      (Auth.JWTManager.carried_of_parse hissued hparse).1]
    rfl

/-- The account is out: its tokens are refused with nothing changed, `RequireAuth` takes nobody for it,
every guarded request is refused or served as another account, and nobody signs in to it. -/
structure LockedOut (cfg : Config) (id : String) (x : Exchange) : Prop where
  refused : ∀ authorizationHeader route rawToken,
    x.request = .guarded authorizationHeader route → route.mounted cfg = true →
    extractBearerToken authorizationHeader = .ok rawToken → Names cfg rawToken id →
    x.reply.status = 401 ∧ x.after = x.before
  noPrincipal : ∀ authorizationHeader principal u,
    (requireAuth authorizationHeader).Runs (Answers cfg x.moment) x.before (.ok principal) u →
    principal.userID ≠ id
  served : ∀ authorizationHeader route,
    x.request = .guarded authorizationHeader route → route.mounted cfg = true →
    x.reply.status ∈ [401,403] ∧ x.after = x.before ∨
      ∃ user, user.id ≠ id ∧ Served cfg x route user
  noSession : ∀ session, x.reply.session? = some session → session.principal.userID ≠ id

variable {id : String} {old : User} {xs : List Exchange}

/-- No token is taken as one of an inactive account. -/
lemma Taken.id_ne {rawToken : String} (h : Taken cfg m s rawToken user)
    (hold : s.accounts.findByID id = some old) (hinactive : old.isActive = false) : user.id ≠ id := by
  obtain ⟨read,_,hfound,hactive⟩ := h
  rintro rfl
  rw [← Auth.MemoryUserStore.id_of_findByID hfound] at hfound
  rw [← Option.some.inj (hold.symm.trans hfound), hinactive] at hactive
  cases hactive

lemma Serves.lockedOut (h : Serves cfg s x t) (hs : s.accounts.Sound)
    (hold : s.accounts.findByID id = some old) (hinactive : old.isActive = false) :
    LockedOut cfg id x := by
  have hbefore : x.before = s := h.before
  rw [← hbefore] at hold
  refine ⟨fun authorizationHeader route rawToken hrequest hmounted htoken hnames => ?_,
    fun authorizationHeader principal u hruns => ?_,
    fun authorizationHeader route hrequest hmounted => ?_,fun session hsession hid => ?_⟩
  · obtain ⟨hstatus,hsame,_⟩ | ⟨rawToken',user,htoken',htaken,_⟩ := h.caller hrequest hmounted
    · exact ⟨hstatus,hsame⟩
    · cases htoken.symm.trans htoken'
      exact (htaken.id_ne hold hinactive (htaken.id_of_names hnames)).elim
  · obtain ⟨_,⟨_,herror,_⟩ | ⟨rawToken,user,_,hok,htaken⟩⟩ := runs_requireAuth hruns
    · cases herror
    · cases hok
      exact htaken.id_ne hold hinactive
  · obtain ⟨hstatus,hsame,_⟩ | ⟨rawToken,user,_,htaken,⟨hstatus,hsame,_⟩ | hserved⟩ :=
      h.caller hrequest hmounted
    · exact .inl ⟨by simp [hstatus],hsame⟩
    · exact .inl ⟨by simp [hstatus],hsame⟩
    · exact .inr ⟨user,htaken.id_ne hold hinactive,hserved⟩
  · obtain ⟨user,issuedAt,hbegun⟩ := h.begun hs hsession
    obtain rfl : user.id = id := by rw [← hid, hbegun.principal]; rfl
    have hactive := hbegun.isActive
    rw [← hbegun.known old hold, hinactive] at hactive
    cases hactive

/-- Somebody who may sets the flag of this account. -/
def Reactivates (cfg : Config) (x : Exchange) (id : String) : Prop :=
  ∃ input : Auth.UpdateUserInput, input.isActive = some true ∧
    Authorizes cfg x (.updateUser id input)

/-- Every other request leaves the account inactive. -/
lemma Serves.still_inactive (h : Serves cfg s x t) (hs : s.accounts.Sound)
    (hold : s.accounts.findByID id = some old) (hinactive : old.isActive = false)
    (hkept : ¬ Reactivates cfg x id) :
    ∃ new, t.accounts.findByID id = some new ∧ new.isActive = false := by
  have hcalled := h.called
  obtain ⟨rfl,rfl,-⟩ := h
  obtain hsame | ⟨c,y,hc,hruns⟩ := hcalled
  · exact ⟨old,by rw [hsame, hold],hinactive⟩
  obtain ⟨new,hnew,hsame,hid⟩ := (Auth.Call.reaches hc.not_seed hs hruns).kept id old hold
  refine ⟨new,hnew,?_⟩
  by_cases hne : new = old
  · rw [hne, hinactive]
  by_cases hflag : Auth.Field.isActive ∈ c.responsible
  swap
  · have hkept : old.isActive = new.isActive := hsame .isActive hflag
    rw [← hkept, hinactive]
  cases hc with
  | @updateUser r input user caller body allowed =>
    obtain rfl := Option.some.inj (hid hne)
    have happly := (apply_of_update hruns hold hnew).resolve_left hne
    rw [(fields_of_apply happly).1]
    cases hbody : input.isActive with
    | none => exact hinactive
    | some flag =>
      cases flag with
      | false => rfl
      | true => exact (hkept ⟨input,hbody,.updateUser caller body allowed⟩).elim
  | _ => simp [Auth.Call.responsible] at hflag

/-- From its deactivation on an account is out, as long as nobody who may sets its flag. -/
theorem deactivated_locked_out (hrun : Trace (Serves cfg) s xs t) (hs : s.accounts.Sound)
    (hold : s.accounts.findByID id = some old) (hinactive : old.isActive = false)
    (hkept : ∀ x ∈ xs, ¬ Reactivates cfg x id) :
    (∀ x ∈ xs, LockedOut cfg id x) ∧
      ∃ new, t.accounts.findByID id = some new ∧ new.isActive = false := by
  have hinv : t.accounts.Sound ∧ ((∀ x ∈ xs, ¬ Reactivates cfg x id) →
      (∀ x ∈ xs, LockedOut cfg id x) ∧
      ∃ new, t.accounts.findByID id = some new ∧ new.isActive = false) := by
    refine hrun.inv (I := fun xs t => t.accounts.Sound ∧
      ((∀ x ∈ xs, ¬ Reactivates cfg x id) → (∀ x ∈ xs, LockedOut cfg id x) ∧
        ∃ new, t.accounts.findByID id = some new ∧ new.isActive = false))
      ⟨hs,fun _ => ⟨by simp,old,hold,hinactive⟩⟩ ?_
    rintro xs u x v ⟨hu,hout⟩ hstep
    refine ⟨(hstep.accounted hu).1,fun hkept => ?_⟩
    rw [List.forall_mem_append, List.forall_mem_singleton] at hkept
    obtain ⟨hall,was,hwas,hinactive⟩ := hout hkept.1
    refine ⟨?_,hstep.still_inactive hu hwas hinactive hkept.2⟩
    rw [List.forall_mem_append, List.forall_mem_singleton]
    exact ⟨hall,hstep.lockedOut hu hwas hinactive⟩
  exact hinv.2 hkept

end Session

/-- The admin deactivates the assignee. -/
def deactivation : Request :=
  .guarded "Bearer user-admin-001"
    (.manage (.updateUser ⟨background,"user-assignee-001",none,some ⟨some false,none⟩⟩))

/-- The server when this is done. -/
def dismissed : State := (serve sampleConfig (sampleEnv 0) deactivation started).after

/-- The admin gives it another role. -/
def demotion : Request :=
  .guarded "Bearer user-admin-001"
    (.manage (.updateUser ⟨background,"user-assignee-001",none,some ⟨none,some .requester⟩⟩))

/-- The assignee asks who it is. -/
def whoAmI : Request := .guarded "Bearer user-assignee-001" (.me ⟨background,"",none,some ()⟩)

/-- Neither is there to set the flag. -/
lemma not_reactivates {x : Exchange} {id : String} (h : x.request ∈ [demotion,whoAmI]) :
    ¬ Reactivates sampleConfig x id := by
  rintro ⟨input,hactive,hauthorized⟩
  cases hauthorized with
  | updateUser caller body =>
    obtain ⟨_,_,_,hrequest,_⟩ := caller.request
    rw [hrequest] at h
    obtain heq | heq := List.mem_pair.mp h
    · cases heq
      cases body
      cases hactive
    · cases heq

theorem deactivated_locked_out_dismissed : ∃ x y : Exchange,
    x.request = demotion ∧ x.reply.status = 200 ∧ LockedOut sampleConfig "user-assignee-001" x ∧
    y.request = whoAmI ∧ y.reply.status = 401 ∧ LockedOut sampleConfig "user-assignee-001" y := by
  obtain ⟨hserved,hnumbered⟩ : Serves sampleConfig started _ dismissed ∧ _ :=
    serves_serve (sampleEnv 0) deactivation (s := started) Notifications.MemoryStore.new_numbered
  let requests := [(sampleEnv 0,demotion),(sampleEnv 0,whoAmI)]
  obtain ⟨t,hrun⟩ : ∃ t, Trace (Serves sampleConfig) dismissed
      (serveAll sampleConfig dismissed requests) t := trace_serveAll hnumbered _
  have hinactive : (dismissed.accounts.findByID "user-assignee-001").map (·.isActive) =
      some false := by decide +kernel
  have hstatus : (serveAll sampleConfig dismissed requests).map (·.reply.status) = [200,401] := by
    decide +kernel
  obtain ⟨old,hold,hflag⟩ := Option.map_eq_some_iff.mp hinactive
  have hkept : ∀ x ∈ serveAll sampleConfig dismissed requests,
      ¬ Reactivates sampleConfig x "user-assignee-001" := by
    intro x hx
    obtain rfl | rfl := List.mem_pair.mp hx <;> exact not_reactivates (by simp [serve])
  obtain ⟨hout,_⟩ := deactivated_locked_out hrun (hserved.accounted started_sound).1 hold hflag hkept
  obtain ⟨hdemoted,hrefused⟩ := List.cons.inj hstatus
  exact ⟨_,_,rfl,hdemoted,hout _ (List.mem_pair.mpr (.inl rfl)),rfl,(List.cons.inj hrefused).1,
    hout _ (List.mem_pair.mpr (.inr rfl))⟩

section Expiry
variable {cfg : Config} {s t u : State} {x : Exchange} {session : Session} {id : String}
  {user old : User} {xs : List Exchange}

/-- Accounts stay. -/
lemma exists_account (hrun : Trace (Serves cfg) s xs t) (hs : s.accounts.Sound)
    (hold : s.accounts.findByID id = some old) :
    t.accounts.Sound ∧ ∃ new, t.accounts.findByID id = some new := by
  refine hrun.inv (I := fun _ t => t.accounts.Sound ∧ ∃ new, t.accounts.findByID id = some new)
    ⟨hs,old,hold⟩ ?_
  rintro _ u x v ⟨hu,was,hwas⟩ hstep
  obtain ⟨hv,haccounted⟩ := hstep.accounted hu
  obtain ⟨new,hnew,_⟩ := haccounted.kept id was (by rw [hstep.before]; exact hwas)
  rw [hstep.after] at hnew
  exact ⟨hv,new,hnew⟩

/-- What comes of a request with a session that has not ended. -/
inductive Honours (cfg : Config) (y : Exchange) (route : Guarded) (user : User) : Prop
  | inactive (flag : user.isActive = false) (status : y.reply.status = 401)
      (same : y.after = y.before) : Honours cfg y route user
  | forbidden (flag : user.isActive = true) (gate : ¬ route.gate.Lets (principalFromUser user))
      (status : y.reply.status = 403) (same : y.after = y.before) : Honours cfg y route user
  | served (served : Served cfg y route user) : Honours cfg y route user

/-- The token of a session, sent back as a bearer token. -/
lemma Begun.token {issuedAt : Time} (h : Begun cfg x session user issuedAt) :
    extractBearerToken ("Bearer " ++ session.accessToken) = .ok session.accessToken := by
  obtain ⟨hsigned,_⟩ := Auth.JWTManager.signed_of_issue h.issued
  obtain ⟨hvisible,hne⟩ := cfg.jwt.visible _ _ _ hsigned
  exact extractBearerToken_bearer hvisible hne

/-- From its expiry on no server takes it. -/
lemma Begun.not_taken {issuedAt : Time} (h : Begun cfg x session user issuedAt) {m : Moment}
    (hlate : session.expiresAt ≤ m.began) : ¬ Taken cfg m u session.accessToken old := by
  rintro ⟨read,⟨now,hbegan,_,hread⟩,_⟩
  obtain ⟨_,hexpires⟩ := Auth.JWTManager.signed_of_issue h.issued
  cases hparse : cfg.tokens.parse cfg.jwt.toJWTParser now session.accessToken with
  | error err =>
    rw [hparse] at hread
    cases hread
  | ok parsed =>
    obtain ⟨_,hwindow⟩ := Auth.JWTManager.carried_of_parse h.issued hparse
    exact absurd ((hexpires ▸ hlate).trans hbegan)
      (not_le.mpr (Auth.JWTManager.honoured_lt hwindow))

/-- Until a second before it every server reads its principal from it. -/
lemma Begun.read {issuedAt : Time} (h : Begun cfg x session user issuedAt)
    (hid : session.principal.userID ≠ "") {m : Moment} (hafter : x.moment.ended ≤ m.began)
    (hearly : m.ended + second ≤ session.expiresAt) :
    ∀ r, cfg.Within m (.parse session.accessToken) r →
      r = .ok (Auth.JWTManager.carried session.principal) := by
  rintro _ ⟨now,hbegan,hended,rfl⟩
  obtain ⟨_,hexpires⟩ := Auth.JWTManager.signed_of_issue h.issued
  have hwindow : cfg.tokens.Honoured cfg.jwt.toJWT issuedAt now :=
    Auth.JWTManager.honoured_of_lt ((h.ended.trans hafter).trans hbegan)
      (hexpires ▸ (Int.add_le_add_right hended second).trans hearly)
  obtain ⟨_,hparse⟩ | ⟨hnot,_⟩ := Auth.JWTManager.parse_issued now h.issued hid
  · rw [hparse]
    rfl
  · exact absurd hwindow hnot

/-- A session lasts as long as the token manager says. A client that sends its token back is turned
down from the expiry on; until a second before it what comes of its request depends on the account
alone. -/
theorem session_lasts {y : Exchange} {route : Guarded} {z : State}
    (hs : s.accounts.Sound) (hids : s.accounts.findByID "" = none) (hx : Serves cfg s x t)
    (hsession : x.reply.session? = some session) (hrun : Trace (Serves cfg) t xs u)
    (hy : Serves cfg u y z)
    (hrequest : y.request = .guarded ("Bearer " ++ session.accessToken) route)
    (hmounted : route.mounted cfg = true) :
    (∃ issuedAt, x.moment.began ≤ issuedAt ∧ issuedAt ≤ x.moment.ended ∧
      session.expiresAt = issuedAt + cfg.tokens.ttl.toInt) ∧
    (session.expiresAt ≤ y.moment.began → y.reply.status = 401 ∧ y.after = y.before) ∧
    (x.moment.ended ≤ y.moment.began → y.moment.ended + second ≤ session.expiresAt →
      ∃ user, y.before.accounts.findByID session.principal.userID = some user ∧
        Honours cfg y route user) := by
  obtain ⟨user,issuedAt,hbegun⟩ := hx.begun hs hsession
  obtain ⟨_,hexpires⟩ := Auth.JWTManager.signed_of_issue hbegun.issued
  have hid : session.principal.userID = user.id := by rw [hbegun.principal]; rfl
  refine ⟨⟨issuedAt,hbegun.began,hbegun.ended,hexpires⟩,fun hlate => ?_,fun hafter hearly => ?_⟩
  · obtain ⟨hstatus,hsame,_⟩ | ⟨rawToken,caller,htoken,htaken,_⟩ := hy.caller hrequest hmounted
    · exact ⟨hstatus,hsame⟩
    · cases hbegun.token.symm.trans htoken
      exact (hbegun.not_taken hlate htaken).elim
  · have hread := hbegun.read (hbegun.id_ne hx.before hids) hafter hearly
    have hstored : t.accounts.findByID user.id = some user := by
      rw [← hx.after]
      exact hbegun.stored
    obtain ⟨_,account,haccount⟩ := exists_account hrun (hx.accounted hs).1 hstored
    rw [← hid, ← hy.before] at haccount
    refine ⟨account,haccount,?_⟩
    obtain ⟨hstatus,hsame,hturned⟩ | ⟨rawToken,caller,htoken,htaken,hcases⟩ :=
      hy.caller hrequest hmounted
    · refine .inactive ?_ hstatus hsame
      obtain ⟨err,herr⟩ | ⟨read,hok,hinactive⟩ := hturned _ hbegun.token
      · cases hread _ herr
      · cases hread _ hok
        exact hinactive account haccount
    · cases hbegun.token.symm.trans htoken
      obtain ⟨read,hok,hfound,hactive⟩ := htaken
      cases hread _ hok
      obtain rfl : account = caller := Option.some.inj (haccount.symm.trans hfound)
      obtain ⟨hstatus,hsame,hgate⟩ | hserved := hcases
      · exact .forbidden hactive hgate hstatus hsame
      · exact .served hserved

end Expiry

def halfHour : Time := (30*Config.minute).toInt

/-- The admin logs in. -/
def adminLogin : Request :=
  .open (.login ⟨background,"",none,some ⟨"admin@ops.local","ChangeMe123!"⟩⟩)

/-- It asks who it is. -/
def adminMe : Request := .guarded "Bearer user-admin-001" (.me ⟨background,"",none,some ()⟩)

theorem session_lasts_login : ∃ (y : Exchange) (route : Guarded) (user : User),
    y.request = adminMe ∧ y.moment.began = halfHour ∧ Served sampleConfig y route user ∧
    y.reply.status = 200 := by
  obtain ⟨hserved,hnumbered⟩ : Serves sampleConfig started _ _ ∧ _ :=
    serves_serve (sampleEnv 0) adminLogin (s := started) Notifications.MemoryStore.new_numbered
  obtain ⟨hlater,-⟩ : Serves sampleConfig _ _ _ ∧ _ :=
    serves_serve (sampleEnv halfHour) adminMe hnumbered
  have hreply : ((serve sampleConfig (sampleEnv 0) adminLogin started).reply.session?).map
      (fun session => (session.accessToken,session.expiresAt)) =
      some ("user-admin-001",halfHour+halfHour) := by decide +kernel
  obtain ⟨session,hsession,hpair⟩ := Option.map_eq_some_iff.mp hreply
  obtain ⟨htoken,hexpires⟩ := Prod.mk.inj hpair
  have hrequest : adminMe = .guarded ("Bearer " ++ session.accessToken)
      (.me ⟨background,"",none,some ()⟩) := by
    rw [htoken]
    rfl
  obtain ⟨-,-,hhonoured⟩ := session_lasts started_sound (by decide +kernel) hserved hsession .nil
    hlater hrequest rfl
  obtain ⟨user,-,hhonours⟩ := hhonoured (by decide) (by rw [hexpires]; decide)
  have hok : (serve sampleConfig (sampleEnv halfHour) adminMe
      (serve sampleConfig (sampleEnv 0) adminLogin started).after).reply.status = 200 := by
    decide +kernel
  cases hhonours with
  | inactive _ hstatus | forbidden _ _ hstatus =>
    rw [hok] at hstatus
    cases hstatus
  | served hserved => exact ⟨_,_,user,rfl,rfl,hserved,hok⟩

end OpsPlatform.Server
