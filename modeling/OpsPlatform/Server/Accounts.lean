import OpsPlatform.Auth.Reach
import OpsPlatform.Http.Management
import OpsPlatform.Server.Sequential

/-! Who may change what in an account. A request changes the accounts by at most one call of the
auth service, and which call that is says who must have sent it. -/
namespace OpsPlatform.Server
open OpsPlatform.Go OpsPlatform.Http Interaction Program
open OpsPlatform.Auth (Role Principal User principalFromUser)

/-- The calls that may change accounts, each with the requests that may make it. -/
inductive Authorizes (cfg : Config) (x : Exchange) : Auth.Call → Prop
  | signUp {r : Req Auth.SignUpInput} {input : Auth.SignUpInput}
      (request : x.request = .open (.signUp r)) (body : r.body = some input) :
      Authorizes cfg x (.signUp input)
  | google {r : CallbackRequest} {identity : Auth.GoogleIdentity}
      (request : x.request = .open (.googleCallback r)) (state : r.cookie = some r.state) :
      Authorizes cfg x (.loginWithGoogle identity)
  | forgotPassword {r : Req String} {identifier : String}
      (request : x.request = .open (.forgotPassword r)) (body : r.body = some identifier) :
      Authorizes cfg x (.requestPasswordReset identifier)
  | completeReset {r : Req ResetPasswordRequest} {input : ResetPasswordRequest}
      (request : x.request = .open (.resetPassword r)) (body : r.body = some input) :
      Authorizes cfg x (.completePasswordReset input.identifier input.code input.newPassword)
  | changePassword {r : Req ChangePasswordRequest} {input : ChangePasswordRequest} {user : User}
      (caller : Caller cfg x (.changePassword r) user) (body : r.body = some input) :
      Authorizes cfg x (.changePassword user.id input.oldPassword input.newPassword)
  | verifyEmail {r : Req String} {code : String} {user : User}
      (caller : Caller cfg x (.verifyEmail r) user) (body : r.body = some code) :
      Authorizes cfg x (.verifyEmail user.id code)
  | createUser {r : Req Users.CreateUserInput} {input : Users.CreateUserInput} {user : User}
      (caller : Caller cfg x (.manage (.createUser r)) user) (body : r.body = some input) :
      Authorizes cfg x (.createUser user.id ⟨input.role,input.identifier,input.displayName⟩)
  | updateUser {r : Req Auth.UpdateUserInput} {input : Auth.UpdateUserInput} {user : User}
      (caller : Caller cfg x (.manage (.updateUser r)) user) (body : r.body = some input)
      (allowed : user.hasRole .admin = true ∨
        input.role = none ∧ x.before.users.MayAct (principalFromUser user) r.id) :
      Authorizes cfg x (.updateUser r.id input)
  | resetPassword {r : Req Unit} {user : User}
      (caller : Caller cfg x (.manage (.resetPassword r)) user)
      (allowed : user.hasRole .admin = true ∨
        x.before.users.MayAct (principalFromUser user) r.id ∧
        ∃ old, x.before.accounts.findByID r.id = some old ∧ old.hasRole .admin = false) :
      Authorizes cfg x (.resetPassword r.id)

/-- An operation that writes no account. -/
def Op.Spares : Op → Prop
  | .users (.auth op) => op.Quiet
  | _ => True

section Spares
variable {cfg : Config} {m : Moment} {s t : State} {α Input : Type}

lemma Op.Spares.accounts {op : Op} {r : op.Res} (hop : op.Spares) (h : Answers cfg m op s r t) :
    t.accounts = s.accounts := by
  cases h with
  | users hmanages =>
    cases hmanages with
    | auth hwithin => exact Auth.users_of_quiet hop hwithin.1
    | teams => rfl
  | _ => rfl

lemma accounts_of_spares {p : H α} {y : Except Reply α} (hp : p.Only Op.Spares)
    (h : p.Runs (Answers cfg m) s y t) : t.accounts = s.accounts :=
  h.wp (wp_of_only (I := fun u : State => u.accounts = s.accounts) hp
    (fun _ _ _ _ hop hu hanswer => (hop.accounts hanswer).trans hu) rfl)

lemma spares_http (p : Http.H α) : (http p).Only Op.Spares :=
  only_translate ((only_true p).imp fun _ _ => trivial)

lemma spares_inbox (p : NotificationHandler.H α) : (inbox p).Only Op.Spares :=
  only_translate ((only_true p).imp fun _ _ => trivial)

lemma spares_teams (onError : Error → Response) (p : Teams.M α) :
    (teams onError p).Only Op.Spares := by
  refine only_translate ((Users.only_teams_teams p).imp fun op hop => ?_)
  cases op with
  | auth => cases hop
  | teams => trivial

/-- The handlers that call the auth service not at all or only to read. -/
def Guarded.Spares : Guarded → Prop
  | .changePassword _ | .verifyEmail _ | .manage _ => False
  | _ => True

lemma spares_guarded (principal : Principal) {route : Guarded} (h : route.Spares) :
    (route.handler cfg principal).Only Op.Spares := by
  cases route with
  | changePassword | verifyEmail | manage => cases h
  | me | accessAdmin | accessAssignee => exact only_ret _
  | listUsers r =>
    refine only_bind (spares_http _) fun principal => ?_
    refine only_bind (only_call trivial fun _ => only_fromResult _) fun all => ?_
    split_ifs
    · exact only_ret _
    · exact only_bind (spares_teams _ _) fun _ => only_ret _
  | listTeams r =>
    refine only_call trivial fun rows => ?_
    cases rows
    · exact only_fail _
    · exact only_ret _
  | work | getWorkItem | statusHistory | assignmentHistory =>
    exact only_bind (spares_http _) fun _ => only_ret _
  | listWorkItems | getAssignment =>
    exact only_bind (spares_http _) fun _ => only_bind (spares_http _) fun _ => only_ret _
  | listAttachments =>
    exact only_bind (spares_http _) fun _ => only_bind (spares_http _) fun _ =>
      only_bind (spares_http _) fun _ => only_ret _
  | listNotifications | markAsRead => exact only_bind (spares_inbox _) fun _ => only_ret _

end Spares

section Calls
variable {cfg : Config} {m : Moment} {s t : State} {x : Exchange} {y : Except Reply Reply}

/-- The accounts are as they were, or as one authorised call leaves them. -/
def Called (cfg : Config) (x : Exchange) (s t : State) : Prop :=
  t.accounts = s.accounts ∨ ∃ c y, Authorizes cfg x c ∧
    (c.program cfg.lib).Runs (Auth.Answers cfg.lib) s.auth y t.auth

/-- The call itself, its outside answers forgotten. -/
lemma called_of_runs {α : Type} {c : Auth.Call} {p : Auth.M α} {z : Except Error α}
    (hc : Authorizes cfg x c)
    (hprogram : c.program cfg.lib = (do let _ ← p; return ()))
    (hruns : p.Runs (Auth.Answers cfg.lib) s.auth z t.auth) : Called cfg x s t := by
  obtain ⟨y,hy⟩ := hruns.discard ()
  exact .inr ⟨c,y,hc,hprogram ▸ hy⟩

lemma within_answers {α : Type} {p : Auth.M α} {z : Except Error α}
    (hruns : p.Runs (Auth.Within cfg.lib (cfg.Within m)) s.auth z t.auth) :
    p.Runs (Auth.Answers cfg.lib) s.auth z t.auth :=
  hruns.mono fun _ _ _ _ h => h.1

/-- A handler whose only call is one of the auth service. -/
lemma called_of_auth {α : Type} {c : Auth.Call} {p : Auth.M α} {onError : Error → Response}
    {reply : α → Reply} (hc : Authorizes cfg x c)
    (hprogram : c.program cfg.lib = (do let _ ← p; return ()))
    (h : (auth onError p >>= fun a => ret (reply a)).Runs (Answers cfg m) s y t) :
    Called cfg x s t := by
  obtain ⟨z,_,hruns,_⟩ := runs_auth_reply h
  exact called_of_runs hc hprogram (within_answers hruns)

lemma called_of_users {p : Users.H Response}
    (h : (ofResponse <$> users p).Runs (Answers cfg m) s y t)
    (hp : ∀ z, p.Runs (Users.Answers cfg.lib m.now) s.users z t.users → Called cfg x s t) :
    Called cfg x s t := by
  obtain ⟨z,hz,_⟩ := runs_map.mp h
  obtain ⟨w,_,hruns,_⟩ := runs_users hz
  refine hp w (hruns.mono fun op u r v hanswer => ?_)
  cases hanswer with
  | auth hwithin => exact .auth hwithin.1
  | teams op => exact .teams op

lemma exchange_bind {β : Type} (code : String) (f : Except Error Auth.GoogleIdentity → H β) :
    (exchange code >>= f) = call (.googleUserInfo code) fun (r : Except Error UserInfo) =>
      f (r.bind parseGoogleUserInfo) := rfl

lemma called_of_eq (h : t = s) : Called cfg x s t := .inl (by rw [h])

/-- The routes without `RequireAuth`. -/
lemma called_open {route : Public} (hrequest : x.request = .open route)
    (h : (route.handler cfg).Runs (Answers cfg m) s y t) : Called cfg x s t := by
  cases route with
  | health | docs =>
    cases h
    exact called_of_eq rfl
  | login r =>
    obtain ⟨_,_,rfl⟩ | ⟨request,_,h⟩ := runs_require_bind h
    · exact called_of_eq rfl
    obtain ⟨_,_,hruns,_⟩ := runs_auth_reply h
    exact .inl (hruns.wp (Auth.wp_quiet (only_login _ _)))
  | googleLogin =>
    cases h with
    | @call _ _ _ _ _ raw _ hanswer hnext =>
      cases hanswer
      cases raw <;> cases hnext <;> exact called_of_eq rfl
  | googleCallback r =>
    obtain ⟨_,_,rfl⟩ | ⟨hstate,h⟩ := runs_failIf_bind.mp h
    · exact called_of_eq rfl
    obtain ⟨_,_,rfl⟩ | ⟨_,h⟩ := runs_failIf_bind.mp h
    · exact called_of_eq rfl
    rw [exchange_bind] at h
    cases h with
    | @call _ _ _ _ _ info _ hanswer hnext =>
      cases hanswer
      beta_reduce at hnext
      cases hidentity : Except.bind info parseGoogleUserInfo with
      | error err =>
        rw [hidentity] at hnext
        cases hnext
        exact called_of_eq rfl
      | ok identity =>
        rw [hidentity] at hnext
        refine called_of_auth (.google hrequest ?_) rfl hnext
        by_contra hne
        exact hstate (.inl hne)
  | signUp r =>
    obtain ⟨_,_,rfl⟩ | ⟨input,hbody,h⟩ := runs_require_bind h
    · exact called_of_eq rfl
    exact called_of_auth (.signUp hrequest hbody) rfl h
  | forgotPassword r =>
    obtain ⟨_,_,rfl⟩ | ⟨identifier,hbody,h⟩ := runs_require_bind h
    · exact called_of_eq rfl
    exact called_of_auth (.forgotPassword hrequest hbody) (bind_ret _).symm h
  | resetPassword r =>
    obtain ⟨_,_,rfl⟩ | ⟨input,hbody,h⟩ := runs_require_bind h
    · exact called_of_eq rfl
    exact called_of_auth (.completeReset hrequest hbody) (bind_ret _).symm h

/-- User management by an account its gate lets through. -/
lemma called_manage {request : Users.Request} {user : User}
    (hcaller : Caller cfg x (.manage request) user) (hbefore : x.before = s)
    (h : (ofResponse <$> users ((manageAs (principalFromUser user) request).program cfg.lib)).Runs
      (Answers cfg m) s y t) : Called cfg x s t := by
  refine called_of_users h fun z hruns => ?_
  have hsame : t.users.auth = s.users.auth → Called cfg x s t := fun hauth => .inl (by
    rw [State.accounts, State.accounts, hauth])
  have hteams : (manageAs (principalFromUser user) request).ManagesTeams → Called cfg x s t :=
    fun h => hsame (Users.auth_of_teams (Users.only_teams_program h) hruns)
  cases request with
  | createUser r =>
    obtain hauth | ⟨input,w,hbody,hcall⟩ := Users.runs_create_call rfl hruns
    · exact hsame hauth
    · exact called_of_runs (.createUser hcaller hbody) rfl hcall
  | updateUser r =>
    cases hadmin : (principalFromUser user).hasRole .admin with
    | true =>
      obtain hauth | ⟨input,w,hbody,hcall⟩ := Users.runs_update_admin rfl hadmin hruns
      · exact hsame hauth
      · exact called_of_runs (.updateUser hcaller hbody (.inl hadmin)) rfl hcall
    | false =>
      obtain ⟨hsameState,_⟩ | ⟨isActive,w,hbody,hmay,hcall,_⟩ := Users.runs_update rfl hadmin hruns
      · exact hsame (by rw [hsameState])
      · refine called_of_runs (.updateUser hcaller hbody (.inr ⟨rfl,?_⟩)) rfl hcall
        rw [hbefore]
        exact hmay
  | resetPassword r =>
    cases hadmin : (principalFromUser user).hasRole .admin with
    | true =>
      obtain ⟨w,hcall⟩ := Users.runs_resetPassword_admin rfl hadmin hruns
      exact called_of_runs (.resetPassword hcaller (.inl hadmin)) rfl hcall
    | false =>
      obtain hsameState | ⟨old,w,hold,hrole,hmay,hcall⟩ :=
        Users.runs_resetPassword rfl hadmin hruns
      · exact hsame (by rw [hsameState])
      · refine called_of_runs (.resetPassword hcaller (.inr ?_)) rfl hcall
        rw [hbefore]
        exact ⟨hmay,old,hold,hrole⟩
  | createTeam | addAssignee | addSupervisor | removeSupervisor =>
    exact hteams trivial

/-- A request changes the accounts by at most one call it is authorised to make. -/
theorem Serves.called (h : Serves cfg s x t) : Called cfg x s t := by
  obtain ⟨hbefore,-,y,hruns,-⟩ := h
  cases hrequest : x.request with
  | unknown =>
    rw [hrequest] at hruns
    cases hruns
    exact called_of_eq rfl
  | «open» route =>
    rw [hrequest, Request.program] at hruns
    split_ifs at hruns
    · exact called_open hrequest hruns
    · cases hruns
      exact called_of_eq rfl
  | guarded authorizationHeader route =>
    rw [hrequest, Request.program] at hruns
    split_ifs at hruns with hmounted
    swap
    · cases hruns
      exact called_of_eq rfl
    obtain ⟨_,rfl,_⟩ | ⟨rawToken,user,htoken,htaken,⟨_,rfl,_⟩ | ⟨hlets,hhandler⟩⟩ :=
      runs_guarded hruns
    · exact called_of_eq rfl
    · exact called_of_eq rfl
    have hcaller := Caller.of_taken hrequest hbefore hmounted htoken htaken hlets
    have hspares : route.Spares → Called cfg x s t :=
      fun h => .inl (accounts_of_spares (spares_guarded _ h) hhandler)
    cases route with
    | changePassword r =>
      obtain ⟨_,_,rfl⟩ | ⟨input,hbody,hhandler⟩ := runs_require_bind hhandler
      · exact called_of_eq rfl
      exact called_of_auth (.changePassword hcaller hbody) (bind_ret _).symm hhandler
    | verifyEmail r =>
      obtain ⟨_,_,rfl⟩ | ⟨code,hbody,hhandler⟩ := runs_require_bind hhandler
      · exact called_of_eq rfl
      exact called_of_auth (.verifyEmail hcaller hbody) (bind_ret _).symm hhandler
    | manage request => exact called_manage hcaller hbefore hhandler
    | _ => exact hspares trivial

end Calls

open Auth (Field CodeKind)

/-- Which requests may change which field of an account. -/
inductive MayChange (cfg : Config) (x : Exchange) (id : String) : Field → Prop
  | update {r : Req Auth.UpdateUserInput} {user : User} {f : Field}
      (caller : Caller cfg x (.manage (.updateUser r)) user) (names : r.id = id)
      (allowed : user.hasRole .admin = true ∧ f ∈ [.isActive,.roles] ∨
        x.before.users.MayAct (principalFromUser user) id ∧ f = .isActive) : MayChange cfg x id f
  | reset {r : Req Unit} {user : User} {f : Field}
      (caller : Caller cfg x (.manage (.resetPassword r)) user) (names : r.id = id)
      (allowed : user.hasRole .admin = true ∨ x.before.users.MayAct (principalFromUser user) id ∧
        ∃ old, x.before.accounts.findByID id = some old ∧ old.hasRole .admin = false)
      (field : f ∈ [.passwordHash,.requiresPasswordChange]) : MayChange cfg x id f
  | own {r : Req ChangePasswordRequest} {user : User} {f : Field}
      (caller : Caller cfg x (.changePassword r) user) (names : user.id = id)
      (field : f ∈ [.passwordHash,.requiresPasswordChange]) : MayChange cfg x id f
  | verify {r : Req String} {user : User} {f : Field}
      (caller : Caller cfg x (.verifyEmail r) user) (names : user.id = id)
      (field : f ∈ [.emailVerified,.verificationCode,.failedOTPAttempts,.otpLockedUntil]) :
      MayChange cfg x id f
  | forgot {r : Req String} {identifier : String} {user : User}
      (request : x.request = .open (.forgotPassword r)) (body : r.body = some identifier)
      (found : x.before.accounts.findByIdentifier cfg.lib identifier = some user)
      (names : user.id = id) : MayChange cfg x id .resetCode
  | code {r : Req ResetPasswordRequest} {input : ResetPasswordRequest} {user : User} {f : Field}
      (request : x.request = .open (.resetPassword r)) (body : r.body = some input)
      (found : x.before.accounts.findByIdentifier cfg.lib input.identifier = some user)
      (names : user.id = id)
      (field : f ∈ [.resetCode,.failedOTPAttempts,.otpLockedUntil] ∨ f = .passwordHash ∧
        ∃ old, x.before.accounts.findByID id = some old ∧
          CodeKind.passwordReset.accepts cfg.lib x.after.auth.clock input.code old = true) :
      MayChange cfg x id f

/-- Which requests may open an account with these roles. -/
inductive MayOpen (cfg : Config) (x : Exchange) : List Role → Prop
  | createUser {r : Req Users.CreateUserInput} {input : Users.CreateUserInput} {user : User}
      (caller : Caller cfg x (.manage (.createUser r)) user) (body : r.body = some input) :
      MayOpen cfg x [input.role]
  | signUp {r : Req Auth.SignUpInput} (request : x.request = .open (.signUp r)) :
      MayOpen cfg x [.requester]
  | google {r : CallbackRequest} (request : x.request = .open (.googleCallback r)) :
      MayOpen cfg x [.requester]

/-- No account is lost, and every difference is one the request may make. -/
structure Accounted (cfg : Config) (x : Exchange) : Prop where
  kept : ∀ id old, x.before.accounts.findByID id = some old →
    ∃ new, x.after.accounts.findByID id = some new ∧ ∀ f : Field, f.Same old new ∨ MayChange cfg x id f
  opened : ∀ id new, x.before.accounts.findByID id = none → x.after.accounts.findByID id = some new →
    MayOpen cfg x new.roles

section Fields
variable {cfg : Config} {s t : State} {xs : List Exchange} {x : Exchange} {c : Auth.Call}
  {id : String} {old new : User}

lemma Authorizes.not_seed (h : Authorizes cfg x c) (boot : Auth.BootstrapConfig) :
    c ≠ .seedBootstrapUsers boot := by
  rintro rfl
  cases h

/-- A password is set by a code only if the code was the right one. -/
lemma accepted_of_changed {identifier code newPassword : String} {s t : Auth.State}
    {y : Except Error Unit} {user : User}
    (hruns : ((Auth.Call.completePasswordReset identifier code newPassword).program cfg.lib).Runs
      (Auth.Answers cfg.lib) s y t)
    (hfound : s.users.findByIdentifier cfg.lib identifier = some user)
    (hold : s.users.findByID user.id = some old) (hnew : t.users.findByID user.id = some new)
    (hne : ¬ Field.passwordHash.Same old new) :
    CodeKind.passwordReset.accepts cfg.lib t.clock code old = true := by
  have htarget : (Auth.Call.completePasswordReset identifier code newPassword).target cfg.lib
      s.users = some user.id := by
    rw [Auth.Call.target, hfound]
    rfl
  have heffect := (Auth.guess_effect rfl hruns).2 user.id htarget
  have hsame : Field.passwordHash.Same old
      (Auth.checkOTP cfg.lib t.clock .passwordReset code old).1 := by
    obtain ⟨_,h⟩ | ⟨_,_,h⟩ | ⟨_,_,h⟩ :=
      Auth.checkOTP_cases cfg.lib t.clock .passwordReset code old <;> rw [h] <;> rfl
  cases hvalid : (Auth.checkOTP cfg.lib t.clock .passwordReset code old).2.valid with
  | true =>
    obtain ⟨_,h⟩ | ⟨_,haccepts,_⟩ | ⟨_,_,h⟩ :=
      Auth.checkOTP_cases cfg.lib t.clock .passwordReset code old
    · rw [h] at hvalid
      cases hvalid
    · exact haccepts
    · rw [h] at hvalid
      cases hvalid
  | false =>
    rw [(heffect.2 old hold hvalid).2] at hnew
    exact (hne (Option.some.inj hnew ▸ hsame)).elim

/-- An update leaves every account as it was, or patches the one it names. -/
lemma apply_of_update {userID : String} {input : Auth.UpdateUserInput} {s t : Auth.State}
    {y : Except Error Unit} (hruns : ((Auth.Call.updateUser userID input).program cfg.lib).Runs
      (Auth.Answers cfg.lib) s y t) (hold : s.users.findByID id = some old)
    (hnew : t.users.findByID id = some new) : new = old ∨ input.apply old = .ok new := by
  obtain ⟨z,hruns⟩ := Runs.of_discard hruns
  obtain ⟨hsame,_⟩ | ⟨was,row,hwas,happly,hwrites⟩ := Auth.updateUser_effect hruns
  · rw [hsame, hold] at hnew
    exact .inl (Option.some.inj hnew).symm
  · rw [hwrites.findByID hwas] at hnew
    split_ifs at hnew with hid
    · rw [hid, hwas] at hold
      cases hold
      cases hnew
      exact .inr happly
    · rw [hold] at hnew
      exact .inl (Option.some.inj hnew).symm

/-- What a patch does to the two fields it is for. -/
lemma fields_of_apply {input : Auth.UpdateUserInput} (h : input.apply old = .ok new) :
    new.isActive = input.isActive.getD old.isActive ∧
      (input.role = none → new.roles = old.roles) := by
  unfold Auth.UpdateUserInput.apply at h
  split_ifs at h
  cases h
  exact ⟨rfl,fun hrole => by simp [hrole]⟩

/-- An update that names no role keeps the roles. -/
lemma roles_of_update {userID : String} {input : Auth.UpdateUserInput} {s t : Auth.State}
    {y : Except Error Unit} (hruns : ((Auth.Call.updateUser userID input).program cfg.lib).Runs
      (Auth.Answers cfg.lib) s y t) (hrole : input.role = none)
    (hold : s.users.findByID id = some old) (hnew : t.users.findByID id = some new) :
    Field.roles.Same old new := by
  obtain rfl | happly := apply_of_update hruns hold hnew
  · exact .refl _ _
  · exact ((fields_of_apply happly).2 hrole).symm

/-- A field that an authorised call has changed is one its request may change. -/
lemma mayChange_of_differs (hc : Authorizes cfg x c) {y : Except Error Unit}
    (hruns : (c.program cfg.lib).Runs (Auth.Answers cfg.lib) x.before.auth y x.after.auth)
    (hid : c.rewrites cfg.lib x.before.accounts = some id)
    (hold : x.before.accounts.findByID id = some old) (hnew : x.after.accounts.findByID id = some new)
    {f : Field} (hf : f ∈ c.responsible) (hne : ¬ f.Same old new) : MayChange cfg x id f := by
  cases hc with
  | signUp | google | createUser => cases hid
  | changePassword caller body => exact .own caller (Option.some.inj hid) hf
  | verifyEmail caller body => exact .verify caller (Option.some.inj hid) hf
  | resetPassword caller allowed =>
    obtain rfl := Option.some.inj hid
    exact .reset caller rfl allowed hf
  | updateUser caller body allowed =>
    obtain rfl := Option.some.inj hid
    obtain hadmin | ⟨hrole,hmay⟩ := allowed
    · exact .update caller rfl (.inl ⟨hadmin,hf⟩)
    · refine .update caller rfl (.inr ⟨hmay,?_⟩)
      obtain rfl | hf := List.mem_cons.mp hf
      · rfl
      · obtain rfl := List.mem_singleton.mp hf
        exact (hne (roles_of_update hruns hrole hold hnew)).elim
  | forgotPassword request body =>
    obtain ⟨user,hfound,rfl⟩ := Option.map_eq_some_iff.mp hid
    obtain rfl := List.mem_singleton.mp hf
    exact .forgot request body hfound rfl
  | completeReset request body =>
    obtain ⟨user,hfound,rfl⟩ := Option.map_eq_some_iff.mp hid
    refine .code request body hfound rfl ?_
    by_cases hpassword : f = .passwordHash
    · subst hpassword
      exact .inr ⟨rfl,old,hold,accepted_of_changed hruns hfound hold hnew hne⟩
    · refine .inl ?_
      simp only [Auth.Call.responsible, List.mem_cons, List.not_mem_nil, or_false] at hf ⊢
      tauto

lemma mayOpen_of_authorizes (hc : Authorizes cfg x c) {roles : List Role}
    (hroles : c.newRoles = some roles) : MayOpen cfg x roles := by
  cases hc with
  | createUser caller body =>
    obtain rfl := Option.some.inj hroles
    exact .createUser caller body
  | signUp request =>
    obtain rfl := Option.some.inj hroles
    exact .signUp request
  | google request =>
    obtain rfl := Option.some.inj hroles
    exact .google request
  | _ => cases hroles

/-- The step lemma. -/
theorem Serves.accounted (h : Serves cfg s x t) (hs : s.accounts.Sound) :
    t.accounts.Sound ∧ Accounted cfg x := by
  have hcalled := h.called
  obtain ⟨rfl,rfl,-⟩ := h
  obtain hsame | ⟨c,y,hc,hruns⟩ := hcalled
  · refine ⟨hsame ▸ hs,⟨fun id old hold => ⟨old,?_,fun f => .inl (.refl f old)⟩,?_⟩⟩
    · rw [hsame, hold]
    · intro id new hnone hnew
      rw [hsame, hnone] at hnew
      cases hnew
  · have hreach := Auth.Call.reaches hc.not_seed hs hruns
    refine ⟨hreach.sound,⟨fun id old hold => ?_,fun id new hnone hnew =>
      mayOpen_of_authorizes hc (hreach.added id new hnone hnew).1⟩⟩
    obtain ⟨new,hnew,hsame,hid⟩ := hreach.kept id old hold
    refine ⟨new,hnew,fun f => ?_⟩
    by_cases hf : f.Same old new
    · exact .inl hf
    refine .inr (mayChange_of_differs hc hruns (hid ?_) hold hnew (not_not.mp (hf ∘ hsame f)) hf)
    rintro rfl
    exact hf (.refl f new)

/-- In every run each request leaves every account in place, and changes in it and opens only what
the request may. -/
theorem account_changes_authorized (hrun : Trace (Serves cfg) s xs t) (hs : s.accounts.Sound) :
    t.accounts.Sound ∧ ∀ x ∈ xs, Accounted cfg x := by
  refine hrun.inv (I := fun xs t => t.accounts.Sound ∧ ∀ x ∈ xs, Accounted cfg x) ⟨hs,by simp⟩ ?_
  rintro ls u x v ⟨hu,hall⟩ hstep
  obtain ⟨hv,hx⟩ := hstep.accounted hu
  refine ⟨hv,fun z hz => ?_⟩
  obtain hz | hz := List.mem_append.mp hz
  · exact hall z hz
  · rw [List.mem_singleton.mp hz]
    exact hx

end Fields

lemma started_sound : started.accounts.Sound :=
  (Auth.Call.rows Auth.MemoryUserStore.new_sound
    (runs_run (Auth.answers_exec Auth.sampleLib (Auth.sampleEnv 0))
      ((Auth.Call.seedBootstrapUsers Http.Users.sampleConfig).program Auth.sampleLib) ⟨.new,0⟩)).1

/-- The admin makes the requester an assignee. -/
def promotion : Env × Request :=
  (sampleEnv 0,.guarded "Bearer user-admin-001"
    (.manage (.updateUser ⟨background,"user-requester-001",none,some ⟨none,some .assignee⟩⟩)))

theorem account_changes_authorized_promotion : ∃ x : Exchange, Accounted sampleConfig x ∧
    (x.before.accounts.findByID "user-requester-001").map (·.roles) = some [.requester] ∧
    (x.after.accounts.findByID "user-requester-001").map (·.roles) = some [.assignee] := by
  obtain ⟨t,hrun⟩ := exists_serveAll [promotion]
  have hserved : serve sampleConfig promotion.1 promotion.2 started ∈
      serveAll sampleConfig started [promotion] := by simp [serveAll, labels]
  refine ⟨_,(account_changes_authorized hrun started_sound).2 _ hserved,?_,?_⟩
  · decide +kernel
  · decide +kernel

end OpsPlatform.Server
