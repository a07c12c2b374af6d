import OpsPlatform.Auth.Reach
import OpsPlatform.Http.Management
import OpsPlatform.Server.Accounts

/-! What a request may write to the accounts after the answers it has seen. Whatever runs at the same
time, it writes as one call of the auth service writes, and which call that may be depends on who has
been admitted. -/
namespace OpsPlatform.Server
open OpsPlatform.Go OpsPlatform.Http Interaction Program
open OpsPlatform.Auth (Role Principal User principalFromUser)

/-- The request has been admitted as this account. -/
def AdmittedAs (authorizationHeader : String) (gate : Gate) (user : User)
    (seen : List (Event Op.Res)) : Prop :=
  ∃ rawToken read, extractBearerToken authorizationHeader = .ok rawToken ∧
    ⟨.users (.auth (.parse rawToken)),.ok read⟩ ∈ seen ∧
    ⟨.users (.auth (.findByID read.userID)),some user⟩ ∈ seen ∧
    user.isActive = true ∧ gate.Lets (principalFromUser user)

/-- The call of the auth service a request may make, having seen these answers. -/
inductive Sent (seen : List (Event Op.Res)) : Request → Auth.Call → Prop
  | signUp (r : Req Auth.SignUpInput) (input : Auth.SignUpInput) :
      Sent seen (.open (.signUp r)) (.signUp input)
  | google (r : CallbackRequest) (identity : Auth.GoogleIdentity) :
      Sent seen (.open (.googleCallback r)) (.loginWithGoogle identity)
  | forgotPassword (r : Req String) (identifier : String) :
      Sent seen (.open (.forgotPassword r)) (.requestPasswordReset identifier)
  | completeReset (r : Req ResetPasswordRequest) (identifier code newPassword : String) :
      Sent seen (.open (.resetPassword r)) (.completePasswordReset identifier code newPassword)
  | changePassword {authorizationHeader : String} (r : Req ChangePasswordRequest) {user : User}
      (oldPassword newPassword : String) (admitted : AdmittedAs authorizationHeader .session user seen) :
      Sent seen (.guarded authorizationHeader (.changePassword r))
        (.changePassword user.id oldPassword newPassword)
  | verifyEmail {authorizationHeader : String} (r : Req String) {user : User} (code : String)
      (admitted : AdmittedAs authorizationHeader .session user seen) :
      Sent seen (.guarded authorizationHeader (.verifyEmail r)) (.verifyEmail user.id code)
  | createUser {authorizationHeader : String} {r : Req Users.CreateUserInput} {user : User}
      {input : Users.CreateUserInput} (body : r.body = some input)
      (admitted : AdmittedAs authorizationHeader (.of [.admin]) user seen) :
      Sent seen (.guarded authorizationHeader (.manage (.createUser r)))
        (.createUser user.id ⟨input.role,input.identifier,input.displayName⟩)
  | updateUser {authorizationHeader : String} {r : Req Auth.UpdateUserInput} {user : User}
      {input : Auth.UpdateUserInput} (body : r.body = some input)
      (admitted : AdmittedAs authorizationHeader (.of [.admin,.supervisor]) user seen)
      (allowed : user.hasRole .admin = true ∨ input.role = none) :
      Sent seen (.guarded authorizationHeader (.manage (.updateUser r))) (.updateUser r.id input)
  | resetPassword {authorizationHeader : String} {r : Req Unit} {user : User}
      (admitted : AdmittedAs authorizationHeader (.of [.admin,.supervisor]) user seen) :
      Sent seen (.guarded authorizationHeader (.manage (.resetPassword r))) (.resetPassword r.id)

/-- What a request may ask of the account store. -/
def Request.MayWrite (lib : Auth.Lib) (request : Request) (seen : List (Event Op.Res)) (op : Op) :
    Prop :=
  ∀ aop, op = .users (.auth aop) → aop.Quiet ∨
    ∃ c, Sent seen request c ∧ c.Writes lib (seen.filterMap authEvent) aop

section Judgements
variable {lib : Auth.Lib} {α : Type} {seen seen' : List (Event Op.Res)} {request : Request}
  {c : Auth.Call} {R : List (Event Op.Res) → Event Op.Res → Prop} {user : User}
  {authorizationHeader : String} {gate : Gate}

lemma AdmittedAs.mono (hseen : seen <+: seen') (h : AdmittedAs authorizationHeader gate user seen) :
    AdmittedAs authorizationHeader gate user seen' := by
  obtain ⟨rawToken,read,htoken,hparse,hfind,hrest⟩ := h
  exact ⟨rawToken,read,htoken,hseen.subset hparse,hseen.subset hfind,hrest⟩

lemma Sent.mono (hseen : seen <+: seen') (h : Sent seen request c) : Sent seen' request c := by
  cases h with
  | signUp r input => exact .signUp r input
  | google r identity => exact .google r identity
  | forgotPassword r identifier => exact .forgotPassword r identifier
  | completeReset r identifier code newPassword => exact .completeReset r identifier code newPassword
  | changePassword r oldPassword newPassword admitted =>
    exact .changePassword r oldPassword newPassword (admitted.mono hseen)
  | verifyEmail r code admitted => exact .verifyEmail r code (admitted.mono hseen)
  | createUser body admitted => exact .createUser body (admitted.mono hseen)
  | updateUser body admitted allowed => exact .updateUser body (admitted.mono hseen) allowed
  | resetPassword admitted => exact .resetPassword (admitted.mono hseen)

/-- No request seeds accounts. -/
lemma Sent.not_seed (h : Sent seen request c) (boot : Auth.BootstrapConfig) :
    c ≠ .seedBootstrapUsers boot := by
  rintro rfl
  cases h

lemma mayWrite_of_spares {op : Op} (h : op.Spares) : request.MayWrite lib seen op := by
  rintro aop rfl
  exact .inl h

/-- A program that writes no account. -/
lemma ensures_spares {p : H α} (hp : p.Only Op.Spares) :
    p.Ensures R (request.MayWrite lib) (fun _ _ => True) seen :=
  ensures_of_only hp (fun _ hop _ => mayWrite_of_spares hop) seen

/-- A call of the auth service that the request may make. -/
lemma ensures_sent {onError : Error → Response} {p : Auth.M α} (hsent : Sent seen request c)
    (hprogram : c.program lib = (do let _ ← p; return ())) :
    (auth onError p).Ensures R (request.MayWrite lib) (fun _ _ => True) seen := by
  have hwrites : p.Ensures (fun _ _ => True) (c.Writes lib) (fun _ _ => True)
      (seen.filterMap authEvent) := by
    have h : (c.program lib).Ensures (fun _ _ => True) (c.Writes lib) (fun _ _ => True)
        (seen.filterMap authEvent) := c.ensures_writes _
    rw [hprogram, ensures_bind] at h
    exact h.imp (fun _ _ h => h) fun _ _ _ _ => trivial
  rw [auth_eq]
  refine ensures_translate authEvent (fun _ _ => rfl) hwrites (fun _ _ _ _ _ => trivial) ?_
    fun _ _ _ _ => trivial
  rintro seen' op hseen hop aop heq
  cases heq
  exact .inr ⟨c,hsent.mono hseen,hop⟩

lemma ensures_ret_true {reply : α} :
    (ret reply : H α).Ensures R (request.MayWrite lib) (fun _ _ => True) seen :=
  (ensures_ret _).mpr trivial

/-- A call of the auth service that a handler ends with. -/
lemma ensures_sent_ret {onError : Error → Response} {p : Auth.M α} {reply : α → Reply}
    (hsent : Sent seen request c) (hprogram : c.program lib = (do let _ ← p; return ())) :
    (auth onError p >>= fun a => ret (reply a)).Ensures R (request.MayWrite lib) (fun _ _ => True)
      seen :=
  (ensures_sent hsent hprogram).andThen fun _ _ _ _ => ensures_ret_true

/-- What a handler does behind its middlewares it does as the account that was admitted. -/
lemma ensures_admitted {P : List (Event Op.Res) → Op → Prop} {handler : Principal → H Reply}
    (hlooks : ∀ seen op, Looks authorizationHeader seen op → P seen op)
    (hhandler : ∀ user seen, AdmittedAs authorizationHeader gate user seen →
      (handler (principalFromUser user)).Ensures R P (fun _ _ => True) seen) :
    (do
      let principal ← requireAuth authorizationHeader
      gate.check principal
      handler principal : H Reply).Ensures R P (fun _ _ => True) seen := by
  refine (ensures_requireAuth.imp hlooks fun _ _ _ h => h).andThen fun seen' principal _ hrequired => ?_
  obtain ⟨rawToken,read,user,htoken,hparse,hfind,hactive,rfl⟩ := hrequired.2 principal rfl
  refine (ensures_check _).andThen fun seen'' _ _ hchecked => ?_
  obtain ⟨rfl,hlets⟩ := hchecked
  exact hhandler user seen'' ⟨rawToken,read,htoken,hparse,hfind,hactive,hlets⟩

lemma Looks.spares {op : Op} (h : Looks authorizationHeader seen op) : op.Spares := by
  cases h <;> trivial

/-- The routes without `RequireAuth`. -/
lemma ensures_public (cfg : Config) (route : Public) :
    (route.handler cfg).Ensures R ((Request.open route).MayWrite cfg.lib) (fun _ _ => True)
      seen := by
  cases route with
  | health | docs => exact ensures_ret_true
  | login r =>
    refine (ensures_spares (spares_http _)).andThen fun _ request _ _ => ?_
    exact (ensures_spares (only_auth (only_login _ _))).andThen fun _ _ _ _ => ensures_ret_true
  | googleLogin =>
    refine (ensures_call _ _).mpr ⟨mayWrite_of_spares trivial,fun raw _ => ?_⟩
    cases raw <;> exact ensures_ret_true
  | googleCallback r =>
    refine ensures_failIf_andThen fun _ => ensures_failIf_andThen fun _ => ?_
    rw [exchange_bind, ensures_call]
    refine ⟨mayWrite_of_spares trivial,fun info _ => ?_⟩
    cases Except.bind info parseGoogleUserInfo with
    | error err => exact ensures_ret_true
    | ok identity => exact ensures_sent_ret (.google r identity) rfl
  | signUp r =>
    exact (ensures_spares (spares_http _)).andThen fun _ input _ _ =>
      ensures_sent_ret (.signUp r input) rfl
  | forgotPassword r =>
    exact (ensures_spares (spares_http _)).andThen fun _ identifier _ _ =>
      ensures_sent_ret (.forgotPassword r identifier) (bind_ret _).symm
  | resetPassword r =>
    exact (ensures_spares (spares_http _)).andThen fun _ input _ _ =>
      ensures_sent_ret (.completeReset r input.identifier input.code input.newPassword)
        (bind_ret _).symm

lemma users_bind {β : Type} (p : Users.H α) (k : α → Users.H β) :
    users (p >>= k) = users p >>= fun a => users (k a) := translate_bind p k

lemma ensures_users_require {P : List (Event Op.Res) → Op → Prop} {value : Option α} {status : ℕ}
    {text : String} : (users (require value status text)).Ensures R P
      (fun seen' x => seen = seen' ∧ ∀ a, x = .ok a → value = some a) seen := by
  cases value with
  | none => exact (ensures_fail _).mpr ⟨rfl,fun a h => by cases h⟩
  | some a => exact (ensures_ret a).mpr ⟨rfl,fun b h => congrArg some (Except.ok.inj h)⟩

lemma ensures_users_failIf_andThen {P : List (Event Op.Res) → Op → Prop} {c : Prop} [Decidable c]
    {response : Response} {k : Unit → H α}
    (hk : ¬ c → (k ()).Ensures R P (fun _ _ => True) seen) :
    (users (failIf c response) >>= k).Ensures R P (fun _ _ => True) seen := by
  rw [users, translate_failIf]
  exact ensures_failIf_andThen hk

/-- Calls of the teams service write no account. -/
lemma ensures_users_teams {p : Users.H α} (hp : p.Only Users.Op.Teams) :
    (users p).Ensures R (request.MayWrite lib) (fun _ _ => True) seen := by
  refine ensures_spares (only_translate (hp.imp fun op hop => ?_))
  cases op with
  | auth => cases hop
  | teams => trivial

/-- User management of an account that was admitted. -/
lemma ensures_manage {request : Users.Request}
    (hadmitted : AdmittedAs authorizationHeader (.of (manageRoles request)) user seen) :
    (ofResponse <$> users ((manageAs (principalFromUser user) request).program lib)).Ensures R
      ((Request.guarded authorizationHeader (.manage request)).MayWrite lib) (fun _ _ => True)
      seen := by
  have hteams : (manageAs (principalFromUser user) request).ManagesTeams →
      (users ((manageAs (principalFromUser user) request).program lib)).Ensures R
        ((Request.guarded authorizationHeader (.manage request)).MayWrite lib) (fun _ _ => True)
        seen := fun h => ensures_users_teams (Users.only_teams_program h)
  rw [ensures_map]
  cases request with
  | createTeam | addAssignee | addSupervisor | removeSupervisor => exact hteams trivial
  | createUser r =>
    change (users (Users.UsersHandler.create lib _)).Ensures R _ _ seen
    simp only [Users.UsersHandler.create, users_bind]
    refine ensures_users_require.andThen fun _ input _ hdecoded => ?_
    obtain ⟨rfl,hdecoded⟩ := hdecoded
    have hbody : r.body = some input := hdecoded input rfl
    refine ensures_users_require.andThen fun _ principal _ hprincipal => ?_
    obtain ⟨rfl,hprincipal⟩ := hprincipal
    cases hprincipal principal rfl
    refine (ensures_users_teams (only_failIf _ _)).andThen fun _ _ hseen _ => ?_
    refine (ensures_users_teams (Users.teams_requireTeam _ _)).andThen fun _ _ hseen' _ => ?_
    have hsent := Sent.createUser hbody (hadmitted.mono (hseen.trans hseen'))
    refine (ensures_sent hsent rfl).andThen fun _ created _ _ => ?_
    refine (ensures_users_teams (Users.teams_joinTeam _ _ _ _ _)).andThen fun _ _ _ _ => ?_
    exact ensures_ret_true
  | updateUser r =>
    change (users (Users.UsersHandler.update _)).Ensures R _ _ seen
    simp only [Users.UsersHandler.update, users_bind]
    refine ensures_users_require.andThen fun _ input _ hdecoded => ?_
    obtain ⟨rfl,hdecoded⟩ := hdecoded
    have hbody : r.body = some input := hdecoded input rfl
    refine ensures_users_require.andThen fun _ principal _ hprincipal => ?_
    obtain ⟨rfl,hprincipal⟩ := hprincipal
    cases hprincipal principal rfl
    have hrest : ∀ seen', seen <+: seen' → (user.hasRole .admin = true ∨ input.role = none) →
        (do
          let user ← auth Users.userError (Auth.updateUser r.id input)
          users (ret ⟨200,.user user⟩) : H Response).Ensures R ((Request.guarded
            authorizationHeader (.manage (.updateUser r))).MayWrite lib) (fun _ _ => True) seen' := by
      intro seen' hseen hallowed
      have hsent := Sent.updateUser hbody (hadmitted.mono hseen) hallowed
      exact (ensures_sent hsent rfl).andThen fun _ _ _ _ => ensures_ret_true
    split_ifs with hadmin
    · rw [ret_bind, users_bind]
      exact hrest seen List.prefix_rfl (.inl hadmin)
    · simp only [users_bind]
      refine ensures_users_failIf_andThen fun hrole => ?_
      refine (ensures_users_teams (Users.teams_requireSupervision _ _ _ _)).andThen
        fun _ _ hseen _ => ?_
      exact hrest _ hseen (.inr (by simpa using hrole))
  | resetPassword r =>
    change (users (Users.UsersHandler.resetPassword _)).Ensures R _ _ seen
    simp only [Users.UsersHandler.resetPassword, users_bind]
    refine ensures_users_require.andThen fun _ principal _ hprincipal => ?_
    obtain ⟨rfl,hprincipal⟩ := hprincipal
    cases hprincipal principal rfl
    have hrest : ∀ seen', seen <+: seen' →
        (do
          let tempPassword ← auth Users.userError (Auth.resetPassword r.id)
          users (ret ⟨200,.tempPassword tempPassword⟩) : H Response).Ensures R ((Request.guarded
            authorizationHeader (.manage (.resetPassword r))).MayWrite lib) (fun _ _ => True) seen' := by
      intro seen' hseen
      have hsent := Sent.resetPassword (r := r) (hadmitted.mono hseen)
      exact (ensures_sent hsent rfl).andThen fun _ _ _ _ => ensures_ret_true
    split_ifs with hadmin
    · rw [ret_bind, users_bind]
      exact hrest seen List.prefix_rfl
    · simp only [users_bind]
      refine (ensures_spares (only_auth (Auth.only_getUser r.id))).andThen
        fun _ target hseen _ => ?_
      refine ensures_users_failIf_andThen fun _ => ?_
      refine (ensures_users_teams (Users.teams_requireSupervision _ _ _ _)).andThen
        fun _ _ hseen' _ => ?_
      exact hrest _ (hseen.trans hseen')

/-- What every request may write, from its beginning on. -/
lemma Request.ensures_mayWrite (cfg : Config) (request : Request) :
    (request.program cfg).Ensures R (request.MayWrite cfg.lib) (fun _ _ => True) [] := by
  cases request with
  | unknown => exact ensures_ret_true
  | «open» route =>
    rw [program]
    split_ifs
    · exact ensures_public cfg route
    · exact ensures_ret_true
  | guarded authorizationHeader route =>
    rw [program]
    split_ifs
    swap
    · exact ensures_ret_true
    refine ensures_admitted (fun _ _ h => mayWrite_of_spares h.spares) fun user seen hadmitted => ?_
    have hspares : route.Spares → (route.handler cfg (principalFromUser user)).Ensures R
        ((Request.guarded authorizationHeader route).MayWrite cfg.lib) (fun _ _ => True) seen :=
      fun h => ensures_spares (spares_guarded _ h)
    cases route with
    | changePassword r =>
      refine (ensures_spares (spares_http _)).andThen fun _ input hseen _ => ?_
      exact ensures_sent_ret
        (.changePassword r input.oldPassword input.newPassword (hadmitted.mono hseen)) (bind_ret _).symm
    | verifyEmail r =>
      refine (ensures_spares (spares_http _)).andThen fun _ code hseen _ => ?_
      exact ensures_sent_ret (.verifyEmail r code (hadmitted.mono hseen)) (bind_ret _).symm
    | manage request => exact ensures_manage hadmitted
    | _ => exact hspares trivial

end Judgements
end OpsPlatform.Server
