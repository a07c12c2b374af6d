import OpsPlatform.Auth.Outcome
import OpsPlatform.Teams.History
import OpsPlatform.Http.Management

/-! Provisioning an account: the account and its place on a team are written by two services, and a
failure between the two writes would lose the only copy of the password. No such failure is left,
because the ids both services give out are names that the other one takes. -/
namespace OpsPlatform.Auth
open OpsPlatform.Go Interaction Program

/-- Every account has an id that can be asked for. -/
def State.Named (s : State) : Prop := ∀ user ∈ s.users.users, ¬ Blank user.id

/-- The operations that keep ids as they are, or give out good ones. -/
def Op.Names : Op → Prop
  | .updateAtomic _ _ => False
  | .seed user => ¬ Blank user.id
  | _ => True

lemma not_blank_userID (n : ℕ) : ¬ Blank (userID n) :=
  not_blank_of_mem (c := 'u') (by simp [userID, sprintf04d]) rfl

section
variable {lib : Lib} {s t : State}

lemma answers_named {op : Op} {r : op.Res} (hop : op.Names) (hs : s.Named)
    (h : Answers lib op s r t) : t.Named := by
  have hconcat {row : User} (hrow : ¬ Blank row.id) : ∀ user ∈ s.users.users ++ [row],
      ¬ Blank user.id := by
    intro user huser
    obtain huser | huser := List.mem_append.mp huser
    · exact hs user huser
    · rwa [List.mem_singleton.mp huser]
  cases h with
  | create user =>
    obtain h | ⟨row,hrow,h⟩ := s.users.create_cases lib user
    · rw [h]
      exact hs
    · rw [h]
      exact hconcat (by rw [hrow]; exact not_blank_userID _)
  | update user =>
    obtain ⟨_,h⟩ | ⟨old,hold,h⟩ := s.users.update_cases user
    · rw [h]
      exact hs
    · rw [h]
      intro row hrow
      obtain rfl | hrow := MemoryUserStore.mem_replace hrow
      · rw [← MemoryUserStore.id_of_findByID hold]
        exact hs old (MemoryUserStore.mem_of_findByID hold)
      · exact hs row hrow
  | seed user =>
    obtain h | ⟨row,hrow,_,h⟩ := s.users.seed_cases lib user
    · change ∀ user ∈ (s.users.seed lib _).users, _
      rw [h]
      exact hs
    · change ∀ user ∈ (s.users.seed lib _).users, _
      rw [h]
      exact hconcat (by rw [hrow]; exact hop)
  | updateAtomic => exact hop.elim
  | _ => exact hs

lemma Op.Quiet.names {op : Op} (h : op.Quiet) : op.Names := by
  cases op <;> trivial

lemma only_generateTempPassword : generateTempPassword.Only Op.Names :=
  (only_drawChars _ _).imp fun _ => Op.Quiet.names

lemma only_requireUser {op : Op} (hop : op.Names) (found : op.Res → Option User) (err : Error) :
    (requireUser op found err).Only Op.Names := by
  refine only_call hop fun r => ?_
  cases found r
  · exact only_fail err
  · exact only_ret _

lemma only_createUser (actingUserID : String) (input : CreateUserInput) :
    (createUser lib actingUserID input).Only Op.Names := by
  refine only_bind (only_failIf _ _) fun _ => only_bind (only_failIf _ _) fun _ => ?_
  refine only_bind (only_call trivial fun _ => only_ret _) fun existing => ?_
  refine only_bind (only_failIf _ _) fun _ => only_bind only_generateTempPassword fun _ => ?_
  refine only_bind (only_call trivial fun _ => only_fromResult _) fun passwordHash => ?_
  exact only_bind (only_call trivial fun _ => only_fromResult _) fun created => only_ret _

lemma only_updateUser (userID : String) (input : UpdateUserInput) :
    (updateUser userID input).Only Op.Names := by
  refine only_bind (only_requireUser (by trivial) _ _) fun user => ?_
  refine only_bind (only_fromResult _) fun patched => ?_
  exact only_call trivial fun _ => only_fromResult _

lemma only_resetPassword (userID : String) : (resetPassword userID).Only Op.Names := by
  refine only_bind (only_requireUser (by trivial) _ _) fun user => ?_
  refine only_bind only_generateTempPassword fun tempPassword => ?_
  refine only_bind (only_call trivial fun _ => only_fromResult _) fun passwordHash => ?_
  exact only_bind (only_call trivial fun _ => only_fromResult _) fun _ => only_ret _

lemma only_seedBootstrapUsers {seeds : List BootstrapSeed} (h : ∀ seed ∈ seeds, ¬ Blank seed.id) :
    (seedBootstrapUsers lib seeds).Only Op.Names := by
  induction seeds with
  | nil => exact only_ret ()
  | cons seed rest ih =>
    obtain ⟨hseed,hrest⟩ := List.forall_mem_cons.mp h
    refine only_bind (only_call trivial fun _ => only_fromResult _) fun passwordHash => ?_
    exact only_bind (only_call hseed fun _ => only_fromResult _) fun _ => ih hrest

/-- The accounts a program starts with. -/
lemma seeded_named {cfg : BootstrapConfig} {clock : Time} {result : Except Error Unit}
    (h : ((Call.seedBootstrapUsers cfg).program lib).Runs (Answers lib) ⟨.new,clock⟩ result s) :
    s.Named := by
  have hids : ∀ seed ∈ bootstrapSeedsFromConfig cfg, ¬ Blank seed.id := by
    simp only [bootstrapSeedsFromConfig, BootstrapIdentity.seed, List.forall_mem_cons,
      List.not_mem_nil, false_imp_iff, implies_true, and_true]
    decide +kernel
  refine h.wp (wp_of_only (only_seedBootstrapUsers hids) (fun _ _ _ _ => answers_named) ?_)
  intro user huser
  cases huser

end
end OpsPlatform.Auth

namespace OpsPlatform.Http.Users
open OpsPlatform.Go Interaction Program
open OpsPlatform.Auth (Role Principal User)

/-- The ids of the accounts and teams are names both services take. -/
structure State.Named (s : State) : Prop where
  users : s.auth.Named
  teams : ∀ team ∈ s.teams.teams.teams, trimSpace team.id = team.id

def Op.Names : Op → Prop
  | .auth op => op.Names
  | .teams _ => True

section Reachable
variable {lib : Auth.Lib} {now : Time} {s t : State}

lemma answers_named {op : Op} {r : op.Res} (hop : op.Names) (hs : s.Named)
    (h : Answers lib now op s r t) : t.Named := by
  cases h with
  | auth h => exact ⟨Auth.answers_named hop hs.users h,hs.teams⟩
  | teams op =>
    refine ⟨hs.users,?_⟩
    cases op with
    | teamCreate ctx team =>
      intro row hrow
      obtain hrow | hrow := List.mem_append.mp hrow
      · exact hs.teams row hrow
      · rw [List.mem_singleton.mp hrow]
        exact trimSpace_sprintf04d (by decide) _
    | _ => exact hs.teams

lemma only_auth {α : Type} {onError : Error → Response} {p : Auth.M α} (hp : p.Only Auth.Op.Names) :
    (auth onError p).Only Op.Names := only_translate hp

lemma names_of_teams {α : Type} {p : H α} (hp : p.Only Op.Teams) : p.Only Op.Names :=
  hp.imp fun op hop => by
    cases op with
    | auth => cases hop
    | teams => trivial

/-- No request gives an account another id. -/
lemma Request.only_names (request : Request) : (request.program lib).Only Op.Names := by
  cases request with
  | createUser r =>
    refine only_bind (only_require _ _ _) fun input => only_bind (only_require _ _ _) fun principal => ?_
    refine only_bind (only_failIf _ _) fun _ => only_bind (names_of_teams (teams_requireTeam _ _)) fun _ => ?_
    refine only_bind (only_auth (Auth.only_createUser _ _)) fun created => ?_
    exact only_bind (names_of_teams (teams_joinTeam _ _ _ _ _)) fun _ => only_ret _
  | updateUser r =>
    refine only_bind (only_require _ _ _) fun input => only_bind (only_require _ _ _) fun principal => ?_
    have hupdate : (do
        let user ← auth userError (Auth.updateUser r.id input)
        return ⟨200,.user user⟩ : H Response).Only Op.Names :=
      only_bind (only_auth (Auth.only_updateUser _ _)) fun _ => only_ret _
    dsimp only
    split_ifs
    · exact hupdate
    · refine only_bind (only_failIf _ _) fun _ => ?_
      exact only_bind (names_of_teams (teams_requireSupervision _ _ _ _)) fun _ => hupdate
  | resetPassword r =>
    refine only_bind (only_require _ _ _) fun principal => ?_
    have hreset : (do
        let tempPassword ← auth userError (Auth.resetPassword r.id)
        return ⟨200,.tempPassword tempPassword⟩ : H Response).Only Op.Names :=
      only_bind (only_auth (Auth.only_resetPassword _)) fun _ => only_ret _
    dsimp only
    split_ifs
    · exact hreset
    · refine only_bind (only_auth (Auth.only_requireUser (by trivial) _ _)) fun target => ?_
      refine only_bind (only_failIf _ _) fun _ => ?_
      exact only_bind (names_of_teams (teams_requireSupervision _ _ _ _)) fun _ => hreset
  | createTeam | addAssignee | addSupervisor | removeSupervisor =>
    exact names_of_teams (only_teams_program trivial)

/-- The run lemma. -/
lemma trace_named {cfg : Auth.BootstrapConfig} {clock : Time} {result : Except Error Unit}
    {start : Auth.State} {xs : List Exchange}
    (hseeds : ((Auth.Call.seedBootstrapUsers cfg).program lib).Runs (Auth.Answers lib)
      ⟨.new,clock⟩ result start) (hrun : Trace (Serves lib) ⟨start,.empty⟩ xs t) : t.Named := by
  refine hrun.inv (I := fun _ t => t.Named) ⟨Auth.seeded_named hseeds,by rintro _ ⟨⟩⟩ ?_
  rintro _ s x t hs ⟨-,-,now,hruns⟩
  exact hruns.wp (wp_of_only x.request.only_names (fun _ _ _ _ => answers_named) hs)

end Reachable

/-- The account has its place on the team the request names. -/
structure State.Placed (s : State) (input : CreateUserInput) (userID : String) : Prop where
  assignee : input.role = .assignee → ∃ teamID, input.teamID = some teamID ∧
    ∃ row ∈ s.teams.active userID, row.teamID = teamID
  supervisor : input.role = .supervisor → ∃ teamID, input.teamID = some teamID ∧
    s.teams.Supervising teamID userID

section Create
variable {lib : Auth.Lib} {now : Time} {s t : State} {ctx : Context} {team : Option String}

/-- The team a request names is a stored one past this check. -/
lemma runs_requireTeam_bind {α : Type} {k : Unit → H α} {x : Except Response α}
    (h : (UsersHandler.requireTeam ctx team >>= k).Runs (Answers lib now) s x t) :
    (∃ e, x = .error e ∧ e.status ≠ 201 ∧ t = s) ∨
    (∀ teamID ∈ team, ¬ Blank teamID ∧ ∃ row, s.teams.teams.getByID teamID = .ok row) ∧
      (k ()).Runs (Answers lib now) s x t := by
  cases team with
  | none => exact .inr ⟨by simp,h⟩
  | some teamID =>
    rw [UsersHandler.requireTeam, bind_assoc] at h
    obtain ⟨known,hexists,hknown⟩ := Teams.run_teamExists now s.teams ctx teamID
    have hrest := runs_teams_bind hexists h
    obtain ⟨_,rfl,rfl⟩ | ⟨hyes,hk⟩ := runs_failIf_bind.mp hrest
    · exact .inl ⟨_,rfl,(by decide : (400 : ℕ) ≠ 201),rfl⟩
    · refine .inr ⟨?_,hk⟩
      rintro _ ⟨⟩
      exact hknown (not_not.mp hyes)

lemma team_of_getByID {id : String} {row : Teams.Team} (h : s.teams.teams.getByID id = .ok row) :
    row ∈ s.teams.teams.teams ∧ row.id = id := by
  unfold Teams.MemoryStore.getByID at h
  split at h
  · rename_i team hfind
    obtain rfl := Except.ok.inj h
    exact ⟨List.mem_of_find?_eq_some hfind,by simpa using List.find?_some hfind⟩
  · cases h

/-- With ids that the services gave out, joining a stored team does not fail. -/
lemma runs_joinTeam_bind {α : Type} {userID actingUserID : String} {role : Role} {k : Unit → H α}
    {x : Except Response α} (hs : ∀ team ∈ s.teams.teams.teams, trimSpace team.id = team.id)
    (huser : ¬ Blank userID) (htrim : trimSpace userID = userID) (hacting : ¬ Blank actingUserID)
    (hteam : ∀ teamID ∈ team, ¬ Blank teamID ∧ ∃ row, s.teams.teams.getByID teamID = .ok row)
    (h : (UsersHandler.joinTeam ctx userID actingUserID team role >>= k).Runs (Answers lib now) s x t) :
    ∃ u, (k ()).Runs (Answers lib now) u x t ∧ u.auth = s.auth ∧ ∀ teamID ∈ team,
      (role = .assignee → ∃ row ∈ u.teams.active userID, row.teamID = teamID) ∧
      (role = .supervisor → u.teams.Supervising teamID userID) := by
  cases team with
  | none => exact ⟨s,h,rfl,by simp⟩
  | some teamID =>
    obtain ⟨hblank,row,hrow⟩ := hteam teamID rfl
    obtain ⟨hmem,hid⟩ := team_of_getByID hrow
    have hname : trimSpace teamID = teamID := by
      rw [← hid]
      exact hs row hmem
    rw [← hname] at hrow
    cases role with
    | assignee =>
      obtain ⟨added,memberships,hadd,hactive⟩ :=
        Teams.run_addAssignee_known now s.teams hblank huser hacting hrow ctx
      rw [hname, htrim] at hactive
      rw [UsersHandler.joinTeam, bind_assoc] at h
      have hrest := runs_teams_bind hadd h
      refine ⟨_,hrest,rfl,?_⟩
      rintro _ ⟨⟩
      exact ⟨fun _ => hactive,fun h => by cases h⟩
    | supervisor =>
      obtain ⟨added,supervisions,hadd,hactive⟩ :=
        Teams.run_addSupervisor_known now s.teams hblank huser hacting hrow ctx
      rw [hname, htrim] at hactive
      rw [UsersHandler.joinTeam, bind_assoc] at h
      have hrest := runs_teams_bind hadd h
      refine ⟨_,hrest,rfl,?_⟩
      rintro _ ⟨⟩
      exact ⟨fun h => (by cases h),fun _ => hactive⟩
    | _ =>
      refine ⟨s,h,rfl,?_⟩
      rintro _ ⟨⟩
      exact ⟨fun h => (by cases h),fun h => by cases h⟩

lemma userError_status (err : Error) : (userError err).status ≠ 201 :=
  errorSwitch_status (by simp) (by decide) (by decide) _ err

/-- The handler ends early and changes nothing, or adds one account and gives it its place. -/
theorem runs_create {r : Req CreateUserInput} {principal : Principal} {x : Except Response Response}
    (hs : s.Named) (hp : r.principal = some principal) (hacting : ¬ Blank principal.userID)
    (h : (UsersHandler.create lib r).Runs (Answers lib now) s x t) :
    (∃ e, x = .error e ∧ e.status ≠ 201 ∧ t.auth.users = s.auth.users ∧ t.teams = s.teams) ∨
    ∃ input row tempPassword, r.body = some input ∧ x = .ok ⟨201,.createdUser row tempPassword⟩ ∧
      t.auth.users.users = s.auth.users.users ++ [row] ∧ row.roles = [input.role] ∧
      t.Placed input row.id := by
  unfold UsersHandler.create at h
  cases hbody : r.body with
  | none =>
    rw [decodeJSON, hbody] at h
    cases h
    exact .inl ⟨_,rfl,by simp,rfl,rfl⟩
  | some input =>
  rw [decodeJSON, hbody, principalFromContext, hp] at h
  obtain ⟨_,rfl,rfl⟩ | ⟨hneeds,h⟩ := runs_failIf_bind.mp h
  · exact .inl ⟨_,rfl,by simp,rfl,rfl⟩
  obtain ⟨e,rfl,he,rfl⟩ | ⟨hteam,h⟩ := runs_requireTeam_bind h
  · exact .inl ⟨e,rfl,he,rfl,rfl⟩
  obtain ⟨⟨user,tempPassword⟩,u,hcall,hrest⟩ | ⟨e,hcall,rfl⟩ := runs_bind.mp h
  all_goals
    obtain ⟨y,hy,hruns,hteams⟩ := runs_auth hcall
    have hspec := hruns.wp ((Auth.wp_createUser_row (C := fun _ _ => True) _ _).mono
      fun _ _ _ _ h => ⟨h,trivial⟩)
    obtain ⟨err,rfl,hsame⟩ | ⟨row,temp,rfl,hstored,⟨n,hid⟩,hroles⟩ := hspec <;> cases hy
  · rw [← hteams] at hteam
    have htrim : trimSpace user.id = user.id := by
      rw [hid]
      exact trimSpace_sprintf04d (by decide) n
    obtain ⟨v,hret,hauth,hplaced⟩ := runs_joinTeam_bind (hteams ▸ hs.teams)
      (by rw [hid]; exact Auth.not_blank_userID n) htrim hacting hteam hrest
    cases hret
    refine .inr ⟨input,user,tempPassword,rfl,rfl,by rw [hauth, hstored],hroles,?_,?_⟩
    · intro hrole
      obtain ⟨teamID,hgiven⟩ := Option.ne_none_iff_exists'.mp fun h => hneeds ⟨.inr hrole,h⟩
      exact ⟨teamID,(Option.filter_eq_some_iff.mp hgiven).1,(hplaced teamID hgiven).1 hrole⟩
    · intro hrole
      obtain ⟨teamID,hgiven⟩ := Option.ne_none_iff_exists'.mp fun h => hneeds ⟨.inl hrole,h⟩
      exact ⟨teamID,(Option.filter_eq_some_iff.mp hgiven).1,(hplaced teamID hgiven).2 hrole⟩
  · exact .inl ⟨_,rfl,userError_status err,hsame,hteams⟩

end Create

/-- The status of the response to a request. -/
def Exchange.status (x : Exchange) : ℕ :=
  match x.response with
  | .ok response | .error response => response.status

/-- A request to create an account, by anyone who has one: it is answered 201 exactly if one account
is added, which then has the role and the place asked for, and otherwise it changes nothing. -/
theorem create_leaves_no_orphan {lib : Auth.Lib} {cfg : Auth.BootstrapConfig} {clock : Time}
    {result : Except Error Unit} {start : Auth.State} {xs : List Exchange} {s t : State} {x : Exchange}
    {r : Req CreateUserInput} {account : User}
    (hseeds : ((Auth.Call.seedBootstrapUsers cfg).program lib).Runs (Auth.Answers lib)
      ⟨.new,clock⟩ result start)
    (hrun : Trace (Serves lib) ⟨start,.empty⟩ xs s) (hx : Serves lib s x t)
    (hrequest : x.request = .createUser r) (haccount : account ∈ s.auth.users.users)
    (hprincipal : r.principal = some (Auth.principalFromUser account)) :
    (x.status = 201 ↔ ∃ row, t.auth.users.users = s.auth.users.users ++ [row]) ∧
    (x.status ≠ 201 → t.auth.users = s.auth.users ∧ t.teams = s.teams) ∧
    (x.status = 201 → ∃ input row tempPassword, r.body = some input ∧
      x.response = .ok ⟨201,.createdUser row tempPassword⟩ ∧
      t.auth.users.users = s.auth.users.users ++ [row] ∧ row.roles = [input.role] ∧
      t.Placed input row.id) := by
  have hs := trace_named hseeds hrun
  obtain ⟨-,-,now,hruns⟩ := hx
  rw [hrequest] at hruns
  obtain ⟨e,hresponse,hstatus,husers,hteams⟩ | ⟨input,row,temp,hbody,hresponse,hstored,hrest⟩ :=
    runs_create hs hprincipal (hs.users account haccount) hruns
  · have hne : x.status ≠ 201 := by rwa [Exchange.status, hresponse]
    refine ⟨iff_of_false hne ?_,fun _ => ⟨husers,hteams⟩,fun h => (hne h).elim⟩
    rintro ⟨row,hadded⟩
    have hlength := congrArg List.length hadded
    rw [husers, List.length_append, List.length_singleton] at hlength
    omega
  · have hok : x.status = 201 := by rw [Exchange.status, hresponse]
    exact ⟨iff_of_true hok ⟨row,hstored⟩,fun h => (h hok).elim,
      fun _ => ⟨input,row,temp,hbody,hresponse,hstored,hrest⟩⟩

/-- The stores after a team was created. -/
def withTeam : State :=
  (serve Auth.sampleLib (Auth.sampleEnv 0)
    (.createTeam ⟨background,"",some adminPrincipal,some "Field crew"⟩) started).after

/-- The admin creates an account for an assignee on it. -/
def provisioning : Req CreateUserInput :=
  ⟨background,"",some adminPrincipal,some ⟨.assignee," Ada@ops.local ","Ada",some "team-0001"⟩⟩

theorem create_leaves_no_orphan_assignee :
    let x := serve Auth.sampleLib (Auth.sampleEnv 0) (.createUser provisioning) withTeam
    x.status = 201 ∧ ∃ row, x.after.auth.users.users = withTeam.auth.users.users ++ [row] ∧
      row.roles = [.assignee] ∧
      ∃ membership ∈ x.after.teams.active row.id, membership.teamID = "team-0001" := by
  intro x
  have hstatus : x.status = 201 := by decide +kernel
  have haccount : ∃ account ∈ withTeam.auth.users.users,
      adminPrincipal = Auth.principalFromUser account := by decide +kernel
  obtain ⟨account,hmem,hprincipal⟩ := haccount
  have hserves (request : Request) (s : State) :
      Serves Auth.sampleLib s (serve Auth.sampleLib (Auth.sampleEnv 0) request s)
        (serve Auth.sampleLib (Auth.sampleEnv 0) request s).after :=
    ⟨rfl,rfl,0,runs_run (answers_exec Auth.sampleLib (Auth.sampleEnv 0)) _ s⟩
  have hseeds := runs_run (Auth.answers_exec Auth.sampleLib (Auth.sampleEnv 0))
    ((Auth.Call.seedBootstrapUsers sampleConfig).program Auth.sampleLib) ⟨.new,0⟩
  obtain ⟨input,row,_,hbody,_,hstored,hroles,hplaced⟩ :=
    (create_leaves_no_orphan hseeds (Trace.one (hserves _ started)) (hserves _ withTeam)
      (r := provisioning) rfl hmem (congrArg some hprincipal)).2.2 hstatus
  cases hbody
  obtain ⟨_,⟨⟩,hactive⟩ := hplaced.assignee rfl
  exact ⟨hstatus,row,hstored,hroles,hactive⟩

end OpsPlatform.Http.Users
