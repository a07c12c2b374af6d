import OpsPlatform.Auth.Sequential
import OpsPlatform.Teams.Scope
import OpsPlatform.Http.Users

/-! Admin accounts under user management. Both handlers that change an account ask whether a
supervisor may act on it; only one of them also asks whether it is an admin's. -/
namespace OpsPlatform.Http.Users
open OpsPlatform.Go Interaction Program
open OpsPlatform.Auth (Role Principal User UpdateUserInput)

/-- Who asks to change an account, and which. -/
def Request.manages : Request → Option (Principal × String)
  | .updateUser r => r.principal.map fun principal => (principal,r.id)
  | .resetPassword r => r.principal.map fun principal => (principal,r.id)
  | _ => none

/-- The account is that of an active member of a team the principal actively supervises. -/
def State.MayAct (s : State) (principal : Principal) (targetID : String) : Prop :=
  ¬ Blank principal.userID ∧ s.teams.Supervises (trimSpace principal.userID) targetID

/-- If any account changes, it is that of a supervised user who is no admin, and it keeps its
roles. -/
def Confined (principal : Principal) (targetID : String) (s t : State) : Prop :=
  t.auth.users ≠ s.auth.users →
    (∀ id ≠ targetID, t.auth.users.findByID id = s.auth.users.findByID id) ∧
    ∃ old new, s.auth.users.findByID targetID = some old ∧
      t.auth.users.findByID targetID = some new ∧ new ≠ old ∧ old.hasRole .admin = false ∧
      s.teams.Supervises (trimSpace principal.userID) targetID ∧ new.roles = old.roles

/-- A supervisor switches the account of an admin on their team on or off. -/
def Request.TogglesAdmin (request : Request) (principal : Principal) (s : State) : Prop :=
  ∃ r isActive old, request = .updateUser r ∧ r.body = some ⟨some isActive,none⟩ ∧
    s.auth.users.findByID r.id = some old ∧ old.hasRole .admin = true ∧ isActive ≠ old.isActive ∧
    s.MayAct principal r.id

lemma state_eq {s t : State} (hauth : t.auth = s.auth) (hteams : t.teams = s.teams) : t = s := by
  cases s; cases t
  simp_all

section Runs
variable {lib : Auth.Lib} {now : Time} {α Input : Type} {s t : State}

lemma runs_auth {onError : Error → Response} {p : Auth.M α} {x : Except Response α}
    (h : (auth onError p).Runs (Answers lib now) s x t) :
    ∃ y, x = y.mapError onError ∧ p.Runs (Auth.Answers lib) s.auth y t.auth ∧
      t.teams = s.teams := by
  refine Runs.of_translate State.auth State.teams ?_ h
  rintro op s r t ⟨h⟩
  exact ⟨h,rfl⟩

lemma runs_teams {onError : Error → Response} {p : Teams.M α} {x : Except Response α}
    (h : (teams onError p).Runs (Answers lib now) s x t) :
    ∃ y, x = y.mapError onError ∧ p.run (Teams.exec now) s.teams = (y,t.teams) ∧
      t.auth = s.auth := by
  have hteams : ∃ y, x = y.mapError onError ∧
      p.Runs (fun op s r t => Teams.exec now op s = (r,t)) s.teams y t.teams ∧ t.auth = s.auth := by
    refine Runs.of_translate State.teams State.auth ?_ h
    rintro op s r t ⟨⟩
    exact ⟨rfl,rfl⟩
  obtain ⟨y,hy,hruns,hrest⟩ := hteams
  exact ⟨y,hy,hruns.eq_run fun _ _ _ _ h => h,hrest⟩

/-- A call of the teams service that does not fail leads on. -/
lemma runs_teams_bind {onError : Error → Response} {p : Teams.M α} {β : Type} {k : α → H β} {a : α}
    {u : Teams.State} {x : Except Response β} (hrun : p.run (Teams.exec now) s.teams = (.ok a,u))
    (h : (teams onError p >>= k).Runs (Answers lib now) s x t) :
    (k a).Runs (Answers lib now) { s with teams := u } x t := by
  obtain ⟨b,mid,hcall,hrest⟩ | ⟨e,hcall,_⟩ := runs_bind.mp h
  · obtain ⟨y,hy,hcall,hauth⟩ := runs_teams hcall
    obtain ⟨rfl,hteams⟩ := Prod.mk.inj (hrun.symm.trans hcall)
    cases hy
    rwa [state_eq (t := mid) (s := { s with teams := u }) hauth hteams.symm] at hrest
  · obtain ⟨y,hy,hcall,_⟩ := runs_teams hcall
    obtain ⟨rfl,_⟩ := Prod.mk.inj (hrun.symm.trans hcall)
    cases hy

lemma runs_require_bind {value : Option α} {status : ℕ} {text : String} {β : Type}
    {k : α → H β} {x : Except Response β}
    (h : (require value status text >>= k).Runs (Answers lib now) s x t) :
    (value = none ∧ t = s) ∨ ∃ a, value = some a ∧ (k a).Runs (Answers lib now) s x t := by
  cases value with
  | none =>
    rw [require, fail_bind] at h
    cases h
    exact .inl ⟨rfl,rfl⟩
  | some a => exact .inr ⟨a,rfl,h⟩

/-- The scope check lets a request through exactly if the principal may act on the account. -/
lemma runs_requireSupervision_bind {ctx : Context} {principal : Principal}
    {targetID fallback : String} {k : Unit → H α} {x : Except Response α}
    (h : (UsersHandler.requireSupervision ctx principal.userID targetID fallback >>= k).Runs
      (Answers lib now) s x t) :
    (¬ s.MayAct principal targetID ∧ t = s) ∨
    (s.MayAct principal targetID ∧ (k ()).Runs (Answers lib now) s x t) := by
  obtain ⟨ids,hlist,hids⟩ :=
    Teams.run_supervisedAssigneeUserIDs s.teams now ctx principal.userID
  have hmay : (ids.any fun id => decide (id = targetID)) = true ↔ s.MayAct principal targetID := by
    rw [State.MayAct, ← hids]
    simp
  simp only [UsersHandler.requireSupervision, UsersHandler.supervisorMayAct, bind_assoc] at h
  have hrest := runs_teams_bind hlist h
  rw [pure_eq, ret_bind, runs_failIf_bind, hmay] at hrest
  obtain ⟨hnot,_,rfl⟩ | ⟨hmay,hk⟩ := hrest
  · exact .inl ⟨hnot,rfl⟩
  · exact .inr ⟨not_not.mp hmay,hk⟩

/-- What an update by someone who is no admin leaves: nothing, or a call of `UpdateUser` that can
only switch the account on or off. -/
lemma runs_update {r : Req UpdateUserInput} {principal : Principal} {x : Except Response Response}
    (hp : r.principal = some principal) (hadmin : principal.hasRole .admin = false)
    (h : (UsersHandler.update r).Runs (Answers lib now) s x t) :
    (t = s ∧ ¬ ∃ isActive, r.body = some ⟨isActive,none⟩ ∧ s.MayAct principal r.id) ∨
    ∃ isActive y, r.body = some ⟨isActive,none⟩ ∧ s.MayAct principal r.id ∧
      (Auth.updateUser r.id ⟨isActive,none⟩).Runs (Auth.Answers lib) s.auth y t.auth ∧
      t.teams = s.teams := by
  unfold UsersHandler.update at h
  obtain ⟨hbody,rfl⟩ | ⟨input,hbody,h⟩ := runs_require_bind h
  · exact .inl ⟨rfl,by simp [hbody]⟩
  obtain ⟨hnone,rfl⟩ | ⟨principal',hsome,h⟩ := runs_require_bind h
  · rw [hp] at hnone
    cases hnone
  obtain rfl := Option.some.inj (hp.symm.trans hsome)
  simp only [hadmin, Bool.false_eq_true, if_false, runs_failIf_bind] at h
  obtain ⟨isActive,role⟩ := input
  obtain ⟨hrole,_,rfl⟩ | ⟨hrole,h⟩ := h
  · refine .inl ⟨rfl,?_⟩
    rintro ⟨_,hbody',_⟩
    rw [hbody] at hbody'
    cases hbody'
    cases hrole
  have hnone : role = none := by simpa using hrole
  subst hnone
  obtain ⟨hnot,rfl⟩ | ⟨hmay,h⟩ := runs_requireSupervision_bind h
  · refine .inl ⟨rfl,?_⟩
    rintro ⟨_,_,hmay⟩
    exact hnot hmay
  · refine .inr ⟨isActive,?_⟩
    obtain ⟨_,u,hcall,hret⟩ | ⟨_,hcall,_⟩ := runs_bind.mp h
    · cases hret
      obtain ⟨y,_,hruns,hteams⟩ := runs_auth hcall
      exact ⟨y,hbody,hmay,hruns,hteams⟩
    · obtain ⟨y,_,hruns,hteams⟩ := runs_auth hcall
      exact ⟨y,hbody,hmay,hruns,hteams⟩

/-- A reset by someone who is no admin reaches `ResetPassword` only past both guards. -/
lemma runs_resetPassword {r : Req Unit} {principal : Principal} {x : Except Response Response}
    (hp : r.principal = some principal) (hadmin : principal.hasRole .admin = false)
    (h : (UsersHandler.resetPassword r).Runs (Answers lib now) s x t) :
    t = s ∨ ∃ old y, s.auth.users.findByID r.id = some old ∧ old.hasRole .admin = false ∧
      s.MayAct principal r.id ∧
      (Auth.resetPassword r.id).Runs (Auth.Answers lib) s.auth y t.auth := by
  unfold UsersHandler.resetPassword at h
  obtain ⟨hnone,rfl⟩ | ⟨principal',hsome,h⟩ := runs_require_bind h
  · rw [hp] at hnone
    cases hnone
  obtain rfl := Option.some.inj (hp.symm.trans hsome)
  simp only [hadmin, Bool.false_eq_true, if_false] at h
  obtain ⟨old,u,hget,hrest⟩ | ⟨_,hget,_⟩ := runs_bind.mp h
  swap
  · obtain ⟨_,_,hruns,hteams⟩ := runs_auth hget
    exact .inl (state_eq (Auth.getUser_effect hruns).1 hteams)
  obtain ⟨y,hy,hruns,hteams⟩ := runs_auth hget
  obtain ⟨hauth,hfound⟩ := Auth.getUser_effect hruns
  obtain rfl := state_eq hauth hteams
  have hold : u.auth.users.findByID r.id = some old := by
    cases y with
    | error e => cases hy
    | ok user =>
      cases hy
      exact hfound old rfl
  obtain ⟨_,_,rfl⟩ | ⟨hrole,hrest⟩ := runs_failIf_bind.mp hrest
  · exact .inl rfl
  obtain ⟨_,rfl⟩ | ⟨hmay,hrest⟩ := runs_requireSupervision_bind hrest
  · exact .inl rfl
  refine .inr ⟨old,?_⟩
  obtain ⟨_,_,hcall,hret⟩ | ⟨_,hcall,_⟩ := runs_bind.mp hrest
  · cases hret
    obtain ⟨y,_,hruns,_⟩ := runs_auth hcall
    exact ⟨y,hold,by simpa using hrole,hmay,hruns⟩
  · obtain ⟨y,_,hruns,_⟩ := runs_auth hcall
    exact ⟨y,hold,by simpa using hrole,hmay,hruns⟩

/-- What writing one row back amounts to. -/
lemma confined_of_writes {principal : Principal} {targetID : String} {old new : User}
    (hold : s.auth.users.findByID targetID = some old)
    (hwrites : Auth.Writes targetID new s.auth t.auth) (hmay : s.MayAct principal targetID)
    (hroles : new.roles = old.roles) (hadmin : new ≠ old → old.hasRole .admin = false) :
    Confined principal targetID s t := by
  intro hchanged
  have hne : new ≠ old := by
    rintro rfl
    exact hchanged (hwrites.same hold)
  refine ⟨fun id hid => ?_,old,new,hold,?_,hne,hadmin hne,hmay.2,hroles⟩
  · rw [hwrites.findByID hold, if_neg hid]
  · rw [hwrites.findByID hold, if_pos rfl]

theorem confined_update {r : Req UpdateUserInput} {principal : Principal}
    {x : Except Response Response} (hp : r.principal = some principal)
    (hadmin : principal.hasRole .admin = false)
    (h : (UsersHandler.update r).Runs (Answers lib now) s x t) :
    Confined principal r.id s t ↔ ¬ (Request.updateUser r).TogglesAdmin principal s := by
  obtain ⟨rfl,hnot⟩ | ⟨isActive,y,hbody,hmay,hruns,_⟩ := runs_update hp hadmin h
  · refine iff_of_true (fun hchanged => (hchanged rfl).elim) ?_
    rintro ⟨_,isActive,_,⟨⟩,hbody,_,_,_,hmay⟩
    exact hnot ⟨some isActive,hbody,hmay⟩
  obtain ⟨hsame,hrefused⟩ | ⟨old,new,hold,happly,hwrites⟩ := Auth.updateUser_effect hruns
  · refine iff_of_true (fun hchanged => (hchanged hsame).elim) ?_
    rintro ⟨_,_,old,⟨⟩,_,hold,_⟩
    obtain ⟨err,herr⟩ := hrefused old hold
    cases herr
  · cases happly
    constructor
    · rintro hconfined ⟨_,b,old',⟨⟩,hbody',hold',hrole,hb,_⟩
      rw [hbody] at hbody'
      cases hbody'
      obtain rfl := Option.some.inj (hold.symm.trans hold')
      have hchanged : t.auth.users ≠ s.auth.users := by
        intro hsame
        have hnew := hwrites.findByID hold r.id
        rw [hsame, hold, if_pos rfl] at hnew
        exact hb (congrArg User.isActive (Option.some.inj hnew)).symm
      obtain ⟨_,old',_,hold',_,_,hnot,_⟩ := hconfined hchanged
      obtain rfl := Option.some.inj (hold.symm.trans hold')
      rw [hrole] at hnot
      cases hnot
    · intro hno
      refine confined_of_writes hold hwrites hmay rfl fun hne => ?_
      by_contra hrole
      cases isActive with
      | none => exact hne rfl
      | some b =>
        refine hno ⟨r,b,old,rfl,hbody,hold,by simpa using hrole,?_,hmay⟩
        rintro rfl
        exact hne rfl

theorem confined_resetPassword {r : Req Unit} {principal : Principal}
    {x : Except Response Response} (hp : r.principal = some principal)
    (hadmin : principal.hasRole .admin = false)
    (h : (UsersHandler.resetPassword r).Runs (Answers lib now) s x t) :
    Confined principal r.id s t := by
  obtain rfl | ⟨old,y,hold,hrole,hmay,hruns⟩ := runs_resetPassword hp hadmin h
  · exact fun hchanged => (hchanged rfl).elim
  obtain hsame | ⟨old',passwordHash,hold',hwrites⟩ := hruns.wp (Auth.wp_resetPassword r.id)
  · exact fun hchanged => (hchanged hsame).elim
  · obtain rfl := Option.some.inj (hold.symm.trans hold')
    exact confined_of_writes hold hwrites hmay rfl fun _ => hrole

end Runs

/-- A request of someone who is no admin is confined to the accounts of supervised users, admins
excepted, exactly if it does not switch an admin's account on or off. -/
theorem nonadmin_confined_iff {lib : Auth.Lib} {s t : State} {xs : List Exchange} {x : Exchange}
    {principal : Principal} {targetID : String} (hrun : Trace (Serves lib) s xs t) (hx : x ∈ xs)
    (hmanages : x.request.manages = some (principal,targetID))
    (hadmin : principal.hasRole .admin = false) :
    Confined principal targetID x.before x.after ↔
      ¬ x.request.TogglesAdmin principal x.before := by
  have hserves : ∀ x ∈ xs, ∃ s t, Serves lib s x t := hrun.forall_label fun s x t h => ⟨s,t,h⟩
  obtain ⟨_,_,rfl,rfl,now,hruns⟩ := hserves x hx
  obtain ⟨request,s,response,t⟩ := x
  cases request with
  | updateUser r =>
    obtain ⟨p,hp,heq⟩ := Option.map_eq_some_iff.mp hmanages
    cases heq
    exact confined_update hp hadmin hruns
  | resetPassword r =>
    obtain ⟨p,hp,heq⟩ := Option.map_eq_some_iff.mp hmanages
    cases heq
    refine iff_of_true (confined_resetPassword hp hadmin hruns) ?_
    rintro ⟨_,_,_,⟨⟩,_⟩
  | _ => cases hmanages

def sampleConfig : Auth.BootstrapConfig where
  admin := ⟨"admin@ops.local","Platform Admin","ChangeMe123!"⟩
  assignee := ⟨"assignee@ops.local","Assignee","ChangeMe123!"⟩
  supervisor := ⟨"supervisor@ops.local","Supervisor","ChangeMe123!"⟩
  requester := ⟨"requester@ops.local","Requester","ChangeMe123!"⟩

/-- The stores of a program that has just started. -/
def started : State :=
  ⟨(((Auth.Call.seedBootstrapUsers sampleConfig).program Auth.sampleLib).run
    (Auth.exec Auth.sampleLib (Auth.sampleEnv 0)) ⟨.new,0⟩).2,.empty⟩

def adminPrincipal : Principal :=
  ⟨"user-admin-001","admin@ops.local","Platform Admin",[.admin],false,true⟩

def supervisorPrincipal : Principal :=
  ⟨"user-supervisor-001","supervisor@ops.local","Supervisor",[.supervisor],false,true⟩

/-- The assignee joins a team that the supervisor supervises. -/
def formTeam : List (Auth.Env × Request) :=
  [(Auth.sampleEnv 0,.createTeam ⟨background,"",some adminPrincipal,some "Field crew"⟩),
    (Auth.sampleEnv 0,
      .addAssignee ⟨background,"team-0001",some adminPrincipal,some "user-assignee-001"⟩),
    (Auth.sampleEnv 0,
      .addSupervisor ⟨background,"team-0001",some adminPrincipal,some "user-supervisor-001"⟩)]

/-- The supervisor deactivates the assignee. -/
def deactivation : Auth.Env × Request :=
  (Auth.sampleEnv 0,
    .updateUser ⟨background,"user-assignee-001",some supervisorPrincipal,some ⟨some false,none⟩⟩)

/-- The deactivation as it was served, by the roles of the assignee at that time. -/
lemma deactivation_served (requests : List (Auth.Env × Request)) (i : ℕ) (roles : List Role)
    (hrequest : requests[i]? = some deactivation)
    (hrows : ((serveAll Auth.sampleLib started requests)[i]?.map fun x =>
      ((x.before.auth.users.findByID "user-assignee-001").map fun old => (old.roles,old.isActive),
        (x.after.auth.users.findByID "user-assignee-001").map fun new => (new.roles,new.isActive))) =
      some (some (roles,true),some (roles,false))) :
    ∃ x ∈ serveAll Auth.sampleLib started requests, x.request = deactivation.2 ∧
      x.after.auth.users ≠ x.before.auth.users ∧
      ∀ old, x.before.auth.users.findByID "user-assignee-001" = some old → old.roles = roles := by
  obtain ⟨x,hx,hrows⟩ := Option.map_eq_some_iff.mp hrows
  obtain ⟨hbefore,hafter⟩ := Prod.mk.inj hrows
  refine ⟨x,List.mem_of_getElem? hx,?_,fun hsame => ?_,fun old hold => ?_⟩
  · obtain ⟨r,s,hr,rfl⟩ := request_of_label hx
    rw [hrequest] at hr
    rw [Option.some.inj hr]
    rfl
  · rw [hsame, hbefore] at hafter
    cases hafter
  · rw [hold, Option.map_some, Option.some.injEq, Prod.mk.injEq] at hbefore
    exact hbefore.1

theorem nonadmin_confined_iff_deactivation : ∃ s t : State,
    t.auth.users ≠ s.auth.users ∧ Confined supervisorPrincipal "user-assignee-001" s t := by
  obtain ⟨t,hrun⟩ := trace_serveAll Auth.sampleLib started (formTeam ++ [deactivation])
  obtain ⟨x,hx,hrequest,hchanged,hroles⟩ :=
    deactivation_served (formTeam ++ [deactivation]) 3 [.assignee] rfl (by decide +kernel)
  refine ⟨x.before,x.after,hchanged,(nonadmin_confined_iff hrun hx (by rw [hrequest]; rfl) rfl).mpr ?_⟩
  rw [hrequest]
  rintro ⟨_,_,old,⟨⟩,_,hold,hrole,_⟩
  rw [User.hasRole, hroles old hold] at hrole
  cases hrole

/-- An admin makes the assignee an admin before the deactivation. -/
theorem admin_deactivated :
    ¬ ∀ (lib : Auth.Lib) (cfg : Auth.BootstrapConfig) (result : Except Error Unit) (s : Auth.State)
      (xs : List Exchange) (t : State),
      ((Auth.Call.seedBootstrapUsers cfg).program lib).Runs (Auth.Answers lib) ⟨.new,0⟩ result s →
      Trace (Serves lib) ⟨s,.empty⟩ xs t → ∀ x ∈ xs, ∀ principal targetID,
      x.request.manages = some (principal,targetID) → principal.hasRole .admin = false →
      Confined principal targetID x.before x.after := by
  intro h
  let promotion : Auth.Env × Request := (Auth.sampleEnv 0,
    .updateUser ⟨background,"user-assignee-001",some adminPrincipal,some ⟨none,some .admin⟩⟩)
  obtain ⟨t,hrun⟩ :=
    trace_serveAll Auth.sampleLib started (formTeam ++ [promotion,deactivation])
  obtain ⟨x,hx,hrequest,hchanged,hroles⟩ :=
    deactivation_served (formTeam ++ [promotion,deactivation]) 4 [.admin] rfl (by decide +kernel)
  have hseeds := runs_run (Auth.answers_exec Auth.sampleLib (Auth.sampleEnv 0))
    ((Auth.Call.seedBootstrapUsers sampleConfig).program Auth.sampleLib) ⟨.new,0⟩
  obtain ⟨_,old,_,hold,_,_,hrole,_⟩ := h Auth.sampleLib sampleConfig _ _ _ t hseeds hrun x hx
    supervisorPrincipal "user-assignee-001" (by rw [hrequest]; rfl) rfl hchanged
  rw [User.hasRole, hroles old hold] at hrole
  cases hrole

end OpsPlatform.Http.Users
