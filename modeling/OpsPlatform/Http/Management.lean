import OpsPlatform.Http.AdminAccounts

/-! User management as calls of the auth service: what a handler leaves of the accounts is what one
call leaves, and team management leaves them alone. -/
namespace OpsPlatform.Http.Users
open OpsPlatform.Go Interaction Program
open OpsPlatform.Auth (Role Principal User UpdateUserInput)

/-- A call of the teams service. -/
def Op.Teams : Op → Prop
  | .teams _ => True
  | .auth _ => False

section Calls
variable {lib : Auth.Lib} {now : Time} {α Input : Type} {s t : State} {x : Except Response α}

lemma only_teams_teams {onError : Error → Response} (p : Teams.M α) :
    (teams onError p).Only Op.Teams := only_translate (only_true p)

lemma only_require {P : Op → Prop} (value : Option α) (status : ℕ) (text : String) :
    (require value status text : H α).Only P := by
  cases value
  · exact only_fail _
  · exact only_ret _

/-- Calls of the teams service leave the accounts. -/
lemma auth_of_teams {p : H α} (hp : p.Only Op.Teams) (h : p.Runs (Answers lib now) s x t) :
    t.auth = s.auth := by
  refine h.wp (wp_of_only (I := fun u : State => u.auth = s.auth) hp ?_ rfl)
  intro op u r v hop hu hanswer
  cases hanswer with
  | auth => cases hop
  | teams => exact hu

lemma teams_requireTeam (ctx : Context) (team : Option String) :
    (UsersHandler.requireTeam ctx team).Only Op.Teams := by
  cases team with
  | none => exact only_ret _
  | some teamID => exact only_bind (only_teams_teams _) fun _ => only_failIf _ _

lemma teams_joinTeam (ctx : Context) (userID actingUserID : String) (team : Option String)
    (role : Role) : (UsersHandler.joinTeam ctx userID actingUserID team role).Only Op.Teams := by
  unfold UsersHandler.joinTeam
  split
  · exact only_bind (only_teams_teams _) fun _ => only_ret _
  · exact only_bind (only_teams_teams _) fun _ => only_ret _
  · exact only_ret _

lemma teams_requireSupervision (ctx : Context) (supervisorUserID targetUserID fallback : String) :
    (UsersHandler.requireSupervision ctx supervisorUserID targetUserID fallback).Only Op.Teams :=
  only_bind (only_bind (only_teams_teams _) fun _ => only_ret _) fun _ => only_failIf _ _

/-- A request to the handlers of teams. -/
def Request.ManagesTeams : Request → Prop
  | .createTeam _ | .addAssignee _ | .addSupervisor _ | .removeSupervisor _ _ => True
  | _ => False

/-- Team management leaves the accounts. -/
lemma only_teams_program {request : Request} (h : request.ManagesTeams) :
    (request.program lib).Only Op.Teams := by
  cases request with
  | createTeam r =>
    exact only_bind (only_require _ _ _) fun _ =>
      only_bind (only_teams_teams _) fun _ => only_ret _
  | addAssignee r | addSupervisor r =>
    exact only_bind (only_require _ _ _) fun _ => only_bind (only_require _ _ _)
      fun _ => only_bind (only_teams_teams _) fun _ => only_ret _
  | removeSupervisor r userID => exact only_bind (only_teams_teams _) fun _ => only_ret _
  | createUser | updateUser | resetPassword => cases h

/-- A call of the auth service that ends a handler. -/
lemma runs_auth_ret {onError : Error → Response} {p : Auth.M α} {reply : α → Response}
    {x : Except Response Response}
    (h : (auth onError p >>= fun a => ret (reply a)).Runs (Answers lib now) s x t) :
    ∃ y, p.Runs (Auth.Answers lib) s.auth y t.auth := by
  obtain ⟨a,u,hcall,hret⟩ | ⟨e,hcall,_⟩ := runs_bind.mp h
  · cases hret
    obtain ⟨y,_,hruns,_⟩ := runs_auth hcall
    exact ⟨y,hruns⟩
  · obtain ⟨y,_,hruns,_⟩ := runs_auth hcall
    exact ⟨y,hruns⟩

lemma runs_create_call {r : Req CreateUserInput} {principal : Principal}
    {x : Except Response Response} (hp : r.principal = some principal)
    (h : (UsersHandler.create lib r).Runs (Answers lib now) s x t) :
    t.auth = s.auth ∨ ∃ input y, r.body = some input ∧
      (Auth.createUser lib principal.userID ⟨input.role,input.identifier,input.displayName⟩).Runs
        (Auth.Answers lib) s.auth y t.auth := by
  unfold UsersHandler.create at h
  obtain ⟨_,rfl⟩ | ⟨input,hbody,h⟩ := runs_require_bind h
  · exact .inl rfl
  obtain ⟨_,rfl⟩ | ⟨principal',hsome,h⟩ := runs_require_bind h
  · exact .inl rfl
  obtain rfl := Option.some.inj (hp.symm.trans hsome)
  obtain ⟨_,_,rfl⟩ | ⟨_,h⟩ := runs_failIf_bind.mp h
  · exact .inl rfl
  obtain ⟨_,u,hteam,h⟩ | ⟨_,hteam,_⟩ := runs_bind.mp h
  · have hu := auth_of_teams (teams_requireTeam _ _) hteam
    refine .inr ⟨input,?_⟩
    obtain ⟨created,v,hcall,hjoin⟩ | ⟨_,hcall,_⟩ := runs_bind.mp h
    · obtain ⟨y,_,hruns,_⟩ := runs_auth hcall
      have ht : t.auth = v.auth :=
        auth_of_teams (only_bind (teams_joinTeam _ _ _ _ _) fun _ => only_ret _) hjoin
      rw [← hu, ht]
      exact ⟨y,hbody,hruns⟩
    · obtain ⟨y,_,hruns,_⟩ := runs_auth hcall
      rw [← hu]
      exact ⟨y,hbody,hruns⟩
  · exact .inl (auth_of_teams (teams_requireTeam _ _) hteam)

/-- What an admin's update leaves: nothing, or the call. -/
lemma runs_update_admin {r : Req UpdateUserInput} {principal : Principal}
    {x : Except Response Response} (hp : r.principal = some principal)
    (hadmin : principal.hasRole .admin = true)
    (h : (UsersHandler.update r).Runs (Answers lib now) s x t) :
    t.auth = s.auth ∨ ∃ input y, r.body = some input ∧
      (Auth.updateUser r.id input).Runs (Auth.Answers lib) s.auth y t.auth := by
  unfold UsersHandler.update at h
  obtain ⟨_,rfl⟩ | ⟨input,hbody,h⟩ := runs_require_bind h
  · exact .inl rfl
  obtain ⟨_,rfl⟩ | ⟨principal',hsome,h⟩ := runs_require_bind h
  · exact .inl rfl
  obtain rfl := Option.some.inj (hp.symm.trans hsome)
  rw [if_pos hadmin] at h
  obtain ⟨y,hruns⟩ := runs_auth_ret h
  exact .inr ⟨input,y,hbody,hruns⟩

lemma runs_resetPassword_admin {r : Req Unit} {principal : Principal}
    {x : Except Response Response} (hp : r.principal = some principal)
    (hadmin : principal.hasRole .admin = true)
    (h : (UsersHandler.resetPassword r).Runs (Answers lib now) s x t) :
    ∃ y, (Auth.resetPassword r.id).Runs (Auth.Answers lib) s.auth y t.auth := by
  unfold UsersHandler.resetPassword at h
  obtain ⟨hnone,_⟩ | ⟨principal',hsome,h⟩ := runs_require_bind h
  · rw [hp] at hnone
    cases hnone
  obtain rfl := Option.some.inj (hp.symm.trans hsome)
  rw [if_pos hadmin] at h
  exact runs_auth_ret h

end Calls
end OpsPlatform.Http.Users
