import OpsPlatform.Teams.History

/-! The team authority over sequential runs: its two questions agree, and a supervisor who is
removed has no say any more, while nobody else notices. -/
namespace OpsPlatform.Teams
open OpsPlatform.Go Interaction Program

section Collect
variable (st : State) (now : Time) (ctx : Context)

lemma nodup_addMember {acc : List String × (String → Bool)} (h : Remembers acc)
    (hnodup : acc.1.Nodup) (member : Membership) : (addMember acc member).1.Nodup := by
  unfold addMember
  split_ifs with hseen
  · exact hnodup
  · rw [List.nodup_append]
    refine ⟨hnodup,List.nodup_singleton _,?_⟩
    rintro a ha b hb rfl
    rw [List.mem_singleton] at hb
    subst hb
    exact hseen ((h _).mpr ha)

lemma nodup_foldl {acc : List String × (String → Bool)} (h : Remembers acc)
    (hnodup : acc.1.Nodup) (members : List Membership) : (members.foldl addMember acc).1.Nodup := by
  induction members generalizing acc with
  | nil => exact hnodup
  | cons member members ih => exact ih (h.addMember member).1 (nodup_addMember h hnodup member)

/-- The outer loop never collects an id twice, however many rows lead to it. -/
lemma nodup_collectMembers (supervisions : List Supervision)
    {acc : List String × (String → Bool)} (h : Remembers acc) (hnodup : acc.1.Nodup)
    {ids : List String} {st' : State}
    (hrun : (collectMembers ctx supervisions acc).run (exec now) st = (.ok ids,st')) : ids.Nodup := by
  induction supervisions generalizing acc with
  | nil =>
    rw [collectMembers, run_ret] at hrun
    cases hrun
    exact hnodup
  | cons supervision rest ih =>
    simp only [collectMembers, call_bind, run_call, exec,
      MemoryMembershipStore.listActiveByTeamID, fromResult_ok, ret_bind] at hrun
    exact ih (h.foldl _).1 (nodup_foldl h hnodup _) hrun

theorem nodup_supervisedAssigneeUserIDs {supervisorUserID : String} {ids : List String} {st' : State}
    (hrun : (supervisedAssigneeUserIDs ctx supervisorUserID).run (exec now) st = (.ok ids,st')) :
    ids.Nodup := by
  simp only [supervisedAssigneeUserIDs] at hrun
  split_ifs at hrun
  · rw [pure_eq, run_ret] at hrun
    cases hrun
    exact List.nodup_nil
  · simp only [call_bind, run_call, exec, MemorySupervisionStore.listActiveByUserID, fromResult_ok,
      ret_bind] at hrun
    exact nodup_collectMembers st now ctx _ (fun a => by simp) List.nodup_nil hrun

end Collect

/-- The members of the teams have names. -/
def State.Named (s : State) : Prop := ∀ row ∈ s.memberships.entries, ¬ Blank row.userID

lemma not_blank_of_addAssignee {now : Time} {s t : State} {teamID userID addedByUserID : String}
    (h : ((Call.addAssignee teamID userID addedByUserID).program background).run (exec now) s =
      (.ok (),t)) : ¬ Blank userID := by
  intro hblank
  rw [Call.program, addAssignee, Program.bind_assoc, run_failIf_bind,
    if_pos (.inr (.inl hblank))] at h
  cases h

lemma Serves.named {s t : State} {x : Exchange} (h : Serves s x t) (hnamed : s.Named) : t.Named := by
  have hrows := h.outcome
  have hruns := h.runs
  generalize x.call = c at hrows hruns
  generalize x.result = result at hrows hruns
  cases hrows with
  | failed | created | supervised | released | stayed => exact hnamed
  | joined row memberships _ _ _ huser _ hstored =>
    have hname := not_blank_of_addAssignee hruns
    rw [← blank_trimSpace, ← huser] at hname
    rw [State.Named, hstored, List.forall_mem_append, List.forall_mem_singleton]
    exact ⟨hnamed,hname⟩
  | moved old row memberships _ _ _ huser _ hstored =>
    have hname := not_blank_of_addAssignee hruns
    rw [← blank_trimSpace, ← huser] at hname
    rw [State.Named, hstored, List.forall_mem_append, List.forall_mem_singleton, List.forall_mem_map]
    refine ⟨fun e he => ?_,hname⟩
    split_ifs with hold
    · exact hold ▸ hnamed e he
    · exact hnamed e he

lemma trace_named {xs : List Exchange} {t : State} (h : Trace Serves .empty xs t) : t.Named := by
  refine h.inv (I := fun _ t => t.Named) ?_ fun _ _ _ _ hnamed hx => hx.named hnamed
  intro m hm
  cases hm

/-- The two questions agree, and the list has no duplicates. -/
theorem supervision_queries_agree {xs : List Exchange} {t : State} (h : Trace Serves .empty xs t)
    (now : Time) (ctx : Context) (s a : String) :
    ∃ answer ids, (isActiveSupervisorOf ctx s a).run (exec now) t = (.ok answer,t) ∧
      (supervisedAssigneeUserIDs ctx s).run (exec now) t = (.ok ids,t) ∧
      (answer = true ↔ trimSpace a ∈ ids) ∧ ids.Nodup := by
  obtain ⟨answer,hanswer,htrue⟩ := run_isActiveSupervisorOf t now ctx (trace_single h) s a
  obtain ⟨ids,hids,hmem⟩ := run_supervisedAssigneeUserIDs t now ctx s
  refine ⟨answer,ids,hanswer,hids,?_,nodup_supervisedAssigneeUserIDs t now ctx hids⟩
  rw [htrue, hmem]
  refine ⟨fun ⟨hs,_,hsupervises⟩ => ⟨hs,hsupervises⟩,fun ⟨hs,hsupervises⟩ => ⟨hs,?_,hsupervises⟩⟩
  obtain ⟨row,hrow,_,huser,_⟩ := hsupervises
  have hname := trace_named h row hrow
  rwa [huser, blank_trimSpace] at hname

/-- Two teams under one supervisor, who was added to the first of them twice. -/
def sampleStaff : List (Call × Time) :=
  [(.createTeam "North",1),(.createTeam "South",2),(.addSupervisor "team-0001" "eve" "root",3),
    (.addSupervisor "team-0001" "eve " "root",4),(.addSupervisor "team-0002" "eve" "root",5),
    (.addAssignee "team-0001" "ada" "root",6),(.addAssignee "team-0002" "bob" "root",7)]

theorem supervision_queries_agree_twice :
    ∃ ids, ((supervisedAssigneeUserIDs background "eve").run (exec 8)
        (State.empty.afterAll sampleStaff)).1 = .ok ids ∧ "ada" ∈ ids ∧ ids.Nodup := by
  obtain ⟨answer,ids,hanswer,hids,hiff,hnodup⟩ :=
    supervision_queries_agree (trace_of .empty sampleStaff) 8 background "eve" " ada"
  have htrue : ((isActiveSupervisorOf background "eve" " ada").run (exec 8)
      (State.empty.afterAll sampleStaff)).1 = .ok true := by decide +kernel
  rw [hanswer] at htrue
  have hada := hiff.mp (Except.ok.inj htrue)
  rw [show trimSpace " ada" = "ada" by decide +kernel] at hada
  exact ⟨ids,congrArg Prod.fst hids,hada,hnodup⟩

/-- What `IsActiveSupervisorOf` answers. -/
def State.answer (s : State) (now : Time) (ctx : Context) (supervisorUserID assigneeUserID : String) :
    Except Error Bool :=
  ((isActiveSupervisorOf ctx supervisorUserID assigneeUserID).run (exec now) s).1

section Revoke
variable {s t : State} {teamID userID : String} {now : Time} {supervisions : MemorySupervisionStore}

/-- The rows after the supervisions of a team by a user were closed. -/
def Closed (now : Time) (teamID userID : String) (old new : List Supervision) : Prop :=
  new = old.map fun e =>
    if e.teamID = teamID ∧ e.userID = userID ∧ e.removedAt = none then e.close now else e

/-- The open rows are those that were open before, without the ones in question. -/
lemma Closed.mem_open {old new : List Supervision} (h : Closed now teamID userID old new)
    {row : Supervision} : (row ∈ new ∧ row.removedAt = none) ↔
      (row ∈ old ∧ row.removedAt = none) ∧ ¬ (row.teamID = teamID ∧ row.userID = userID) := by
  rw [Closed] at h
  rw [h, List.mem_map]
  constructor
  · rintro ⟨⟨e,he,hrow⟩,hopen⟩
    split_ifs at hrow with hclose
    · rw [← hrow] at hopen
      cases hopen
    · subst hrow
      exact ⟨⟨he,hopen⟩,fun h => hclose ⟨h.1,h.2,hopen⟩⟩
  · rintro ⟨⟨hrow,hopen⟩,hother⟩
    exact ⟨⟨row,hrow,if_neg fun h => hother ⟨h.1,h.2.1⟩⟩,hopen⟩

lemma Closed.not_supervising (h : Closed now teamID userID s.supervisions.entries supervisions.entries) :
    ¬ ({ s with supervisions } : State).Supervising teamID userID := by
  rintro ⟨row,hrow,hteam,huser,hopen⟩
  exact (h.mem_open.mp ⟨hrow,hopen⟩).2 ⟨hteam,huser⟩

/-- Who supervises whom, once the supervisions are closed. -/
lemma Closed.supervises_iff (h : Closed now teamID userID s.supervisions.entries supervisions.entries)
    (hsingle : SingleActive s.memberships.entries) (supervisor assignee : String) :
    ({ s with supervisions } : State).Supervises supervisor assignee ↔
      s.Supervises supervisor assignee ∧
        ¬ (supervisor = userID ∧ ∃ row ∈ s.active assignee, row.teamID = teamID) := by
  constructor
  · rintro ⟨m,hm,hopen,huser,row,hrow,hactive,hteam,hsupervisor⟩
    obtain ⟨⟨hrow,_⟩,hother⟩ := h.mem_open.mp ⟨hrow,hactive⟩
    refine ⟨⟨m,hm,hopen,huser,row,hrow,hactive,hteam,hsupervisor⟩,?_⟩
    rintro ⟨rfl,m',hm',hon⟩
    obtain ⟨hm',huser',hopen'⟩ := State.mem_active.mp hm'
    obtain rfl := hsingle m hm m' hm' hopen hopen' (huser.trans huser'.symm)
    exact hother ⟨hteam.trans hon,hsupervisor⟩
  · rintro ⟨⟨m,hm,hopen,huser,row,hrow,hactive,hteam,hsupervisor⟩,hother⟩
    have hkept := h.mem_open.mpr ⟨⟨hrow,hactive⟩,fun hboth => hother ⟨hsupervisor.symm.trans hboth.2,m,
      State.mem_active.mpr ⟨hm,huser,hopen⟩,hteam.symm.trans hboth.1⟩⟩
    exact ⟨m,hm,hopen,huser,row,hkept.1,hactive,hteam,hsupervisor⟩

end Revoke

lemma SingleActive.answer_eq {s : State} (h : SingleActive s.memberships.entries) (now : Time)
    (ctx : Context) (supervisorUserID assigneeUserID : String) :
    ∃ answer, s.answer now ctx supervisorUserID assigneeUserID = .ok answer ∧
      (answer = true ↔ ¬ Blank supervisorUserID ∧ ¬ Blank assigneeUserID ∧
        s.Supervises (trimSpace supervisorUserID) (trimSpace assigneeUserID)) := by
  obtain ⟨answer,hrun,hiff⟩ := run_isActiveSupervisorOf s now ctx h supervisorUserID assigneeUserID
  exact ⟨answer,congrArg Prod.fst hrun,hiff⟩

/-- Revoking is refused exactly where there is nothing to revoke, and then nothing changes.
Otherwise the user has no open supervision of the team left, all other answers are as before, and
so are the memberships. -/
theorem removeSupervisor_complete {xs : List Exchange} {t : State} (h : Trace Serves .empty xs t)
    (now : Time) (ctx : Context) (teamID userID : String) :
    let out := (removeSupervisor ctx teamID userID).run (exec now) t
    (out = (.error errNotSupervisor,t) ↔ ¬ t.Supervising (trimSpace teamID) (trimSpace userID)) ∧
    (t.Supervising (trimSpace teamID) (trimSpace userID) →
      out.1 = .ok () ∧ ¬ out.2.Supervising (trimSpace teamID) (trimSpace userID) ∧
      (∀ at_ ctx u a, trimSpace u = trimSpace userID →
        (∃ row ∈ t.active (trimSpace a), row.teamID = trimSpace teamID) →
        out.2.answer at_ ctx u a = .ok false) ∧
      (∀ at_ ctx u a, (trimSpace u ≠ trimSpace userID ∨
        ¬ ∃ row ∈ t.active (trimSpace a), row.teamID = trimSpace teamID) →
        out.2.answer at_ ctx u a = t.answer at_ ctx u a) ∧
      out.2.memberships = t.memberships) := by
  intro out
  have hsingle := trace_single h
  obtain ⟨hnone,hrun⟩ | ⟨hsome,supervisions,hrun,hclosed⟩ := run_removeSupervisor now t ctx teamID userID
  · exact ⟨iff_of_true hrun hnone,fun h => (hnone h).elim⟩
  have hclosed : Closed now (trimSpace teamID) (trimSpace userID) t.supervisions.entries
    supervisions.entries := hclosed
  have hsingle' : SingleActive ({ t with supervisions } : State).memberships.entries := hsingle
  have hout : out = (.ok (),{ t with supervisions }) := hrun
  rw [hout]
  refine ⟨iff_of_false (fun h => by cases h) (not_not.mpr hsome),fun _ => ⟨rfl,hclosed.not_supervising,
    fun at_ ctx u a hu ha => ?_,fun at_ ctx u a hother => ?_,rfl⟩⟩
  · obtain ⟨answer,hanswer,hiff⟩ := hsingle'.answer_eq at_ ctx u a
    rw [hanswer]
    refine congrArg Except.ok (Bool.eq_false_iff.mpr fun htrue => ?_)
    exact ((hclosed.supervises_iff hsingle _ _).mp (hiff.mp htrue).2.2).2 ⟨hu,ha⟩
  · obtain ⟨answer,hanswer,hiff⟩ := hsingle'.answer_eq at_ ctx u a
    obtain ⟨before,hbefore,hiff'⟩ := hsingle.answer_eq at_ ctx u a
    rw [hanswer, hbefore]
    refine congrArg Except.ok (Bool.eq_iff_iff.mpr ?_)
    rw [hiff, hiff', hclosed.supervises_iff hsingle, and_iff_left (not_and_or.mpr hother)]

/-- The supervisor of both teams, added to the first of them twice, is removed from it. -/
theorem removeSupervisor_complete_twice :
    let t := State.empty.afterAll sampleStaff
    let out := (removeSupervisor background " team-0001" "eve").run (exec 8) t
    out.1 = .ok () ∧ ¬ out.2.Supervising "team-0001" "eve" ∧
      out.2.answer 9 background "eve" "bob" = t.answer 9 background "eve" "bob" := by
  intro t out
  have hteam : trimSpace " team-0001" = "team-0001" := by decide +kernel
  have huser : trimSpace "eve" = "eve" := by decide +kernel
  have hsupervising : t.Supervising "team-0001" "eve" := by
    unfold State.Supervising
    decide +kernel
  have helsewhere : ¬ ∃ row ∈ t.active (trimSpace "bob"), row.teamID = trimSpace " team-0001" := by
    decide +kernel
  obtain ⟨hok,hgone,_,hframe,_⟩ := (removeSupervisor_complete (trace_of .empty sampleStaff) 8
    background " team-0001" "eve").2 (by rwa [hteam, huser])
  rw [hteam, huser] at hgone
  exact ⟨hok,hgone,hframe 9 background "eve" "bob" (.inr helsewhere)⟩

end OpsPlatform.Teams
