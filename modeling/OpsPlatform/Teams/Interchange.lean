import OpsPlatform.Teams.Constraints
import OpsPlatform.Teams.Supervision

/-! The team service over the Postgres stores answers what it answers over the in-memory ones, when
their clock shows what a `timestamptz` column keeps. Only the order of two lists may differ. -/
namespace OpsPlatform.Teams
open OpsPlatform.Go OpsPlatform.Db Interaction Program

/-- The methods of the service, each with its arguments. -/
inductive Request
  | createTeam (name : String)
  | listTeams
  | teamExists (teamID : String)
  | addAssignee (teamID userID addedByUserID : String)
  | addSupervisor (teamID userID addedByUserID : String)
  | removeSupervisor (teamID userID : String)
  | isActiveSupervisorOf (supervisorUserID assigneeUserID : String)
  | supervisedAssigneeUserIDs (supervisorUserID : String)

abbrev Request.Res : Request → Type
  | .createTeam _ => Except Error Team
  | .listTeams => Except Error (List Team)
  | .teamExists _ => Except Error Bool
  | .addAssignee _ _ _ => Except Error Membership
  | .addSupervisor _ _ _ => Except Error Supervision
  | .removeSupervisor _ _ => Except Error Unit
  | .isActiveSupervisorOf _ _ => Except Error Bool
  | .supervisedAssigneeUserIDs _ => Except Error (List String)

/-- The service in memory; `ListTeams` is the `List` of the store. -/
def Request.memory (now : Time) : (request : Request) → State → request.Res × State
  | .createTeam name => (Teams.createTeam background name).run (exec now)
  | .listTeams => fun s => (.ok s.teams.teams,s)
  | .teamExists teamID => (Teams.teamExists background teamID).run (exec now)
  | .addAssignee teamID userID addedByUserID =>
    (Teams.addAssignee background teamID userID addedByUserID).run (exec now)
  | .addSupervisor teamID userID addedByUserID =>
    (Teams.addSupervisor background teamID userID addedByUserID).run (exec now)
  | .removeSupervisor teamID userID => (Teams.removeSupervisor background teamID userID).run (exec now)
  | .isActiveSupervisorOf supervisorUserID assigneeUserID =>
    (Teams.isActiveSupervisorOf background supervisorUserID assigneeUserID).run (exec now)
  | .supervisedAssigneeUserIDs supervisorUserID =>
    (Teams.supervisedAssigneeUserIDs background supervisorUserID).run (exec now)

/-- `created_at ASC`. -/
def Team.Older (a b : Team) : Prop := a.createdAt < b.createdAt

/-- The service over Postgres, its statements answered as `answers` allows. -/
def Request.Over (answers : (op : Op) → Postgres.Tables → op.Res → Postgres.Tables → Prop) :
    (request : Request) → Postgres.Tables → request.Res → Postgres.Tables → Prop
  | .createTeam name => (Teams.createTeam background name).Runs answers
  | .listTeams => fun d r d' =>
    (∃ teams, r = .ok teams ∧ Sql.OrderedBy Team.Older d.teams.rows teams) ∧ d' = d
  | .teamExists teamID => (Teams.teamExists background teamID).Runs answers
  | .addAssignee teamID userID addedByUserID =>
    (Teams.addAssignee background teamID userID addedByUserID).Runs answers
  | .addSupervisor teamID userID addedByUserID =>
    (Teams.addSupervisor background teamID userID addedByUserID).Runs answers
  | .removeSupervisor teamID userID => (Teams.removeSupervisor background teamID userID).Runs answers
  | .isActiveSupervisorOf supervisorUserID assigneeUserID =>
    (Teams.isActiveSupervisorOf background supervisorUserID assigneeUserID).Runs answers
  | .supervisedAssigneeUserIDs supervisorUserID =>
    (Teams.supervisedAssigneeUserIDs background supervisorUserID).Runs answers

/-- All at one moment. -/
abbrev Request.Postgres (timestamptz : Time → Time) (now : Time) :
    (request : Request) → Postgres.Tables → request.Res → Postgres.Tables → Prop :=
  Request.Over (Postgres.Answers timestamptz (· = now))

/-- The reply of Postgres beside the one from memory. -/
def Request.Alike : (request : Request) → request.Res → request.Res → Prop
  | .listTeams, r, r' => ∃ teams teams', r = .ok teams ∧ r' = .ok teams' ∧
    Sql.OrderedBy Team.Older teams teams'
  | .supervisedAssigneeUserIDs _, r, r' => ∃ ids ids', r = .ok ids ∧ r' = .ok ids' ∧ ids'.Perm ids
  | .createTeam _, r, r' => r' = r
  | .teamExists _, r, r' => r' = r
  | .addAssignee _ _ _, r, r' => r' = r
  | .addSupervisor _ _ _, r, r' => r' = r
  | .removeSupervisor _ _, r, r' => r' = r
  | .isActiveSupervisorOf _ _, r, r' => r' = r

/-- The tables hold the rows of the memory. -/
structure Mirrors (s : State) (d : Postgres.Tables) : Prop where
  teamsSeq : d.teams.seq = s.teams.seq
  teams : d.teams.rows = s.teams.teams
  membershipsSeq : d.memberships.seq = s.memberships.seq
  memberships : d.memberships.rows = s.memberships.entries
  supervisionsSeq : d.supervisions.seq = s.supervisions.seq
  supervisions : d.supervisions.rows = s.supervisions.entries

section Service
variable {timestamptz : Time → Time} {now : Time} {s : State} {d : Postgres.Tables} {α : Type}

/-- What a program may come to over Postgres: what it comes to in memory. -/
def Reflects (timestamptz : Time → Time) (now : Time) (p : M α) (s : State) (x : Except Error α)
    (d : Postgres.Tables) : Prop :=
  ∃ t, p.run (exec (timestamptz now)) s = (x,t) ∧ Mirrors t d

lemma Mirrors.ret (h : Mirrors s d) (a : α) : (ret a : M α).Wp (Postgres.Answers timestamptz (· = now))
    d (Reflects timestamptz now (ret a) s) :=
  (wp_ret a).mpr ⟨s,run_ret _ a s,h⟩

lemma Mirrors.fail (h : Mirrors s d) (err : Error) : (fail err : M α).Wp
    (Postgres.Answers timestamptz (· = now)) d (Reflects timestamptz now (fail err) s) :=
  (wp_fail err).mpr ⟨s,run_fail _ err s,h⟩

lemma wp_now {next : Time → M α} {Q : Except Error α → Postgres.Tables → Prop}
    (h : (next now).Wp (Postgres.Answers timestamptz (· = now)) d Q) :
    (call .now next).Wp (Postgres.Answers timestamptz (· = now)) d Q := by
  rw [wp_call]
  rintro _ _ ⟨rfl,rfl⟩
  exact h

lemma Mirrors.getTeam (h : Mirrors s d) (id : String) : d.getTeam id = s.teams.getByID id := by
  unfold Postgres.Tables.getTeam MemoryStore.getByID
  exact h.teams ▸ rfl

lemma Mirrors.wp_getTeam (h : Mirrors s d) {ctx : Context} {id : String}
    {next : Except Error Team → M α} {Q : Except Error α → Postgres.Tables → Prop}
    (hnext : (next (s.teams.getByID id)).Wp (Postgres.Answers timestamptz (· = now)) d Q) :
    (call (.teamGetByID ctx id) next).Wp (Postgres.Answers timestamptz (· = now)) d Q := by
  rw [wp_call]
  rintro r d' ⟨hr,rfl⟩
  rw [← hr, h.getTeam]
  exact hnext

lemma Mirrors.exists_team (h : Mirrors s d) {id : String} {team : Team}
    (hteam : s.teams.getByID id = .ok team) : ∃ team ∈ d.teams.rows, team.id = id :=
  Postgres.exists_team ((h.getTeam id).trans hteam)

lemma Mirrors.active (h : Mirrors s d) (userID : String) : d.active userID = s.active userID := by
  rw [Postgres.Tables.active, State.active, h.memberships]

lemma createTeam_reflects (h : Mirrors s d) (name : String) :
    (createTeam background name).Wp (Postgres.Answers timestamptz (· = now)) d
      (Reflects timestamptz now (createTeam background name) s) := by
  unfold createTeam Reflects
  simp only [run_failIf_bind, wp_failIf_bind]
  refine ⟨fun hblank => ⟨s,by rw [if_pos hblank],h⟩,fun hname => ?_⟩
  simp only [if_neg hname, call_bind, ret_bind, run_call, exec, run_fromResult]
  refine wp_now ?_
  rw [wp_call]
  intro r d' hanswer
  obtain ⟨row,d'',rfl,hcreate,hseq,hrows,hmemberships,hsupervisions⟩ :=
    Postgres.createTeam_eq timestamptz d ⟨"",trimSpace name,now⟩
  obtain ⟨rfl,rfl⟩ := Prod.mk.inj (hanswer.symm.trans hcreate)
  have hid : Postgres.teams.number (d.teams.seq+1) = sprintf04d "team-" (s.teams.seq+1) := by
    rw [Schema.number, Sql.numbered_eq, h.teamsSeq]
    rfl
  rw [wp_fromResult, hid]
  rw [hid, h.teams] at hrows
  exact ⟨_,rfl,hseq.trans (congrArg (·+1) h.teamsSeq),hrows,hmemberships ▸ h.membershipsSeq,
    hmemberships ▸ h.memberships,hsupervisions ▸ h.supervisionsSeq,hsupervisions ▸ h.supervisions⟩

lemma teamExists_reflects (h : Mirrors s d) (teamID : String) :
    (teamExists background teamID).Wp (Postgres.Answers timestamptz (· = now)) d
      (Reflects timestamptz now (teamExists background teamID) s) := by
  unfold teamExists Reflects
  split_ifs with hblank
  · exact h.ret _
  · refine h.wp_getTeam ?_
    rw [run_call]
    simp only [exec]
    cases s.teams.getByID teamID with
    | ok team => exact h.ret _
    | error err =>
      dsimp only
      split_ifs
      · exact h.ret _
      · exact h.fail _

lemma addSupervisor_reflects (h : Mirrors s d) (teamID userID addedByUserID : String) :
    (addSupervisor background teamID userID addedByUserID).Wp
      (Postgres.Answers timestamptz (· = now)) d
      (Reflects timestamptz now (addSupervisor background teamID userID addedByUserID) s) := by
  unfold addSupervisor Reflects
  simp only [run_failIf_bind, wp_failIf_bind]
  refine ⟨fun hblank => ⟨s,by rw [if_pos hblank],h⟩,fun hnamed => ?_⟩
  simp only [if_neg hnamed, call_bind, run_call, exec]
  refine h.wp_getTeam ?_
  cases hteam : s.teams.getByID (trimSpace teamID) with
  | error err =>
    rw [fromResult_error, fail_bind]
    exact h.fail _
  | ok team =>
    simp only [fromResult_ok, ret_bind, run_call, exec, run_fromResult]
    refine wp_now ?_
    rw [wp_call]
    intro r d' hanswer
    obtain ⟨row,d'',rfl,hcreate,hseq,hrows,hteams,hmemberships⟩ :=
      Postgres.createSupervision_eq timestamptz d
        (show (⟨"",trimSpace teamID,trimSpace userID,trimSpace addedByUserID,now,none⟩ :
          Supervision).removedAt = none from rfl) (h.exists_team hteam)
    obtain ⟨rfl,rfl⟩ := Prod.mk.inj (hanswer.symm.trans hcreate)
    have hid : Postgres.supervisions.number (d.supervisions.seq+1) =
        supervisionID (s.supervisions.seq+1) := by
      rw [Schema.number, Sql.numbered_eq, h.supervisionsSeq]
      rfl
    rw [wp_fromResult, hid]
    rw [hid, h.supervisions] at hrows
    exact ⟨_,rfl,hteams ▸ h.teamsSeq,hteams ▸ h.teams,hmemberships ▸ h.membershipsSeq,
      hmemberships ▸ h.memberships,hseq.trans (congrArg (·+1) h.supervisionsSeq),hrows⟩

lemma Mirrors.wp_getActive (h : Mirrors s d) {ctx : Context} {userID : String}
    {next : Except Error (Option Membership) → M α} {Q : Except Error α → Postgres.Tables → Prop}
    (hnext : (next (s.memberships.getActiveByUserID userID)).Wp
      (Postgres.Answers timestamptz (· = now)) d Q) :
    (call (.membershipGetActiveByUserID ctx userID) next).Wp
      (Postgres.Answers timestamptz (· = now)) d Q := by
  have hhead : s.memberships.getActiveByUserID userID = .ok (d.active userID).head? := by
    rw [h.active, State.active, List.head?_filter]
    rfl
  rw [hhead] at hnext
  rw [wp_call]
  rintro r d' ⟨⟨hnone,rfl⟩ | ⟨row,hrow,rfl⟩,rfl⟩
  · rwa [hnone] at hnext
  · rwa [Postgres.active_eq_singleton _ hrow] at hnext

lemma Mirrors.wp_create (h : Mirrors s d) {membership : Membership} (hopen : membership.removedAt = none)
    (hteam : ∃ team ∈ d.teams.rows, team.id = membership.teamID)
    (hfree : s.active membership.userID = []) :
    (call (.membershipCreate background membership) fromResult : M Membership).Wp
      (Postgres.Answers timestamptz (· = now)) d
      (Reflects timestamptz now (call (.membershipCreate background
        { membership with addedAt := timestamptz membership.addedAt }) fromResult) s) := by
  rw [wp_call]
  intro r d' hanswer
  obtain ⟨htaken,_⟩ | ⟨_,row,d'',rfl,hcreate,hsets⟩ :=
    Postgres.createMembership_cases timestamptz d hopen hteam
  · exact (htaken ((h.active _).trans hfree)).elim
  obtain ⟨rfl,rfl⟩ := Prod.mk.inj (hanswer.symm.trans hcreate)
  have hid : Postgres.memberships.number (d.memberships.seq+1) = membershipID (s.memberships.seq+1) := by
    rw [Schema.number, Sql.numbered_eq, h.membershipsSeq]
    rfl
  have hrows := hsets.rows
  rw [wp_fromResult, hid]
  rw [hid, h.memberships] at hrows
  refine ⟨_,by rw [run_call, exec, run_fromResult]; rfl,?_⟩
  exact ⟨hsets.teams ▸ h.teamsSeq,hsets.teams ▸ h.teams,
    hsets.seq.trans (congrArg (·+1) h.membershipsSeq),hrows,
    hsets.supervisions ▸ h.supervisionsSeq,hsets.supervisions ▸ h.supervisions⟩

lemma MemoryMembershipStore.seq_update (m : MemoryMembershipStore) (row : Membership) :
    (m.update row).2.seq = m.seq := by
  unfold MemoryMembershipStore.update
  split
  · rfl
  · rfl

/-- Closing a row that was read closes the same row in both. -/
lemma Mirrors.close (h : Mirrors s d) {existing : Membership} (hmem : existing ∈ s.memberships.entries)
    {r : Except Error Membership} {d' : Postgres.Tables}
    (hupdate : d.updateMembership timestamptz { existing with removedAt := some now } = (r,d')) :
    (∃ row, r = .ok row) ∧ d'.teams = d.teams ∧
      (∀ userID, ∀ old ∈ d'.active userID, old ∈ d.active userID ∧ old.id ≠ existing.id) ∧
      Mirrors { s with memberships := (s.memberships.update
        { existing with removedAt := some (timestamptz now) }).2 } d' := by
  obtain ⟨row,_,d'',_,hclose,hsets⟩ := Postgres.updateMembership_close timestamptz d
    (show ({ existing with removedAt := some now } : Membership).removedAt = some now from rfl)
    ⟨existing,h.memberships ▸ hmem,rfl⟩
  obtain ⟨rfl,rfl⟩ := Prod.mk.inj (hupdate.symm.trans hclose)
  refine ⟨⟨_,rfl⟩,hsets.teams,fun _ _ => Postgres.mem_active_close hsets.rows,
    hsets.teams ▸ h.teamsSeq,hsets.teams ▸ h.teams,?_,?_,
    hsets.supervisions ▸ h.supervisionsSeq,hsets.supervisions ▸ h.supervisions⟩
  · exact hsets.seq.trans (h.membershipsSeq.trans (s.memberships.seq_update _).symm)
  · have hid : existing.id ∈ s.memberships.entries.map (·.id) := List.mem_map_of_mem hmem
    rw [hsets.rows, h.memberships, (s.memberships.update_eq
      { existing with removedAt := some (timestamptz now) } hid).2]
    refine List.map_congr_left fun old hold => ?_
    by_cases hid : old.id = existing.id
    · obtain rfl := List.inj_on_of_nodup_map s.memberships.ids_nodup hold hmem hid
      simp [Membership.close]
    · simp [hid]

lemma addAssignee_reflects (h : Mirrors s d) (teamID userID addedByUserID : String) :
    (addAssignee background teamID userID addedByUserID).Wp
      (Postgres.Answers timestamptz (· = now)) d
      (Reflects timestamptz now (addAssignee background teamID userID addedByUserID) s) := by
  unfold addAssignee Reflects
  simp only [run_failIf_bind, wp_failIf_bind]
  refine ⟨fun hblank => ⟨s,by rw [if_pos hblank],h⟩,fun hnamed => ?_⟩
  simp only [if_neg hnamed, call_bind, run_call, exec]
  refine h.wp_getTeam ?_
  cases hteam : s.teams.getByID (trimSpace teamID) with
  | error err =>
    rw [fromResult_error, fail_bind]
    exact h.fail _
  | ok team =>
    simp only [fromResult_ok, ret_bind, run_call, exec]
    refine wp_now (h.wp_getActive ?_)
    have hhead : s.memberships.getActiveByUserID (trimSpace userID) =
        .ok (s.active (trimSpace userID)).head? := by
      rw [State.active, List.head?_filter]
      rfl
    cases hactive : s.active (trimSpace userID) with
    | nil =>
      rw [hhead, hactive]
      simp only [List.head?_nil, fromResult_ok, ret_bind]
      exact h.wp_create rfl (h.exists_team hteam) hactive
    | cons existing rest =>
      rw [hhead, hactive]
      simp only [List.head?_cons, fromResult_ok, ret_bind]
      have hmem : existing ∈ s.active (trimSpace userID) := hactive ▸ List.mem_cons_self
      split_ifs with hsame
      · exact h.ret _
      · rw [wp_call]
        intro r d' hanswer
        obtain ⟨⟨row,rfl⟩,hteams,hopen,hmirrors⟩ := h.close (State.mem_active.mp hmem).1 hanswer
        have hid : existing.id ∈ s.memberships.entries.map (·.id) :=
          List.mem_map_of_mem (State.mem_active.mp hmem).1
        have hok := (s.memberships.update_eq { existing with removedAt := some (timestamptz now) }
          hid).1
        rw [run_call]
        simp only [exec, hok, fromResult_ok, ret_bind]
        refine hmirrors.wp_create ?_ ?_ ?_
        · rfl
        · rw [hteams]
          exact h.exists_team hteam
        · rw [← hmirrors.active]
          refine List.eq_nil_iff_forall_not_mem.mpr fun old hold => ?_
          obtain ⟨hold,hid⟩ := hopen _ old hold
          rw [Postgres.active_eq_singleton d (h.active _ ▸ hmem), List.mem_singleton] at hold
          exact hid (congrArg Membership.id hold)

lemma MemorySupervisionStore.seq_eq (m : MemorySupervisionStore) : m.seq = m.entries.length := by
  simpa using (congrArg List.length m.numbered).symm

/-- The loop of `RemoveSupervisor` over rows that were read as open: it closes those of the user. -/
lemma wp_closeSupervisions (userID : String) (active : List Supervision) (found : Bool)
    (hopen : ∀ a ∈ active, a ∈ d.supervisions.rows ∧ a.removedAt = none) (hnodup : active.Nodup) :
    (closeSupervisions background now userID active found).Wp
      (Postgres.Answers timestamptz (· = now)) d fun x d' =>
        x = .ok (found || active.any fun a => a.userID = userID) ∧
        d'.supervisions.seq = d.supervisions.seq ∧
        d'.supervisions.rows = (d.supervisions.rows.map fun e =>
          if e ∈ active ∧ e.userID = userID then e.close (timestamptz now) else e) ∧
        d'.teams = d.teams ∧ d'.memberships = d.memberships := by
  induction active generalizing d found with
  | nil =>
    rw [closeSupervisions, wp_ret]
    exact ⟨by simp,rfl,by simp,rfl,rfl⟩
  | cons a rest ih =>
    rw [List.nodup_cons] at hnodup
    obtain ⟨⟨hmem,ha⟩,hrest⟩ := List.forall_mem_cons.mp hopen
    rw [closeSupervisions]
    split_ifs with huser
    · refine (ih found hrest hnodup.2).imp fun x d' hx => ?_
      have hskip : ∀ e, (e ∈ a :: rest ∧ e.userID = userID) ↔ e ∈ rest ∧ e.userID = userID := by
        intro e
        refine and_congr_left fun he => ⟨fun h => (List.mem_cons.mp h).resolve_left ?_,
          List.mem_cons_of_mem a⟩
        rintro rfl
        exact huser he
      simpa only [hskip, List.any_cons, huser, decide_false, Bool.false_or] using hx
    · rw [not_ne_iff] at huser
      rw [call_bind, wp_call]
      intro r d₁ hanswer
      obtain ⟨row,d',hclose,hseq,hrows,hteams,hmemberships⟩ :=
        Postgres.updateSupervision_close timestamptz d
          (show ({ a with removedAt := some now } : Supervision).removedAt = some now from rfl)
          ⟨a,hmem,rfl⟩
      obtain ⟨rfl,rfl⟩ := Prod.mk.inj (hanswer.symm.trans hclose)
      have hstored : d₁.supervisions.rows = d.supervisions.rows.map fun e =>
          if e = a then e.close (timestamptz now) else e := by
        rw [hrows]
        refine List.map_congr_left fun e he => if_congr ⟨fun hid => ?_,fun h => by rw [h]⟩ rfl rfl
        exact List.inj_on_of_nodup_map d.supervisions.ids_nodup he hmem hid
      -- the rows still to come are others, and so unchanged by this update
      have hkept : ∀ b ∈ rest, b ∈ d₁.supervisions.rows ∧ b.removedAt = none := by
        intro b hb
        refine ⟨?_,(hrest b hb).2⟩
        rw [hstored, List.mem_map]
        refine ⟨b,(hrest b hb).1,if_neg ?_⟩
        rintro rfl
        exact hnodup.1 hb
      rw [fromResult_ok, ret_bind]
      refine (ih true hkept hnodup.2).imp fun x d' hx => ?_
      obtain ⟨hx,hseq',hrows',hteams',hmemberships'⟩ := hx
      refine ⟨by simp [hx, huser],hseq'.trans hseq,?_,hteams'.trans hteams,
        hmemberships'.trans hmemberships⟩
      rw [hrows', hstored, List.map_map]
      refine List.map_congr_left fun e _ => ?_
      rw [Function.comp_apply]
      by_cases he : e = a
      · subst he
        have hclosed : e.close (timestamptz now) ∉ rest := by
          intro h
          cases (hrest _ h).2
        rw [if_pos rfl, if_neg fun h => hclosed h.1, if_pos ⟨List.mem_cons_self,huser⟩]
      · rw [if_neg he]
        simp only [List.mem_cons, he, false_or]

lemma removeSupervisor_reflects (h : Mirrors s d) (teamID userID : String) :
    (removeSupervisor background teamID userID).Wp (Postgres.Answers timestamptz (· = now)) d
      (Reflects timestamptz now (removeSupervisor background teamID userID) s) := by
  have hmemory := run_removeSupervisor (timestamptz now) s background teamID userID
  unfold Reflects
  generalize (removeSupervisor background teamID userID).run (exec (timestamptz now)) s = out at hmemory ⊢
  unfold removeSupervisor
  simp only [call_bind, ret_bind]
  rw [wp_call]
  rintro _ d' ⟨⟨rows,rfl,hperm⟩,rfl⟩
  rw [fromResult_ok, ret_bind]
  refine wp_now ?_
  have hmem : ∀ a, a ∈ rows ↔ a ∈ d'.supervisions.rows ∧ a.teamID = trimSpace teamID ∧
      a.removedAt = none := by
    intro a
    rw [hperm.mem_iff]
    simp [Postgres.Tables.activeSupervisors]
  refine Wp.andThen (wp_closeSupervisions (trimSpace userID) rows false ?_ ?_) ?_ ?_
  · intro a ha
    exact ⟨((hmem a).mp ha).1,((hmem a).mp ha).2.2⟩
  · exact hperm.nodup_iff.mpr ((List.Nodup.of_map _ d'.supervisions.ids_nodup).filter _)
  · rintro found d₁ ⟨hfound,hseq,hrows,hteams,hmemberships⟩
    have hany : found = true ↔ s.Supervising (trimSpace teamID) (trimSpace userID) := by
      cases hfound
      simp only [Bool.false_or, List.any_eq_true, decide_eq_true_eq, hmem, h.supervisions,
        State.Supervising]
      constructor
      · rintro ⟨row,⟨hmem,hteam,hopen⟩,huser⟩
        exact ⟨row,hmem,hteam,huser,hopen⟩
      · rintro ⟨row,hmem,hteam,huser,hopen⟩
        exact ⟨row,⟨hmem,hteam,hopen⟩,huser⟩
    rw [wp_failIf]
    refine ⟨fun hnone => ?_,fun hsome => ?_⟩
    · obtain ⟨_,rfl⟩ := hmemory.resolve_right fun hboth => hnone (hany.mpr hboth.1)
      refine ⟨s,rfl,hteams ▸ h.teamsSeq,hteams ▸ h.teams,hmemberships ▸ h.membershipsSeq,
        hmemberships ▸ h.memberships,hseq.trans h.supervisionsSeq,?_⟩
      rw [hrows, h.supervisions]
      refine (List.map_congr_left fun e he => if_neg ?_).trans (List.map_id _)
      rintro ⟨hrow,huser⟩
      obtain ⟨hstored,hteam,hopen⟩ := (hmem e).mp hrow
      exact hnone (hany.mpr ⟨e,he,hteam,huser,hopen⟩)
    · obtain ⟨_,supervisions,rfl,hentries⟩ :=
        hmemory.resolve_left fun hboth => hboth.1 (hany.mp (not_not.mp hsome))
      refine ⟨_,rfl,hteams ▸ h.teamsSeq,hteams ▸ h.teams,hmemberships ▸ h.membershipsSeq,
        hmemberships ▸ h.memberships,?_,?_⟩
      · rw [hseq, h.supervisionsSeq, supervisions.seq_eq, hentries, List.length_map,
          s.supervisions.seq_eq]
      · rw [hrows, h.supervisions, hentries]
        refine List.map_congr_left fun e he => if_congr ?_ rfl rfl
        rw [hmem, h.supervisions]
        constructor
        · rintro ⟨⟨_,hteam,hopen⟩,huser⟩
          exact ⟨hteam,huser,hopen⟩
        · rintro ⟨hteam,huser,hopen⟩
          exact ⟨⟨he,hteam,hopen⟩,huser⟩
  · rintro err d₁ ⟨hx,_⟩
    cases hx

lemma isActiveSupervisorOf_reflects (h : Mirrors s d) (supervisorUserID assigneeUserID : String) :
    (isActiveSupervisorOf background supervisorUserID assigneeUserID).Wp
      (Postgres.Answers timestamptz (· = now)) d
      (Reflects timestamptz now (isActiveSupervisorOf background supervisorUserID assigneeUserID) s) := by
  unfold isActiveSupervisorOf Reflects
  dsimp only
  split_ifs with hblank
  · exact h.ret _
  simp only [call_bind, run_call, exec]
  refine h.wp_getActive ?_
  have hhead : s.memberships.getActiveByUserID (trimSpace assigneeUserID) =
      .ok (s.active (trimSpace assigneeUserID)).head? := by
    rw [State.active, List.head?_filter]
    rfl
  rw [hhead]
  cases (s.active (trimSpace assigneeUserID)).head? with
  | none =>
    simp only [fromResult_ok, ret_bind]
    exact h.ret _
  | some membership =>
    simp only [fromResult_ok, ret_bind]
    rw [wp_call]
    rintro _ d' ⟨⟨rows,rfl,hperm⟩,rfl⟩
    rw [run_call]
    simp only [exec, MemorySupervisionStore.listActiveByTeamID, fromResult_ok, ret_bind]
    have hsame : (rows.any fun supervision => supervision.userID = trimSpace supervisorUserID) =
        (s.supervisions.entries.filter fun entry => entry.teamID = membership.teamID ∧
          entry.removedAt = none).any fun supervision =>
            supervision.userID = trimSpace supervisorUserID := by
      rw [← h.supervisions, Bool.eq_iff_iff, List.any_eq_true, List.any_eq_true]
      exact exists_congr fun row => and_congr_left fun _ => hperm.mem_iff
    rw [hsame]
    exact h.ret _

/-- The outer loop of `SupervisedAssigneeUserIDs` collects every id once. -/
lemma wp_collectMembers (supervisions : List Supervision) {acc : List String × (String → Bool)}
    (h : Remembers acc) (hnodup : acc.1.Nodup) :
    (collectMembers background supervisions acc).Wp (Postgres.Answers timestamptz (· = now)) d
      fun x d' => d' = d ∧ ∃ ids, x = .ok ids ∧ ids.Nodup ∧
        ∀ a, a ∈ ids ↔ a ∈ acc.1 ∨ ∃ s ∈ supervisions, ∃ m ∈ d.memberships.rows,
          m.removedAt = none ∧ m.userID = a ∧ s.teamID = m.teamID := by
  induction supervisions generalizing acc with
  | nil =>
    rw [collectMembers, wp_ret]
    exact ⟨rfl,acc.1,rfl,hnodup,by simp⟩
  | cons supervision rest ih =>
    rw [collectMembers, call_bind, wp_call]
    rintro _ d' ⟨⟨members,rfl,hperm⟩,rfl⟩
    rw [fromResult_ok, ret_bind]
    obtain ⟨hnext,hmem⟩ := h.foldl members
    refine (ih hnext (nodup_foldl h hnodup members)).imp fun x d₁ hx => ?_
    obtain ⟨rfl,ids,rfl,hids,hcollected⟩ := hx
    refine ⟨rfl,ids,rfl,hids,fun a => ?_⟩
    rw [hcollected, hmem, or_assoc, List.exists_mem_cons_iff]
    refine or_congr_right (or_congr_left ?_)
    constructor
    · rintro ⟨m,hm,huser⟩
      obtain ⟨hstored,hteam,hopen⟩ : m ∈ d₁.memberships.rows ∧ m.teamID = supervision.teamID ∧
          m.removedAt = none := by
        simpa [Postgres.Tables.activeMembers] using hperm.mem_iff.mp hm
      exact ⟨m,hstored,hopen,huser,hteam.symm⟩
    · rintro ⟨m,hstored,hopen,huser,hteam⟩
      refine ⟨m,hperm.mem_iff.mpr ?_,huser⟩
      simpa [Postgres.Tables.activeMembers] using ⟨hstored,hteam.symm,hopen⟩

lemma supervisedAssigneeUserIDs_reflects (h : Mirrors s d) (supervisorUserID : String) :
    (supervisedAssigneeUserIDs background supervisorUserID).Wp
      (Postgres.Answers timestamptz (· = now)) d fun x d' =>
        ∃ ids ids', x = .ok ids' ∧ ids'.Perm ids ∧ d' = d ∧
          (supervisedAssigneeUserIDs background supervisorUserID).run (exec (timestamptz now)) s =
            (.ok ids,s) := by
  obtain ⟨ids,hrun,hids⟩ := run_supervisedAssigneeUserIDs s (timestamptz now) background supervisorUserID
  have hnodup := nodup_supervisedAssigneeUserIDs s (timestamptz now) background hrun
  simp only [hrun]
  unfold supervisedAssigneeUserIDs
  dsimp only
  split_ifs with hblank
  · refine (wp_ret _).mpr ⟨ids,[],rfl,?_,rfl,rfl⟩
    have hnone : ids = [] := List.eq_nil_iff_forall_not_mem.mpr fun a ha => ((hids a).mp ha).1 hblank
    rw [hnone]
  · rw [call_bind, wp_call]
    rintro _ d' ⟨⟨rows,rfl,hperm⟩,rfl⟩
    rw [fromResult_ok, ret_bind]
    refine (wp_collectMembers rows (fun a => by simp) List.nodup_nil).imp fun x d₁ hx => ?_
    obtain ⟨rfl,ids',rfl,hnodup',hids'⟩ := hx
    refine ⟨ids,ids',rfl,?_,rfl,rfl⟩
    rw [List.perm_ext_iff_of_nodup hnodup' hnodup]
    intro a
    rw [hids', hids]
    have hlisted : ∀ supervision, supervision ∈ rows ↔ supervision ∈ s.supervisions.entries ∧
        supervision.userID = trimSpace supervisorUserID ∧ supervision.removedAt = none := by
      intro supervision
      rw [hperm.mem_iff, ← h.supervisions]
      simp [Postgres.Tables.activeSupervisions]
    simp only [List.not_mem_nil, false_or, hlisted, h.memberships]
    constructor
    · rintro ⟨supervision,⟨hs,hsuser,hsopen⟩,m,hm,hopen,huser,hteam⟩
      exact ⟨hblank,m,hm,hopen,huser,supervision,hs,hsopen,hteam,hsuser⟩
    · rintro ⟨_,m,hm,hopen,huser,supervision,hs,hsopen,hteam,hsuser⟩
      exact ⟨supervision,⟨hs,hsuser,hsopen⟩,m,hm,hopen,huser,hteam⟩

/-- The step lemma: what Postgres may answer is like what the memory answers. -/
lemma Mirrors.step (h : Mirrors s d) {request : Request} {r : request.Res} {d' : Postgres.Tables}
    (hserved : request.Postgres timestamptz now d r d') :
    request.Alike (request.memory (timestamptz now) s).1 r ∧
      Mirrors (request.memory (timestamptz now) s).2 d' := by
  have hreflects : ∀ {α : Type} {p : M α} {x : Except Error α},
      p.Wp (Postgres.Answers timestamptz (· = now)) d (Reflects timestamptz now p s) →
      p.Runs (Postgres.Answers timestamptz (· = now)) d x d' → x = (p.run (exec (timestamptz now)) s).1 ∧
        Mirrors (p.run (exec (timestamptz now)) s).2 d' := by
    intro α p x hwp hruns
    obtain ⟨t,hrun,hmirrors⟩ := hruns.wp hwp
    rw [hrun]
    exact ⟨rfl,hmirrors⟩
  cases request with
  | createTeam name => exact hreflects (createTeam_reflects h name) hserved
  | teamExists teamID => exact hreflects (teamExists_reflects h teamID) hserved
  | addAssignee teamID userID addedByUserID =>
    exact hreflects (addAssignee_reflects h teamID userID addedByUserID) hserved
  | addSupervisor teamID userID addedByUserID =>
    exact hreflects (addSupervisor_reflects h teamID userID addedByUserID) hserved
  | removeSupervisor teamID userID => exact hreflects (removeSupervisor_reflects h teamID userID) hserved
  | isActiveSupervisorOf supervisorUserID assigneeUserID =>
    exact hreflects (isActiveSupervisorOf_reflects h supervisorUserID assigneeUserID) hserved
  | supervisedAssigneeUserIDs supervisorUserID =>
    obtain ⟨ids,ids',rfl,hperm,rfl,hrun⟩ := Runs.wp hserved (supervisedAssigneeUserIDs_reflects h _)
    rw [Request.memory, hrun]
    exact ⟨⟨ids,ids',rfl,rfl,hperm⟩,h⟩
  | listTeams =>
    obtain ⟨⟨teams,rfl,hordered⟩,rfl⟩ := hserved
    rw [h.teams] at hordered
    exact ⟨⟨_,teams,rfl,rfl,hordered⟩,h⟩

end Service

/-- A call with its reply, and what the clock showed. -/
structure Answer where
  now : Time
  request : Request
  result : request.Res

def Answer.Postgres (timestamptz : Time → Time) (d : Postgres.Tables) (x : Answer)
    (d' : Postgres.Tables) : Prop :=
  x.request.Postgres timestamptz x.now d x.result d'

/-- The tables of a memory have no gaps. -/
lemma Mirrors.gaps {s : State} {d : Postgres.Tables} (h : Mirrors s d) : d.gaps = 0 := by
  have hmemberships : s.memberships.seq = s.memberships.entries.length := by
    simpa using (congrArg List.length s.memberships.numbered).symm
  simp only [Postgres.Tables.gaps, Table.gaps, h.memberships, h.membershipsSeq, h.supervisions,
    h.supervisionsSeq, hmemberships, s.supervisions.seq_eq]
  omega

/-- The same call, answered alike. -/
inductive Answer.Same (timestamptz : Time → Time) : Answer → Answer → Prop
  | mk {now : Time} {request : Request} {r r' : request.Res} (alike : request.Alike r r') :
      Answer.Same timestamptz ⟨timestamptz now,request,r⟩ ⟨now,request,r'⟩

end OpsPlatform.Teams
