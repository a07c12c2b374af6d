import OpsPlatform.Teams.Service

/-! Who supervises whom. The two questions of the team authority walk the stores in opposite
directions; they agree because a user is never an active member of two teams. -/
namespace OpsPlatform.Teams
open OpsPlatform.Go Interaction Program

/-- `assigneeUserID` is on a team that `supervisorUserID` supervises, both rows active. -/
def State.Supervises (st : State) (supervisorUserID assigneeUserID : String) : Prop :=
  ∃ membership ∈ st.memberships.entries,
    membership.removedAt = none ∧ membership.userID = assigneeUserID ∧
    ∃ supervision ∈ st.supervisions.entries, supervision.removedAt = none ∧
      supervision.teamID = membership.teamID ∧ supervision.userID = supervisorUserID

/-- A user has at most one active membership. -/
def SingleActive (entries : List Membership) : Prop :=
  ∀ m ∈ entries, ∀ m' ∈ entries, m.removedAt = none → m'.removedAt = none →
    m.userID = m'.userID → m = m'

section Questions
variable (st : State) (now : Time) (ctx : Context)

theorem run_isActiveSupervisorOf (hsingle : SingleActive st.memberships.entries)
    (supervisorUserID assigneeUserID : String) :
    ∃ answer, (isActiveSupervisorOf ctx supervisorUserID assigneeUserID).run (exec now) st =
        (.ok answer,st) ∧
      (answer = true ↔ ¬ Blank supervisorUserID ∧ ¬ Blank assigneeUserID ∧
        st.Supervises (trimSpace supervisorUserID) (trimSpace assigneeUserID)) := by
  by_cases hblank : trimSpace supervisorUserID = "" ∨ trimSpace assigneeUserID = ""
  · refine ⟨false,by simp only [isActiveSupervisorOf, if_pos hblank, pure_eq, run_ret],?_⟩
    simp only [Bool.false_eq_true, false_iff]
    rintro ⟨hs,ha,_⟩
    exact hblank.elim hs ha
  · simp only [isActiveSupervisorOf, if_neg hblank, call_bind, run_call, exec,
      MemoryMembershipStore.getActiveByUserID, fromResult_ok, ret_bind]
    rw [not_or] at hblank
    cases hfind : st.memberships.entries.find? fun entry =>
        decide (entry.userID = trimSpace assigneeUserID ∧ entry.removedAt = none) with
    | none =>
      refine ⟨false,run_ret _ _ _,?_⟩
      simp only [Bool.false_eq_true, false_iff]
      rintro ⟨_,_,m,hm,hactive,huser,_⟩
      have := List.find?_eq_none.mp hfind m hm
      simp [huser, hactive] at this
    | some membership =>
      have hmem := List.mem_of_find?_eq_some hfind
      have hfound : membership.userID = trimSpace assigneeUserID ∧ membership.removedAt = none := by
        simpa using List.find?_some hfind
      simp only [run_call, exec, MemorySupervisionStore.listActiveByTeamID, fromResult_ok,
        ret_bind, pure_eq, run_ret]
      refine ⟨_,rfl,?_⟩
      simp only [List.any_eq_true, List.mem_filter, decide_eq_true_eq]
      constructor
      · rintro ⟨s,⟨hs,hteam,hactive⟩,huser⟩
        exact ⟨hblank.1,hblank.2,membership,hmem,hfound.2,hfound.1,s,hs,hactive,hteam,huser⟩
      · rintro ⟨_,_,m,hm,hactive,huser,s,hs,hsactive,hteam,hsuser⟩
        have hsame := hsingle m hm membership hmem hactive hfound.2 (huser.trans hfound.1.symm)
        exact ⟨s,⟨hs,hsame ▸ hteam,hsactive⟩,hsuser⟩

/-- The `seen` map remembers exactly the ids collected so far. -/
def Remembers (acc : List String × (String → Bool)) : Prop := ∀ a, acc.2 a = true ↔ a ∈ acc.1

lemma Remembers.addMember {acc : List String × (String → Bool)} (h : Remembers acc)
    (member : Membership) : Remembers (addMember acc member) ∧
      ∀ a, a ∈ (Teams.addMember acc member).1 ↔ a ∈ acc.1 ∨ a = member.userID := by
  unfold Teams.addMember
  split_ifs with hseen
  · refine ⟨h,fun a => ⟨.inl,?_⟩⟩
    rintro (ha | rfl)
    · exact ha
    · exact (h _).mp hseen
  · refine ⟨fun a => ?_,by simp⟩
    by_cases ha : a = member.userID <;> simp [ha, h a]

lemma Remembers.foldl {acc : List String × (String → Bool)} (h : Remembers acc)
    (members : List Membership) : Remembers (members.foldl Teams.addMember acc) ∧
      ∀ a, a ∈ (members.foldl Teams.addMember acc).1 ↔
        a ∈ acc.1 ∨ ∃ m ∈ members, m.userID = a := by
  induction members generalizing acc with
  | nil => exact ⟨h,by simp⟩
  | cons member members ih =>
    obtain ⟨hnext,hmem⟩ := h.addMember member
    obtain ⟨hlast,hall⟩ := ih hnext
    refine ⟨hlast,fun a => ?_⟩
    rw [List.foldl_cons, hall, hmem, or_assoc]
    simp [eq_comm]

lemma run_collectMembers (supervisions : List Supervision)
    {acc : List String × (String → Bool)} (h : Remembers acc) :
    ∃ ids, (collectMembers ctx supervisions acc).run (exec now) st = (.ok ids,st) ∧
      ∀ a, a ∈ ids ↔ a ∈ acc.1 ∨ ∃ s ∈ supervisions, ∃ m ∈ st.memberships.entries,
        m.removedAt = none ∧ m.userID = a ∧ s.teamID = m.teamID := by
  induction supervisions generalizing acc with
  | nil => exact ⟨acc.1,run_ret _ _ _,by simp⟩
  | cons supervision rest ih =>
    simp only [collectMembers, call_bind, run_call, exec,
      MemoryMembershipStore.listActiveByTeamID, fromResult_ok, ret_bind]
    obtain ⟨hnext,hmem⟩ := h.foldl (st.memberships.entries.filter fun entry =>
      decide (entry.teamID = supervision.teamID ∧ entry.removedAt = none))
    obtain ⟨ids,hrun,hids⟩ := ih hnext
    refine ⟨ids,hrun,fun a => ?_⟩
    rw [hids, hmem, or_assoc]
    simp only [List.mem_filter, decide_eq_true_eq, List.exists_mem_cons_iff]
    have hteam : (∃ m, (m ∈ st.memberships.entries ∧ m.teamID = supervision.teamID ∧
        m.removedAt = none) ∧ m.userID = a) ↔ ∃ m ∈ st.memberships.entries,
        m.removedAt = none ∧ m.userID = a ∧ supervision.teamID = m.teamID := by
      constructor
      · rintro ⟨m,⟨hm,hteam,hactive⟩,huser⟩
        exact ⟨m,hm,hactive,huser,hteam.symm⟩
      · rintro ⟨m,hm,hactive,huser,hteam⟩
        exact ⟨m,⟨hm,hteam.symm,hactive⟩,huser⟩
    rw [hteam]

theorem run_supervisedAssigneeUserIDs (supervisorUserID : String) :
    ∃ ids, (supervisedAssigneeUserIDs ctx supervisorUserID).run (exec now) st = (.ok ids,st) ∧
      ∀ a, a ∈ ids ↔ ¬ Blank supervisorUserID ∧ st.Supervises (trimSpace supervisorUserID) a := by
  by_cases hblank : trimSpace supervisorUserID = ""
  · refine ⟨[],by simp only [supervisedAssigneeUserIDs, if_pos hblank, pure_eq, run_ret],?_⟩
    simp [Blank, hblank]
  · simp only [supervisedAssigneeUserIDs, if_neg hblank, call_bind, run_call, exec,
      MemorySupervisionStore.listActiveByUserID, fromResult_ok, ret_bind]
    have hnone : Remembers ([],fun _ => false) := fun a => by simp
    obtain ⟨ids,hrun,hids⟩ := run_collectMembers st now ctx
      (st.supervisions.entries.filter fun entry =>
        decide (entry.userID = trimSpace supervisorUserID ∧ entry.removedAt = none)) hnone
    refine ⟨ids,hrun,fun a => ?_⟩
    rw [hids]
    simp only [List.not_mem_nil, false_or, List.mem_filter, decide_eq_true_eq]
    constructor
    · rintro ⟨s,⟨hs,huser,hactive⟩,m,hm,hmactive,hmuser,hteam⟩
      exact ⟨hblank,m,hm,hmactive,hmuser,s,hs,hactive,hteam,huser⟩
    · rintro ⟨_,m,hm,hmactive,hmuser,s,hs,hactive,hteam,huser⟩
      exact ⟨s,⟨hs,huser,hactive⟩,m,hm,hmactive,hmuser,hteam⟩

end Questions

theorem MemoryMembershipStore.update_eq (s : MemoryMembershipStore) (row : Membership)
    (h : row.id ∈ s.entries.map (·.id)) : (s.update row).1 = .ok row ∧
      (s.update row).2.entries = s.entries.map fun e => if e.id = row.id then row else e := by
  refine overwritten_of_mem s.ids_nodup h ?_
  unfold update
  split
  · exact .inl ⟨_,‹_›,rfl,rfl⟩
  · exact .inr ‹_›

/-- A user without an active membership may be given one. -/
lemma SingleActive.concat {entries : List Membership} (h : SingleActive entries)
    {row : Membership} (hfree : ∀ m ∈ entries, m.removedAt = none → m.userID ≠ row.userID) :
    SingleActive (entries ++ [row]) := by
  intro m hm m' hm' hactive hactive' huser
  rw [List.mem_append, List.mem_singleton] at hm hm'
  rcases hm with hm | rfl <;> rcases hm' with hm' | rfl
  · exact h m hm m' hm' hactive hactive' huser
  · exact (hfree m hm hactive huser).elim
  · exact (hfree m' hm' hactive' huser.symm).elim
  · rfl

/-- Closing the active membership of a user leaves that user without one. -/
lemma SingleActive.close {s : MemoryMembershipStore} (h : SingleActive s.entries)
    {existing : Membership} (hmem : existing ∈ s.entries) (hactive : existing.removedAt = none)
    (now : Time) :
    SingleActive (s.update { existing with removedAt := some now }).2.entries ∧
    ∀ m ∈ (s.update { existing with removedAt := some now }).2.entries,
      m.removedAt = none → m.userID ≠ existing.userID := by
  have hid : existing.id ∈ s.entries.map (·.id) := List.mem_map_of_mem hmem
  rw [(s.update_eq { existing with removedAt := some now } hid).2]
  have hkept : ∀ m ∈ s.entries.map (fun e => if e.id = existing.id then
      { existing with removedAt := some now } else e), m.removedAt = none →
      m ∈ s.entries ∧ m.id ≠ existing.id := by
    intro m hm hopen
    obtain ⟨e,he,hm⟩ := List.mem_map.mp hm
    split_ifs at hm with heid
    · rw [← hm] at hopen; simp at hopen
    · rw [← hm]; exact ⟨he,heid⟩
  constructor
  · intro m hm m' hm' hopen hopen' huser
    exact h m (hkept m hm hopen).1 m' (hkept m' hm' hopen').1 hopen hopen' huser
  · intro m hm hopen huser
    obtain ⟨hold,hid⟩ := hkept m hm hopen
    exact hid (congrArg Membership.id (h m hold existing hmem hopen hactive huser))

theorem addAssignee_single (now : Time) (ctx : Context) (teamID userID addedByUserID : String)
    (st : State) (h : SingleActive st.memberships.entries) :
    SingleActive ((addAssignee ctx teamID userID addedByUserID).run (exec now)
      st).2.memberships.entries := by
  simp only [addAssignee, run_failIf_bind]
  split_ifs
  · exact h
  simp only [call_bind, run_call, exec, MemoryStore.getByID]
  cases st.teams.teams.find? fun team => decide (team.id = trimSpace teamID) with
  | none => simpa only [fromResult_error, fail_bind, run_fail] using h
  | some team =>
    simp only [fromResult_ok, ret_bind, run_call, exec, MemoryMembershipStore.getActiveByUserID]
    cases hfind : st.memberships.entries.find? fun entry =>
        decide (entry.userID = trimSpace userID ∧ entry.removedAt = none) with
    | none =>
      simp only [run_call, exec, run_fromResult]
      apply h.concat
      intro m hm hactive huser
      have := List.find?_eq_none.mp hfind m hm
      simp only [hactive, huser] at this
      simp at this
    | some existing =>
      have hmem := List.mem_of_find?_eq_some hfind
      have hfound : existing.userID = trimSpace userID ∧ existing.removedAt = none := by
        simpa using List.find?_some hfind
      simp only
      split_ifs
      · simpa only [pure_eq, run_ret] using h
      · obtain ⟨hsingle,hfree⟩ := h.close hmem hfound.2 now
        have hid : existing.id ∈ st.memberships.entries.map (·.id) := List.mem_map_of_mem hmem
        have hclosed := (st.memberships.update_eq { existing with removedAt := some now } hid).1
        simp only [run_call, exec, hclosed, fromResult_ok, ret_bind, run_fromResult]
        apply hsingle.concat
        rw [← hfound.1]
        exact hfree

/-- An operation that leaves the memberships alone. -/
def Op.KeepsMemberships : Op → Prop
  | .membershipCreate _ _ | .membershipUpdate _ _ => False
  | _ => True

lemma exec_memberships (now : Time) (op : Op) (h : op.KeepsMemberships) (st : State) :
    (exec now op st).2.memberships = st.memberships := by
  cases op <;> first | rfl | exact h.elim

lemma only_closeSupervisions (ctx : Context) (now : Time) (userID : String)
    (active : List Supervision) (found : Bool) :
    (closeSupervisions ctx now userID active found).Only Op.KeepsMemberships := by
  induction active generalizing found with
  | nil => exact only_ret _
  | cons supervision rest ih =>
    unfold closeSupervisions
    split_ifs
    · exact ih found
    · exact only_bind (only_call trivial fun r => only_fromResult r) fun _ => ih true

lemma only_createTeam (ctx : Context) (name : String) :
    (createTeam ctx name).Only Op.KeepsMemberships := by
  refine only_bind (only_failIf _ _) fun _ => only_bind ?_ fun _ => ?_
  · exact only_call trivial fun _ => only_ret _
  · exact only_call trivial fun r => only_fromResult r

lemma only_addSupervisor (ctx : Context) (teamID userID by_ : String) :
    (addSupervisor ctx teamID userID by_).Only Op.KeepsMemberships := by
  refine only_bind (only_failIf _ _) fun _ => ?_
  refine only_bind (only_call trivial fun r => only_fromResult r) fun _ => only_bind ?_ fun _ => ?_
  · exact only_call trivial fun _ => only_ret _
  · exact only_call trivial fun r => only_fromResult r

lemma only_removeSupervisor (ctx : Context) (teamID userID : String) :
    (removeSupervisor ctx teamID userID).Only Op.KeepsMemberships := by
  refine only_bind (only_call trivial fun r => only_fromResult r) fun active => ?_
  refine only_bind (only_call trivial fun _ => only_ret _) fun now => ?_
  exact only_bind (only_closeSupervisions _ _ _ active false) fun found => only_failIf _ _

/-- The step lemma: no call gives a user a second active membership. -/
theorem State.after_single (st : State) (now : Time) (c : Call)
    (h : SingleActive st.memberships.entries) :
    SingleActive (st.after now c).memberships.entries := by
  have hframe (p : M Unit) (hp : p.Only Op.KeepsMemberships) :
      SingleActive (p.run (exec now) st).2.memberships.entries := by
    have hsame := run_frame (exec now) State.memberships (exec_memberships now) hp st
    rw [hsame]
    exact h
  cases c with
  | createTeam name => exact hframe _ (only_bind (only_createTeam _ name) fun _ => only_ret _)
  | addAssignee teamID userID by_ =>
    have hadd := addAssignee_single now background teamID userID by_ st h
    unfold State.after Call.program
    rw [run_bind]
    generalize (addAssignee background teamID userID by_).run (exec now) st = out at hadd
    rcases out with ⟨_ | _,st'⟩ <;> simpa only [pure_eq, run_ret] using hadd
  | addSupervisor teamID userID by_ =>
    exact hframe _ (only_bind (only_addSupervisor _ teamID userID by_) fun _ => only_ret _)
  | removeSupervisor teamID userID => exact hframe _ (only_removeSupervisor _ teamID userID)

end OpsPlatform.Teams
