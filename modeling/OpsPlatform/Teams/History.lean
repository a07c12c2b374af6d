import OpsPlatform.Interaction.AppendOnly
import OpsPlatform.Interaction.Trace
import OpsPlatform.Teams.Scope

/-! The history of the teams over sequential runs. Rows are only ever added, or closed once; the
one open membership of a user is the one the last `AddAssignee` has asked for. -/
namespace OpsPlatform.Teams
open OpsPlatform.Go Interaction Program

/-- A call, the clock it read, its result, and the states it led between. -/
structure Exchange where
  call : Call
  now : Time
  before : State
  result : Except Error Unit
  after : State

/-- One call served, as a labelled step. -/
structure Serves (s : State) (x : Exchange) (t : State) : Prop where
  before : x.before = s
  after : x.after = t
  runs : (x.call.program background).run (exec x.now) s = (x.result,t)

/-- No run gives a user a second active membership. -/
lemma trace_single {xs : List Exchange} {t : State} (h : Trace Serves .empty xs t) :
    SingleActive t.memberships.entries := by
  refine h.inv (I := fun _ t => SingleActive t.memberships.entries) ?_ ?_
  · intro m hm
    cases hm
  · intro _ t x u hsingle hx
    have := t.after_single x.now x.call hsingle
    rwa [State.after, hx.runs] at this

/-- A row as it is, or closed at a time not before it was added. -/
def Ages {α : Type} (addedAt : α → Time) (removedAt : α → Option Time) (close : Time → α → α)
    (old new : α) : Prop :=
  new = old ∨ (removedAt old = none ∧ ∃ at_, addedAt old ≤ at_ ∧ new = close at_ old)

def Membership.close (at_ : Time) (row : Membership) : Membership :=
  { row with removedAt := some at_ }

def Supervision.close (at_ : Time) (row : Supervision) : Supervision :=
  { row with removedAt := some at_ }

abbrev Membership.Ages : Membership → Membership → Prop :=
  Teams.Ages Membership.addedAt Membership.removedAt Membership.close

abbrev Supervision.Ages : Supervision → Supervision → Prop :=
  Teams.Ages Supervision.addedAt Supervision.removedAt Supervision.close

section Ages
variable {α : Type} {addedAt : α → Time} {removedAt : α → Option Time} {close : Time → α → α}

lemma Ages.refl (a : α) : Ages addedAt removedAt close a a := .inl rfl

/-- A closed row stays as it is. -/
lemma Ages.trans (hclose : ∀ at_ a, removedAt (close at_ a) = some at_) {a b c : α}
    (h : Ages addedAt removedAt close a b) (h' : Ages addedAt removedAt close b c) :
    Ages addedAt removedAt close a c := by
  obtain rfl | ⟨hopen,at_,hle,rfl⟩ := h
  · exact h'
  · obtain rfl | ⟨hopen',_⟩ := h'
    · exact .inr ⟨hopen,at_,hle,rfl⟩
    · rw [hclose] at hopen'
      cases hopen'

end Ages

lemma Membership.Ages.trans (a b c : Membership) : a.Ages b → b.Ages c → a.Ages c :=
  Teams.Ages.trans fun at_ (row : Membership) => (rfl : (row.close at_).removedAt = some at_)

lemma Supervision.Ages.trans (a b c : Supervision) : a.Ages b → b.Ages c → a.Ages c :=
  Teams.Ages.trans fun at_ (row : Supervision) => (rfl : (row.close at_).removedAt = some at_)

/-- What may become of the rows of the stores. -/
structure State.Grows (s t : State) : Prop where
  memberships : Interaction.Grows Membership.Ages s.memberships.entries t.memberships.entries
  supervisions : Interaction.Grows Supervision.Ages s.supervisions.entries t.supervisions.entries

lemma State.Grows.refl (s : State) : s.Grows s := ⟨.refl Ages.refl _,.refl Ages.refl _⟩

lemma State.Grows.trans {s t u : State} (h : s.Grows t) (h' : t.Grows u) : s.Grows u :=
  ⟨h.memberships.trans Membership.Ages.trans h'.memberships,
    h.supervisions.trans Supervision.Ages.trans h'.supervisions⟩

/-- The open memberships of a user. -/
def State.active (s : State) (userID : String) : List Membership :=
  s.memberships.entries.filter fun row => row.userID = userID ∧ row.removedAt = none

lemma State.mem_active {s : State} {userID : String} {row : Membership} :
    row ∈ s.active userID ↔
      row ∈ s.memberships.entries ∧ row.userID = userID ∧ row.removedAt = none := by
  simp [active]

/-- No row was added after this instant. -/
structure State.AddedBy (s : State) (now : Time) : Prop where
  memberships : ∀ row ∈ s.memberships.entries, row.addedAt ≤ now
  supervisions : ∀ row ∈ s.supervisions.entries, row.addedAt ≤ now

/-- A change of the rows that closes some of the open ones. -/
def ClosesNow (now : Time) (f : Supervision → Supervision) : Prop :=
  ∀ e, f e = e ∨ (e.removedAt = none ∧ f e = e.close now)

/-- How a call ends. -/
inductive Outcome (now : Time) (s : State) : Call → Except Error Unit → State → Prop
  | failed (c : Call) (err : Error) : Outcome now s c (.error err) s
  | created (name : String) (teams : MemoryStore) :
      Outcome now s (.createTeam name) (.ok ()) { s with teams }
  | stayed {teamID userID addedByUserID : String} (row : Membership)
      (found : row ∈ s.active (trimSpace userID)) (team : row.teamID = trimSpace teamID) :
      Outcome now s (.addAssignee teamID userID addedByUserID) (.ok ()) s
  | joined {teamID userID addedByUserID : String} (row : Membership)
      (memberships : MemoryMembershipStore) (free : s.active (trimSpace userID) = [])
      (fresh : row.removedAt = none) (added : row.addedAt = now)
      (user : row.userID = trimSpace userID) (team : row.teamID = trimSpace teamID)
      (stored : memberships.entries = s.memberships.entries ++ [row]) :
      Outcome now s (.addAssignee teamID userID addedByUserID) (.ok ()) { s with memberships }
  | moved {teamID userID addedByUserID : String} (old row : Membership)
      (memberships : MemoryMembershipStore) (found : old ∈ s.active (trimSpace userID))
      (fresh : row.removedAt = none) (added : row.addedAt = now)
      (user : row.userID = trimSpace userID) (team : row.teamID = trimSpace teamID)
      (stored : memberships.entries = (s.memberships.entries.map fun e =>
        if e = old then old.close now else e) ++ [row]) :
      Outcome now s (.addAssignee teamID userID addedByUserID) (.ok ()) { s with memberships }
  | supervised {teamID userID addedByUserID : String} (row : Supervision)
      (supervisions : MemorySupervisionStore) (added : row.addedAt = now)
      (stored : supervisions.entries = s.supervisions.entries ++ [row]) :
      Outcome now s (.addSupervisor teamID userID addedByUserID) (.ok ()) { s with supervisions }
  | released (teamID userID : String) (supervisions : MemorySupervisionStore)
      (f : Supervision → Supervision) (closed : ClosesNow now f)
      (stored : supervisions.entries = s.supervisions.entries.map f) :
      Outcome now s (.removeSupervisor teamID userID) (.ok ()) { s with supervisions }

/-- Where ids are unique the row overwritten by `Update` is the row that was read. -/
lemma map_overwrite {α : Type} [DecidableEq α] (key : α → String) {l : List α}
    (hnodup : (l.map key).Nodup) {old new : α} (hold : old ∈ l) (hkey : key new = key old) :
    (l.map fun e => if key e = key new then new else e) =
      l.map fun e => if e = old then new else e := by
  apply List.map_congr_left
  intro e he
  refine if_congr ⟨fun h => ?_,fun h => by rw [h, hkey]⟩ rfl rfl
  exact List.inj_on_of_nodup_map hnodup he hold (h.trans hkey)

theorem MemorySupervisionStore.update_eq (s : MemorySupervisionStore) (row : Supervision)
    (h : row.id ∈ s.entries.map (·.id)) : (s.update row).1 = .ok row ∧
      (s.update row).2.entries = s.entries.map fun e => if e.id = row.id then row else e := by
  refine overwritten_of_mem s.ids_nodup h ?_
  unfold update
  split
  · exact .inl ⟨_,‹_›,rfl,rfl⟩
  · exact .inr ‹_›

section Spec
variable (now : Time) (s : State)

lemma outcome_createTeam (name : String) :
    Outcome now s (.createTeam name)
      (((Call.createTeam name).program background).run (exec now) s).1
      (((Call.createTeam name).program background).run (exec now) s).2 := by
  simp only [Call.program, createTeam, Program.bind_assoc, run_failIf_bind]
  split_ifs
  · exact .failed _ _
  · simp only [call_bind, ret_bind, run_call, exec, MemoryStore.create, fromResult_ok, pure_eq,
      run_ret]
    exact .created _ _

lemma outcome_addSupervisor (teamID userID addedByUserID : String) :
    Outcome now s (.addSupervisor teamID userID addedByUserID)
      (((Call.addSupervisor teamID userID addedByUserID).program background).run (exec now) s).1
      (((Call.addSupervisor teamID userID addedByUserID).program background).run (exec now) s).2 := by
  simp only [Call.program, addSupervisor, Program.bind_assoc, run_failIf_bind]
  split_ifs
  · exact .failed _ _
  simp only [call_bind, run_call, exec]
  cases s.teams.getByID (trimSpace teamID) with
  | error err =>
    simp only [fromResult_error, fail_bind, run_fail]
    exact .failed _ _
  | ok team =>
    simp only [fromResult_ok, ret_bind, run_call, exec, pure_eq,
      MemorySupervisionStore.create_fst, run_ret]
    exact .supervised _ _ rfl (s.supervisions.entries_create _)

lemma outcome_addAssignee (teamID userID addedByUserID : String) :
    Outcome now s (.addAssignee teamID userID addedByUserID)
      (((Call.addAssignee teamID userID addedByUserID).program background).run (exec now) s).1
      (((Call.addAssignee teamID userID addedByUserID).program background).run (exec now) s).2 := by
  simp only [Call.program, addAssignee, Program.bind_assoc, run_failIf_bind]
  split_ifs
  · exact .failed _ _
  simp only [call_bind, run_call, exec]
  cases s.teams.getByID (trimSpace teamID) with
  | error err =>
    simp only [fromResult_error, fail_bind, run_fail]
    exact .failed _ _
  | ok team =>
    simp only [fromResult_ok, ret_bind, run_call, exec, MemoryMembershipStore.getActiveByUserID]
    cases hfind : s.memberships.entries.find? fun entry =>
        decide (entry.userID = trimSpace userID ∧ entry.removedAt = none) with
    | none =>
      have hfree : s.active (trimSpace userID) = [] := by
        rw [State.active, List.filter_eq_nil_iff]
        exact List.find?_eq_none.mp hfind
      simp only [call_bind, run_call, exec, MemoryMembershipStore.create_fst, fromResult_ok,
        ret_bind, pure_eq, run_ret]
      exact .joined _ _ hfree rfl rfl rfl rfl (s.memberships.entries_create _)
    | some existing =>
      have hmem := List.mem_of_find?_eq_some hfind
      have hfound : existing ∈ s.active (trimSpace userID) := by
        rw [State.mem_active]
        exact ⟨hmem,by simpa using List.find?_some hfind⟩
      simp only
      split_ifs with hteam
      · simp only [pure_eq, ret_bind, run_ret]
        exact .stayed existing hfound hteam
      · have hid : existing.id ∈ s.memberships.entries.map (·.id) := List.mem_map_of_mem hmem
        obtain ⟨hok,hstored⟩ := s.memberships.update_eq (existing.close now) hid
        rw [map_overwrite (·.id) s.memberships.ids_nodup hmem
          (rfl : (existing.close now).id = existing.id)] at hstored
        simp only [Membership.close] at hok
        simp only [call_bind, run_call, exec, hok, fromResult_ok, ret_bind, pure_eq, run_ret,
          MemoryMembershipStore.create_fst]
        refine .moved existing _ _ hfound ?_ ?_ ?_ ?_
          ((MemoryMembershipStore.entries_create _ _).trans (congrArg (· ++ [_]) hstored))
        all_goals rfl

/-- The loop of `RemoveSupervisor` over rows that were read as open: it closes those of the user. -/
lemma run_closeSupervisions (ctx : Context) (userID : String) (active : List Supervision) (found : Bool)
    (hopen : ∀ a ∈ active, a ∈ s.supervisions.entries ∧ a.removedAt = none)
    (hnodup : active.Nodup) : ∃ supervisions,
      (closeSupervisions ctx now userID active found).run (exec now) s =
        (.ok (found || active.any fun a => a.userID = userID),{ s with supervisions }) ∧
      ((active.any fun a => a.userID = userID) = false → supervisions = s.supervisions) ∧
      supervisions.entries = s.supervisions.entries.map fun e =>
        if e ∈ active ∧ e.userID = userID then e.close now else e := by
  induction active generalizing s found with
  | nil => exact ⟨s.supervisions,by simp [closeSupervisions],fun _ => rfl,by simp⟩
  | cons a rest ih =>
    rw [List.nodup_cons] at hnodup
    obtain ⟨⟨hmem,ha⟩,hrest⟩ := List.forall_mem_cons.mp hopen
    rw [closeSupervisions]
    split_ifs with huser
    · obtain ⟨supervisions,hrun,hsame,hentries⟩ := ih s found hrest hnodup.2
      have hskip : ∀ e, (e ∈ a :: rest ∧ e.userID = userID) ↔ e ∈ rest ∧ e.userID = userID := by
        intro e
        refine and_congr_left fun he => ⟨fun h => (List.mem_cons.mp h).resolve_left ?_,
          List.mem_cons_of_mem a⟩
        rintro rfl
        exact huser he
      refine ⟨supervisions,by simpa [huser] using hrun,by simpa [huser] using hsame,?_⟩
      simpa only [hskip] using hentries
    · rw [not_ne_iff] at huser
      have hid : a.id ∈ s.supervisions.entries.map (·.id) := List.mem_map_of_mem hmem
      obtain ⟨hok,hstored⟩ := s.supervisions.update_eq (a.close now) hid
      rw [map_overwrite (·.id) s.supervisions.ids_nodup hmem
        (rfl : (a.close now).id = a.id)] at hstored
      simp only [Supervision.close] at hok
      simp only [call_bind, run_call, exec, hok, fromResult_ok, ret_bind]
      -- the rows still to come are others, and so unchanged by this update
      have hkept : ∀ b ∈ rest, b ∈ (s.supervisions.update (a.close now)).2.entries ∧
          b.removedAt = none := by
        intro b hb
        refine ⟨?_,(hrest b hb).2⟩
        rw [hstored, List.mem_map]
        refine ⟨b,(hrest b hb).1,if_neg ?_⟩
        rintro rfl
        exact hnodup.1 hb
      obtain ⟨supervisions,hrun,_,hentries⟩ :=
        ih { s with supervisions := (s.supervisions.update (a.close now)).2 } true hkept hnodup.2
      have hany : ((a :: rest).any fun a => a.userID = userID) = true := by simp [huser]
      refine ⟨supervisions,?_,fun h => (by cases hany.symm.trans h),?_⟩
      · rw [hany, Bool.or_true]
        exact hrun
      rw [hentries, hstored, List.map_map]
      refine List.map_congr_left fun e _ => ?_
      rw [Function.comp_apply]
      by_cases he : e = a
      · subst he
        have hclosed : e.close now ∉ rest := by
          intro h
          cases (hrest _ h).2
        rw [if_pos rfl, if_neg fun h => hclosed h.1, if_pos ⟨List.mem_cons_self,huser⟩]
      · rw [if_neg he]
        simp only [List.mem_cons, he, false_or]

/-- The user has an open supervision of the team. -/
def State.Supervising (s : State) (teamID userID : String) : Prop :=
  ∃ row ∈ s.supervisions.entries, row.teamID = teamID ∧ row.userID = userID ∧ row.removedAt = none

/-- `RemoveSupervisor` closes the open supervisions of the team by the user, and none is an error. -/
lemma run_removeSupervisor (ctx : Context) (teamID userID : String) :
    (¬ s.Supervising (trimSpace teamID) (trimSpace userID) ∧
      (removeSupervisor ctx teamID userID).run (exec now) s = (.error errNotSupervisor,s)) ∨
    (s.Supervising (trimSpace teamID) (trimSpace userID) ∧ ∃ supervisions,
      (removeSupervisor ctx teamID userID).run (exec now) s = (.ok (),{ s with supervisions }) ∧
      supervisions.entries = s.supervisions.entries.map fun e =>
        if e.teamID = trimSpace teamID ∧ e.userID = trimSpace userID ∧ e.removedAt = none then
          e.close now else e) := by
  simp only [removeSupervisor, call_bind, run_call, exec,
    MemorySupervisionStore.listActiveByTeamID, fromResult_ok, ret_bind]
  obtain ⟨supervisions,hrun,hsame,hentries⟩ := run_closeSupervisions now s ctx
    (trimSpace userID) (s.supervisions.entries.filter fun entry =>
      decide (entry.teamID = trimSpace teamID ∧ entry.removedAt = none)) false
    (fun a ha => by
      obtain ⟨hmem,ha⟩ := List.mem_filter.mp ha
      exact ⟨hmem,(of_decide_eq_true ha).2⟩)
    (List.Nodup.filter _ (List.Nodup.of_map _ s.supervisions.ids_nodup))
  rw [run_bind_ok _ hrun, Bool.false_or]
  have hany : ((s.supervisions.entries.filter fun entry =>
      decide (entry.teamID = trimSpace teamID ∧ entry.removedAt = none)).any
      fun a => a.userID = trimSpace userID) = true ↔
      s.Supervising (trimSpace teamID) (trimSpace userID) := by
    simp only [List.any_eq_true, List.mem_filter, decide_eq_true_eq, State.Supervising]
    constructor
    · rintro ⟨row,⟨hmem,hteam,hopen⟩,huser⟩
      exact ⟨row,hmem,hteam,huser,hopen⟩
    · rintro ⟨row,hmem,hteam,huser,hopen⟩
      exact ⟨row,⟨hmem,hteam,hopen⟩,huser⟩
  by_cases hsupervising : s.Supervising (trimSpace teamID) (trimSpace userID)
  · refine .inr ⟨hsupervising,supervisions,?_,?_⟩
    · rw [hany.mpr hsupervising, failIf_false (by simp), run_ret]
    · rw [hentries]
      refine List.map_congr_left fun e he => if_congr ?_ rfl rfl
      rw [List.mem_filter, decide_eq_true_eq]
      constructor
      · rintro ⟨⟨_,hteam,hopen⟩,huser⟩
        exact ⟨hteam,huser,hopen⟩
      · rintro ⟨hteam,huser,hopen⟩
        exact ⟨⟨he,hteam,hopen⟩,huser⟩
  · have hnone := Bool.eq_false_iff.mpr fun h => hsupervising (hany.mp h)
    refine .inl ⟨hsupervising,?_⟩
    rw [hnone, failIf_true (by simp), run_fail, hsame hnone]

lemma outcome_removeSupervisor (teamID userID : String) :
    Outcome now s (.removeSupervisor teamID userID)
      (((Call.removeSupervisor teamID userID).program background).run (exec now) s).1
      (((Call.removeSupervisor teamID userID).program background).run (exec now) s).2 := by
  rw [Call.program]
  obtain ⟨_,hrun⟩ | ⟨_,supervisions,hrun,hentries⟩ :=
    run_removeSupervisor now s background teamID userID
  · rw [hrun]
    exact .failed _ _
  · rw [hrun]
    refine .released _ _ _ _ (fun e => ?_) hentries
    split_ifs with he
    · exact .inr ⟨he.2.2,rfl⟩
    · exact .inl rfl

lemma Call.outcome (c : Call) :
    Outcome now s c ((c.program background).run (exec now) s).1
      ((c.program background).run (exec now) s).2 := by
  cases c with
  | createTeam name => exact outcome_createTeam now s name
  | addAssignee teamID userID by_ => exact outcome_addAssignee now s teamID userID by_
  | addSupervisor teamID userID by_ => exact outcome_addSupervisor now s teamID userID by_
  | removeSupervisor teamID userID => exact outcome_removeSupervisor now s teamID userID

/-- What `TeamExists` answers yes to is the id of a stored team. -/
lemma run_teamExists (ctx : Context) (teamID : String) :
    ∃ known, (teamExists ctx teamID).run (exec now) s = (.ok known,s) ∧
      (known = true → ¬ Blank teamID ∧ ∃ team, s.teams.getByID teamID = .ok team) := by
  unfold teamExists
  split_ifs with hblank
  · exact ⟨false,by rw [pure_eq, run_ret],fun h => by cases h⟩
  · rw [run_call]
    simp only [exec]
    cases hget : s.teams.getByID teamID with
    | ok team => exact ⟨true,by simp,fun _ => ⟨hblank,team,rfl⟩⟩
    | error err =>
      have herr : err = errNotFound := by
        unfold MemoryStore.getByID at hget
        split at hget
        · cases hget
        · exact (Except.error.inj hget).symm
      exact ⟨false,by simp [herr],fun h => by cases h⟩

lemma active_create (memberships : MemoryMembershipStore) {row : Membership}
    (hopen : row.removedAt = none) : { row with id := membershipID (memberships.seq+1) } ∈
      ({ s with memberships := (memberships.create row).2 } : State).active row.userID := by
  refine State.mem_active.mpr ⟨?_,rfl,hopen⟩
  rw [MemoryMembershipStore.entries_create]
  exact List.mem_append_right _ (List.mem_singleton_self _)

section Known
variable {teamID userID addedByUserID : String} {team : Team} (hteamID : ¬ Blank teamID)
  (huserID : ¬ Blank userID) (hby : ¬ Blank addedByUserID)
  (hteam : s.teams.getByID (trimSpace teamID) = .ok team)
include hteamID huserID hby hteam

/-- Nothing but a bad id makes `AddAssignee` fail. -/
lemma run_addAssignee_known (ctx : Context) : ∃ row memberships,
    (addAssignee ctx teamID userID addedByUserID).run (exec now) s =
      (.ok row,{ s with memberships }) ∧
    ∃ row ∈ ({ s with memberships } : State).active (trimSpace userID),
      row.teamID = trimSpace teamID := by
  have hids : ¬ (trimSpace teamID = "" ∨ trimSpace userID = "" ∨ trimSpace addedByUserID = "") :=
    fun h => h.elim hteamID fun h => h.elim huserID hby
  simp only [addAssignee, run_failIf_bind, if_neg hids, call_bind, run_call, exec, hteam,
    fromResult_ok, ret_bind, MemoryMembershipStore.getActiveByUserID]
  generalize trimSpace teamID = teamID, trimSpace userID = userID, trimSpace addedByUserID = by_
  cases hfind : s.memberships.entries.find? fun entry =>
      decide (entry.userID = userID ∧ entry.removedAt = none) with
  | none =>
    simp only [run_call, exec, MemoryMembershipStore.create_fst, fromResult_ok, run_ret]
    exact ⟨_,_,rfl,_,active_create s _ rfl,rfl⟩
  | some existing =>
    have hmem := List.mem_of_find?_eq_some hfind
    simp only
    split_ifs with hsame
    · refine ⟨existing,s.memberships,run_ret _ _ _,existing,?_,hsame⟩
      exact State.mem_active.mpr ⟨hmem,by simpa using List.find?_some hfind⟩
    · have hid : existing.id ∈ s.memberships.entries.map (·.id) := List.mem_map_of_mem hmem
      have hok := (s.memberships.update_eq (existing.close now) hid).1
      simp only [Membership.close] at hok
      simp only [run_call, exec, hok, fromResult_ok, ret_bind, MemoryMembershipStore.create_fst, run_ret]
      exact ⟨_,_,rfl,_,active_create s _ rfl,rfl⟩

lemma run_addSupervisor_known (ctx : Context) : ∃ row supervisions,
    (addSupervisor ctx teamID userID addedByUserID).run (exec now) s =
      (.ok row,{ s with supervisions }) ∧
    ({ s with supervisions } : State).Supervising (trimSpace teamID) (trimSpace userID) := by
  have hids : ¬ (trimSpace teamID = "" ∨ trimSpace userID = "" ∨ trimSpace addedByUserID = "") :=
    fun h => h.elim hteamID fun h => h.elim huserID hby
  simp only [addSupervisor, run_failIf_bind, if_neg hids, call_bind, run_call, exec, hteam,
    fromResult_ok, ret_bind, MemorySupervisionStore.create_fst, run_ret]
  generalize trimSpace teamID = teamID, trimSpace userID = userID, trimSpace addedByUserID = by_
  refine ⟨_,_,rfl,⟨supervisionID (s.supervisions.seq+1),teamID,userID,by_,now,none⟩,?_,rfl,rfl,rfl⟩
  rw [MemorySupervisionStore.entries_create]
  exact List.mem_append_right _ (List.mem_singleton_self _)

end Known

end Spec

lemma Serves.outcome {s t : State} {x : Exchange} (h : Serves s x t) :
    Outcome x.now s x.call x.result t := by
  have := x.call.outcome x.now s
  rwa [h.runs] at this

lemma Outcome.grows {now : Time} {s t : State} {c : Call} {result : Except Error Unit}
    (h : Outcome now s c result t) (hadded : s.AddedBy now) : s.Grows t := by
  have hrefl := State.Grows.refl s
  cases h with
  | failed | created | stayed => exact ⟨hrefl.memberships,hrefl.supervisions⟩
  | joined row memberships _ _ _ _ _ hstored =>
    refine ⟨?_,hrefl.supervisions⟩
    rw [hstored]
    exact hrefl.memberships.concat row
  | moved old row memberships hfound _ _ _ _ hstored =>
    refine ⟨?_,hrefl.supervisions⟩
    rw [hstored]
    refine (Interaction.Grows.map _ fun e he => ?_).concat row
    split_ifs with hold
    · subst hold
      exact .inr ⟨(State.mem_active.mp hfound).2.2,now,hadded.memberships e he,rfl⟩
    · exact .refl e
  | supervised row supervisions _ hstored =>
    refine ⟨hrefl.memberships,?_⟩
    rw [hstored]
    exact hrefl.supervisions.concat row
  | released _ _ supervisions f hf hstored =>
    refine ⟨hrefl.memberships,?_⟩
    rw [hstored]
    refine .map f fun e he => ?_
    obtain hsame | ⟨hopen,hclosed⟩ := hf e
    · exact .inl hsame
    · exact .inr ⟨hopen,now,hadded.supervisions e he,hclosed⟩

lemma State.AddedBy.mono {s : State} {now later : Time} (h : s.AddedBy now) (hle : now ≤ later) :
    s.AddedBy later :=
  ⟨fun row hrow => Int.le_trans (h.memberships row hrow) hle,
    fun row hrow => Int.le_trans (h.supervisions row hrow) hle⟩

lemma Outcome.addedBy {now : Time} {s t : State} {c : Call} {result : Except Error Unit}
    (h : Outcome now s c result t) (hadded : s.AddedBy now) : t.AddedBy now := by
  cases h with
  | failed | created | stayed => exact ⟨hadded.memberships,hadded.supervisions⟩
  | joined row memberships _ _ hnow _ _ hstored =>
    refine ⟨?_,hadded.supervisions⟩
    rw [hstored, List.forall_mem_append, List.forall_mem_singleton]
    exact ⟨hadded.memberships,Int.le_of_eq hnow⟩
  | moved old row memberships _ _ hnow _ _ hstored =>
    refine ⟨?_,hadded.supervisions⟩
    rw [hstored, List.forall_mem_append, List.forall_mem_singleton, List.forall_mem_map]
    refine ⟨fun e he => ?_,Int.le_of_eq hnow⟩
    split_ifs with hold
    · subst hold
      exact hadded.memberships e he
    · exact hadded.memberships e he
  | supervised row supervisions hnow hstored =>
    refine ⟨hadded.memberships,?_⟩
    rw [hstored, List.forall_mem_append, List.forall_mem_singleton]
    exact ⟨hadded.supervisions,Int.le_of_eq hnow⟩
  | released _ _ supervisions f hf hstored =>
    refine ⟨hadded.memberships,?_⟩
    rw [hstored, List.forall_mem_map]
    intro e he
    obtain hsame | ⟨_,hclosed⟩ := hf e
    · rw [hsame]
      exact hadded.supervisions e he
    · rw [hclosed]
      exact hadded.supervisions e he

/-- The team a call has put a user on. -/
def Call.assigns (userID : String) : Call → Except Error Unit → Option String
  | .addAssignee teamID user _, .ok _ =>
    if trimSpace user = userID then some (trimSpace teamID) else none
  | _, _ => none

/-- The teams the calls of a run have put a user on, the last one at the end. -/
def assigned (userID : String) (xs : List Exchange) : List String :=
  xs.filterMap fun x => x.call.assigns userID x.result

lemma assigned_concat (userID : String) (xs : List Exchange) (x : Exchange) :
    assigned userID (xs ++ [x]) =
      assigned userID xs ++ (x.call.assigns userID x.result).toList := by
  rw [assigned, List.filterMap_append]
  cases hassigns : x.call.assigns userID x.result <;> simp [hassigns, assigned]

/-- Overwriting rows by a closed one takes them out of the open ones. -/
lemma filter_close {closed : Membership} (hclosed : closed.removedAt ≠ none) (c : Membership → Prop)
    [DecidablePred c] (userID : String) (l : List Membership) :
    ((l.map fun e => if c e then closed else e).filter fun row =>
        row.userID = userID ∧ row.removedAt = none) =
      (l.filter fun row => row.userID = userID ∧ row.removedAt = none).filter fun e => ¬ c e := by
  induction l with
  | nil => rfl
  | cons e l ih =>
    rw [List.map_cons]
    by_cases he : c e
    · rw [if_pos he, List.filter_cons_of_neg (by simp [hclosed]), ih]
      by_cases hopen : e.userID = userID ∧ e.removedAt = none
      · simp [hopen, he]
      · simp [hopen]
    · rw [if_neg he]
      by_cases hopen : e.userID = userID ∧ e.removedAt = none
      · rw [List.filter_cons_of_pos (by simpa using hopen), ih,
          List.filter_cons_of_pos (by simpa using hopen), List.filter_cons_of_pos (by simpa using he)]
      · rw [List.filter_cons_of_neg (by simpa using hopen), ih,
          List.filter_cons_of_neg (by simpa using hopen)]

lemma active_concat {s : State} {memberships : MemoryMembershipStore} {l : List Membership}
    {row : Membership} (hstored : memberships.entries = l ++ [row]) (hopen : row.removedAt = none)
    (userID : String) : ({ s with memberships } : State).active userID =
      l.filter (fun row => row.userID = userID ∧ row.removedAt = none) ++
        if row.userID = userID then [row] else [] := by
  rw [State.active, hstored, List.filter_append]
  by_cases huser : row.userID = userID <;> simp [huser, hopen]

/-- A row among at most one is that one. -/
lemma map_eq_toList {α β : Type} {f : α → β} {l : List α} {b : Option β} {a : α}
    (h : l.map f = b.toList) (ha : a ∈ l) : l = [a] := by
  have hlength : l.length ≤ 1 := by
    rw [← List.length_map f, h]
    cases b <;> simp
  match l, ha, hlength with
  | [_], ha, _ => rw [List.mem_singleton.mp ha]

/-- The step lemma: what a call makes of the open row of a user. -/
lemma Outcome.active {now : Time} {s t : State} {c : Call} {result : Except Error Unit}
    (h : Outcome now s c result t) {userID : String} {team : Option String}
    (hheld : (s.active userID).map (·.teamID) = team.toList) :
    (t.active userID).map (·.teamID) = ((c.assigns userID result).or team).toList := by
  cases h with
  | failed c err => cases c <;> exact hheld
  | created | supervised | released => exact hheld
  | @stayed teamID user by_ row hfound hteam =>
    by_cases huser : trimSpace user = userID
    · subst huser
      rw [map_eq_toList hheld hfound]
      simp [Call.assigns, hteam]
    · simpa [Call.assigns, huser] using hheld
  | @joined teamID user by_ row memberships hfree hopen _ hrow hteam hstored =>
    rw [active_concat hstored hopen, hrow, ← State.active]
    by_cases huser : trimSpace user = userID
    · subst huser
      rw [hfree]
      simp [Call.assigns, hteam]
    · rw [if_neg huser, List.append_nil]
      simpa [Call.assigns, huser] using hheld
  | @moved teamID user by_ old row memberships hfound hopen _ hrow hteam hstored =>
    rw [active_concat hstored hopen, hrow, filter_close (by simp [Membership.close]),
      ← State.active]
    by_cases huser : trimSpace user = userID
    · subst huser
      rw [map_eq_toList hheld hfound]
      simp [Call.assigns, hteam]
    · have hothers : (s.active userID).filter (· ≠ old) = s.active userID := by
        rw [List.filter_eq_self]
        intro row hrow
        rw [decide_eq_true_eq]
        rintro rfl
        exact huser ((State.mem_active.mp hfound).2.1.symm.trans (State.mem_active.mp hrow).2.1)
      rw [hothers, if_neg huser, List.append_nil]
      simpa [Call.assigns, huser] using hheld

/-- The run lemma: the one open row of a user is on the team the user was put on last. -/
lemma active_eq {xs : List Exchange} {t : State} (h : Trace Serves .empty xs t)
    (userID : String) : (t.active userID).map (·.teamID) = (assigned userID xs).getLast?.toList := by
  refine h.inv (I := fun xs t =>
    (t.active userID).map (·.teamID) = (assigned userID xs).getLast?.toList) rfl ?_
  intro xs t x u hheld hx
  rw [hx.outcome.active hheld, assigned_concat, List.getLast?_append]
  cases x.call.assigns userID x.result <;> rfl

/-- The run lemma for the rows: each state, and each row of it, lives on in the states after. -/
lemma history {xs : List Exchange} {t : State} (h : Trace Serves .empty xs t)
    (hclock : xs.Pairwise fun x y => x.now ≤ y.now) :
    (∀ x ∈ xs, x.before.Grows x.after ∧ x.after.Grows t) ∧
      ∀ now, (∀ x ∈ xs, x.now ≤ now) → t.AddedBy now := by
  induction h with
  | nil => exact ⟨by simp,fun now _ => ⟨by simp [State.empty, MemoryMembershipStore.new],
      by simp [State.empty, MemorySupervisionStore.new]⟩⟩
  | @snoc t u xs x _ hx ih =>
    rw [List.pairwise_append] at hclock
    obtain ⟨hgrows,hadded⟩ := ih hclock.1
    have hnow : t.AddedBy x.now := hadded x.now fun y hy => hclock.2.2 y hy x (by simp)
    have hstep := hx.outcome.grows hnow
    refine ⟨fun y hy => ?_,fun now hbound => ?_⟩
    · rw [List.mem_append, List.mem_singleton] at hy
      obtain hy | rfl := hy
      · exact ⟨(hgrows y hy).1,(hgrows y hy).2.trans hstep⟩
      · rw [hx.before, hx.after]
        exact ⟨hstep,.refl u⟩
    · exact (hx.outcome.addedBy hnow).mono (hbound x (by simp))

lemma Outcome.of_error {now : Time} {s t : State} {c : Call} {err : Error}
    (h : Outcome now s c (.error err) t) : t = s := by
  cases h
  rfl

lemma mem_assigned {userID teamID : String} {xs : List Exchange} :
    teamID ∈ assigned userID xs ↔ ∃ x ∈ xs, ∃ teamID' user addedByUserID,
      x.call = .addAssignee teamID' user addedByUserID ∧ trimSpace user = userID ∧
        x.result = .ok () ∧ trimSpace teamID' = teamID := by
  rw [assigned, List.mem_filterMap]
  refine exists_congr fun x => and_congr_right fun _ => ?_
  obtain ⟨c,now,before,result,after⟩ := x
  cases c <;> cases result <;> simp [Call.assigns]

/-- Every user has at most one open membership: there is one exactly if the user was ever put on a
team, and it is on the team of the last time. Rows stay, and change only by being closed once, not
before they were added; a call that fails changes nothing. -/
theorem membership_history {xs : List Exchange} {t : State} (h : Trace Serves .empty xs t)
    (hclock : xs.Pairwise fun x y => x.now ≤ y.now) :
    (∀ userID, (t.active userID).length ≤ 1 ∧
      ((t.active userID).length = 1 ↔ ∃ x ∈ xs, ∃ teamID user addedByUserID,
        x.call = .addAssignee teamID user addedByUserID ∧ trimSpace user = userID ∧
          x.result = .ok ()) ∧
      ∀ row ∈ t.active userID, some row.teamID = (assigned userID xs).getLast?) ∧
    ∀ x ∈ xs, x.before.Grows x.after ∧ x.after.Grows t ∧
      ∀ err, x.result = .error err → x.after = x.before := by
  refine ⟨fun userID => ?_,fun x hx => ?_⟩
  · have hactive := active_eq h userID
    have hlength : (t.active userID).length = (assigned userID xs).getLast?.toList.length := by
      rw [← hactive, List.length_map]
    cases hlast : (assigned userID xs).getLast? with
    | none =>
      rw [hlast] at hactive hlength
      have hnone := List.getLast?_eq_none_iff.mp hlast
      refine ⟨by simp [hlength],?_,by simp [List.map_eq_nil_iff.mp hactive]⟩
      refine iff_of_false (by simp [hlength]) ?_
      rintro ⟨x,hx,teamID,user,by_,hcall,huser,hok⟩
      have := mem_assigned.mpr ⟨x,hx,teamID,user,by_,hcall,huser,hok,rfl⟩
      rw [hnone] at this
      cases this
    | some teamID =>
      rw [hlast] at hactive hlength
      refine ⟨by simp [hlength],?_,fun row hrow => ?_⟩
      · refine iff_of_true (by simp [hlength]) ?_
        obtain ⟨x,hx,teamID',user,by_,hcall,huser,hok,_⟩ :=
          mem_assigned.mp (List.mem_of_getLast? hlast)
        exact ⟨x,hx,teamID',user,by_,hcall,huser,hok⟩
      · have hmem := List.mem_map_of_mem (f := Membership.teamID) hrow
        rw [hactive] at hmem
        simpa using hmem
  · obtain ⟨hgrows,hlater⟩ := (history h hclock).1 x hx
    refine ⟨hgrows,hlater,fun err herr => ?_⟩
    refine h.forall_label (P := fun x => ∀ err, x.result = .error err → x.after = x.before) ?_ x hx
      err herr
    intro s x t hserves err herr
    have hout := hserves.outcome
    rw [herr] at hout
    rw [hserves.before, hserves.after, hout.of_error]

/-- A call at an instant, as it is served from a state. -/
def Exchange.of (r : Call × Time) (s : State) : Exchange :=
  let out := (r.1.program background).run (exec r.2) s
  ⟨r.1,r.2,s,out.1,out.2⟩

/-- The state after these calls. -/
def State.afterAll (s : State) (rs : List (Call × Time)) : State :=
  rs.foldl (fun s r => s.after r.2 r.1) s

/-- Every sequence of calls makes a run. -/
lemma trace_of (s : State) (rs : List (Call × Time)) :
    Trace Serves s (labels Exchange.of Exchange.after s rs) (s.afterAll rs) := by
  induction rs generalizing s with
  | nil => exact .nil
  | cons r rs ih => exact (Trace.one ⟨rfl,rfl,rfl⟩).append (ih _)

/-- Two teams, and a user who is put on the one and then on the other. -/
def sampleMove : List (Call × Time) :=
  [(.createTeam "North",1),(.createTeam "South",2),(.addAssignee "team-0001" " ada" "root",3),
    (.addAssignee "team-0002" "ada" "root",4)]

theorem membership_history_move :
    ∃ t, Trace Serves .empty (labels Exchange.of Exchange.after .empty sampleMove) t ∧
      (t.active "ada").length = 1 ∧ ∀ row ∈ t.active "ada", row.teamID = "team-0002" := by
  have h := trace_of .empty sampleMove
  obtain ⟨hone,hiff,hteam⟩ := (membership_history h (by decide +kernel)).1 "ada"
  have hlast : (assigned "ada" (labels Exchange.of Exchange.after .empty sampleMove)).getLast? =
      some "team-0002" := by decide +kernel
  refine ⟨_,h,hiff.mpr ?_,fun row hrow => ?_⟩
  · obtain ⟨x,hx,teamID,user,by_,hcall,huser,hok,_⟩ :=
      mem_assigned.mp (List.mem_of_getLast? hlast)
    exact ⟨x,hx,teamID,user,by_,hcall,huser,hok⟩
  · exact Option.some.inj ((hteam row hrow).trans hlast)

end OpsPlatform.Teams
