import OpsPlatform.Workitems.Simulation

/-! What a work item, its assignment row and its two histories tell about each other, after any
sequence of calls from empty stores. -/
namespace OpsPlatform.Workitems
open OpsPlatform.Go Interaction Program

/-- The moves of the work item `id` that succeeded among these requests, in order. -/
def movesOf (hasNotifier hasTeamAuthority : Bool) (rs : List Request) (id : String) : List Act :=
  (transcript (serve (.inMemory hasNotifier hasTeamAuthority)) .empty rs).flatMap (actsOn id)

/-- What `ListStatusHistory` answers to an admin after these requests. -/
def statusHistoryOf (hasNotifier hasTeamAuthority : Bool) (rs : List Request) (at_ : Request)
    (id callerUserID : String) (supervisor : Bool) : Except Error Reply :=
  (serve (.inMemory hasNotifier hasTeamAuthority)
    { at_ with call := .listStatusHistory id callerUserID true supervisor }
    (finalState hasNotifier hasTeamAuthority rs)).1

/-- What `ListAssignmentHistory` answers to an admin after these requests. -/
def assignmentHistoryOf (hasNotifier hasTeamAuthority : Bool) (rs : List Request) (at_ : Request)
    (id callerUserID : String) (supervisor : Bool) : Except Error Reply :=
  (serve (.inMemory hasNotifier hasTeamAuthority)
    { at_ with call := .listAssignmentHistory id callerUserID true supervisor }
    (finalState hasNotifier hasTeamAuthority rs)).1

/-- Both histories are sorted, and no entry is younger than a request still to come. -/
structure State.Timed (st : State) (rs : List Request) : Prop where
  history : st.history.entries.Pairwise fun a b => a.createdAt ≤ b.createdAt
  assignmentHistory : st.assignmentHistory.entries.Pairwise fun a b => a.createdAt ≤ b.createdAt
  history_le : ∀ entry ∈ st.history.entries, ∀ r ∈ rs, entry.createdAt ≤ r.now
  assignmentHistory_le : ∀ entry ∈ st.assignmentHistory.entries, ∀ r ∈ rs, entry.createdAt ≤ r.now

section Clock
variable {s : Service} {st st' : State} {r : Request} {rs : List Request}

/-- An effect appends at most one entry to each history, stamped with the time of the request. -/
lemma Effect.appends {env : Env} {ctx : Context} {c : Call} {out : Except Error Reply}
    (h : Effect s env ctx st c out st') :
    (∃ new, st'.history.entries = st.history.entries ++ new ∧ new.length ≤ 1 ∧
      ∀ entry ∈ new, entry.createdAt = env.now) ∧
    (∃ new, st'.assignmentHistory.entries = st.assignmentHistory.entries ++ new ∧
      new.length ≤ 1 ∧ ∀ entry ∈ new, entry.createdAt = env.now) := by
  cases h with
  | create => exact ⟨⟨[],by simp⟩,[],by simp⟩
  | update => exact ⟨⟨[],by simp⟩,[],by simp⟩
  | changeStatus => exact ⟨⟨[_],rfl,by simp,by simp [statusEntry]⟩,[],by simp⟩
  | assignWorkItem =>
    exact ⟨⟨[_],rfl,by simp,by simp [statusEntry]⟩,[_],rfl,by simp,by simp [assignmentEvent]⟩
  | respondToAssignment =>
    exact ⟨⟨[_],rfl,by simp,by simp [statusEntry]⟩,[_],rfl,by simp,by simp [assignmentEvent]⟩

lemma pairwise_append_new {α : Type} {stamp : α → Time} {old new : List α} {now : Time}
    (hold : old.Pairwise fun a b => stamp a ≤ stamp b) (hnow : ∀ a ∈ old, stamp a ≤ now)
    (hlength : new.length ≤ 1) (hnew : ∀ a ∈ new, stamp a = now) :
    (old ++ new).Pairwise fun a b => stamp a ≤ stamp b := by
  rw [List.pairwise_append]
  refine ⟨hold,?_,fun a ha b hb => (hnew b hb).symm ▸ hnow a ha⟩
  match new, hlength with
  | [], _ => exact .nil
  | [a], _ => exact List.pairwise_singleton _ _

lemma forall_append_le {α : Type} {stamp : α → Time} {old new : List α}
    (hold : ∀ a ∈ old, ∀ r' ∈ r :: rs, stamp a ≤ r'.now) (hnew : ∀ a ∈ new, stamp a = r.now)
    (hclock : ∀ r' ∈ rs, r.now ≤ r'.now) :
    ∀ a ∈ old ++ new, ∀ r' ∈ rs, stamp a ≤ r'.now := by
  intro a ha r' hr'
  rcases List.mem_append.mp ha with ha | ha
  · exact hold a ha r' (List.mem_cons_of_mem _ hr')
  · exact (hnew a ha).symm ▸ hclock r' hr'

variable (hnil : s.txRunner = none)
include hnil

lemma State.Timed.serve (hclock : ∀ r' ∈ rs, r.now ≤ r'.now) (h : st.Timed (r :: rs)) :
    (Workitems.serve s r st).2.Timed rs := by
  have hnow : ∀ entry ∈ st.history.entries, entry.createdAt ≤ r.now :=
    fun entry he => h.history_le entry he r List.mem_cons_self
  have hnow' : ∀ entry ∈ st.assignmentHistory.entries, entry.createdAt ≤ r.now :=
    fun entry he => h.assignmentHistory_le entry he r List.mem_cons_self
  rcases run_outcome (s := s) r.env r.ctx st hnil r.call with ⟨hsame,_⟩ | heffect
  · rw [show (Workitems.serve s r st).2 = st from hsame]
    exact ⟨h.history,h.assignmentHistory,
      fun e he r' hr' => h.history_le e he r' (List.mem_cons_of_mem _ hr'),
      fun e he r' hr' => h.assignmentHistory_le e he r' (List.mem_cons_of_mem _ hr')⟩
  · obtain ⟨⟨new,hnew,hlength,hstamp⟩,new',hnew',hlength',hstamp'⟩ := heffect.appends
    change (Workitems.serve s r st).2.history.entries = _ at hnew
    change (Workitems.serve s r st).2.assignmentHistory.entries = _ at hnew'
    constructor
    · rw [hnew]; exact pairwise_append_new h.history hnow hlength hstamp
    · rw [hnew']; exact pairwise_append_new h.assignmentHistory hnow' hlength' hstamp'
    · rw [hnew]; exact forall_append_le h.history_le hstamp hclock
    · rw [hnew']; exact forall_append_le h.assignmentHistory_le hstamp' hclock

lemma State.Timed.serveAll (hclock : rs.Pairwise fun a b => a.now ≤ b.now) (h : st.Timed rs) :
    (Interaction.serveAll (Workitems.serve s) st rs).Timed [] := by
  induction rs generalizing st with
  | nil => exact h
  | cons r rs ih =>
    rw [List.pairwise_cons] at hclock
    exact ih hclock.2 (h.serve hnil hclock.1)

end Clock

section Listings
variable {s : Service} {st : State} {id : String} {item : WorkItem}

/-- An admin passes the common front of the listings for every stored work item. -/
lemma run_requireView_admin (env : Env) (ctx : Context) (found : st.items.byID id = some item)
    (callerUserID : String) (supervisor : Bool) :
    (s.requireView ctx id callerUserID true supervisor).run (exec env) st = (.ok (),st) := by
  obtain ⟨n,_,_,rfl⟩ := st.items.exists_number found
  have hid : ¬ trimSpace (workItemID n) = "" := not_blank_workItemID n
  simp only [Service.requireView, run_failIf_bind, if_neg hid, run_storeGetByID, found,
    Service.mayView, if_true, pure_eq, ret_bind]
  rw [failIf_false (by simp), run_ret]

lemma sliceStable_of_le {α : Type} {stamp : α → Time} {l : List α}
    (h : l.Pairwise fun a b => stamp a ≤ stamp b) (p : α → Bool) :
    sliceStable (fun a b => decide (stamp a < stamp b)) (l.filter p) = l.filter p := by
  apply sliceStable_of_pairwise
  apply (h.filter p).imp
  intro a b hab
  simpa using hab

theorem listStatusHistory_admin (r : Request) (found : st.items.byID id = some item)
    (htimed : st.Timed []) (callerUserID : String) (supervisor : Bool) :
    (serve s { r with call := .listStatusHistory id callerUserID true supervisor } st).1 =
      .ok (.history (st.history.ofWorkItem id)) := by
  have hlist : st.history.listByWorkItemID id = .ok (st.history.ofWorkItem id) :=
    congrArg Except.ok (sliceStable_of_le htimed.history _)
  simp only [serve, Call.program, Service.listStatusHistory, run_map,
    run_bind_ok _ (run_requireView_admin _ _ found _ _), run_call, exec, run_fromResult, hlist]
  rfl

theorem listAssignmentHistory_admin (r : Request) (found : st.items.byID id = some item)
    (htimed : st.Timed []) (callerUserID : String) (supervisor : Bool) :
    (serve s { r with call := .listAssignmentHistory id callerUserID true supervisor } st).1 =
      .ok (.assignmentHistory (st.assignmentHistory.ofWorkItem id)) := by
  have hlist : st.assignmentHistory.listByWorkItemID id =
      .ok (st.assignmentHistory.ofWorkItem id) :=
    congrArg Except.ok (sliceStable_of_le htimed.assignmentHistory _)
  simp only [serve, Call.program, Service.listAssignmentHistory, run_map,
    run_bind_ok _ (run_requireView_admin _ _ found _ _), run_call, exec, run_fromResult, hlist]
  rfl

end Listings
end OpsPlatform.Workitems
