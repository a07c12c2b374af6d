import OpsPlatform.Teams.Scope
import OpsPlatform.Workitems.Simulation
import OpsPlatform.Workitems.Visibility

/-! The work item service wired to the team service: every question about authority is answered
from the team rows of that moment. -/
namespace OpsPlatform.Platform
open OpsPlatform.Go OpsPlatform.Workitems Interaction Program

structure System where
  work : Workitems.State
  teams : Teams.State

def System.empty : System := ⟨.empty,.empty⟩

/-- A call of either service, at its moment. -/
inductive Request
  | work (ctx : Context) (now notifiedAt : Time) (call : Workitems.Call)
  | teams (now : Time) (call : Teams.Call)

namespace System

/-- The team service in the place of the team authority. -/
def ask (sys : System) (ctx : Context) (now notifiedAt : Time) (call : Workitems.Call) :
    Workitems.Request where
  ctx := ctx
  now := now
  notifiedAt := notifiedAt
  isActiveSupervisorOf supervisorUserID assigneeUserID :=
    ((Teams.isActiveSupervisorOf ctx supervisorUserID assigneeUserID).run (Teams.exec now)
      sys.teams).1
  supervisedAssigneeUserIDs supervisorUserID :=
    ((Teams.supervisedAssigneeUserIDs ctx supervisorUserID).run (Teams.exec now) sys.teams).1
  call := call

/-- A call of the work item service: its reply and what it leaves. -/
def call (sys : System) (s : Service) (ctx : Context) (now notifiedAt : Time)
    (call : Workitems.Call) : Except Error Reply × Workitems.State :=
  serve s (sys.ask ctx now notifiedAt call) sys.work

def step (s : Service) (sys : System) : Request → System
  | .work ctx now notifiedAt c => { sys with work := (sys.call s ctx now notifiedAt c).2 }
  | .teams now c => { sys with teams := sys.teams.after now c }

/-- The system after these calls, served one after another. -/
def after (hasNotifier hasTeamAuthority : Bool) (rs : List Request) : System :=
  rs.foldl (step (.inMemory hasNotifier hasTeamAuthority)) .empty

/-- What both services keep true of their rows. -/
structure Proper (sys : System) : Prop where
  sound : sys.work.Sound
  agrees : ∀ id, (sys.work.order id).Agrees
  single : Teams.SingleActive sys.teams.memberships.entries

theorem empty_proper : System.empty.Proper where
  sound := State.empty_sound
  agrees _ := Order.initial_agrees
  single := by intro m hm; cases hm

variable {s : Service}

theorem step_proper (hnil : s.txRunner = none) (sys : System) (r : Request) (h : sys.Proper) :
    (sys.step s r).Proper := by
  cases r with
  | work ctx now notifiedAt c =>
    exact ⟨serve_sound hnil _ _ h.sound,serve_agrees hnil _ h.sound h.agrees,h.single⟩
  | teams now c => exact ⟨h.sound,h.agrees,Teams.State.after_single _ now c h.single⟩

theorem after_proper (hasNotifier hasTeamAuthority : Bool) (rs : List Request) :
    (after hasNotifier hasTeamAuthority rs).Proper := by
  apply List.foldlRecOn rs _ empty_proper
  intro sys h r _
  exact step_proper rfl sys r h

theorem consistent {sys : System} (h : sys.Proper) (ctx : Context) (now notifiedAt : Time)
    (c : Workitems.Call) (callerUserID : String) :
    ∃ ids, (sys.ask ctx now notifiedAt c).env.Consistent callerUserID ids := by
  obtain ⟨ids,hlist,hids⟩ := Teams.run_supervisedAssigneeUserIDs sys.teams now ctx callerUserID
  refine ⟨ids,congrArg Prod.fst hlist,?_⟩
  intro user hblank htrim
  obtain ⟨answer,hask,hanswer⟩ := Teams.run_isActiveSupervisorOf sys.teams now ctx h.single
    callerUserID user
  have hsame : answer = ids.contains user := by
    rw [Bool.eq_iff_iff, hanswer, htrim, List.contains_iff_mem, hids]
    exact ⟨fun ⟨hc,_,hs⟩ => ⟨hc,hs⟩,fun ⟨hc,hs⟩ => ⟨hc,hblank,hs⟩⟩
  rw [← hsame]
  exact congrArg Prod.fst hask

/-- A supervisor's authority over a work item, in terms of the stored rows. -/
def Authority (sys : System) (userID : String) (item : WorkItem) : Prop :=
  (item.assignedToUserID = none ∧ item.createdByUserID = userID) ∨
  ∃ assignee, item.assignedToUserID = some assignee ∧
    sys.teams.Supervises (trimSpace userID) assignee

/-- Who may make a call that changes something; `answers` says which answers to an assignment
an assignee may give. -/
def Permitted (answers : Bool → Prop) (sys : System) (item : WorkItem) : Workitems.Call → Prop
  | .update _ caller admin supervisor _ =>
    admin = true ∨
    (supervisor = true ∧ sys.Authority caller item ∧ item.assignedToUserID = none)
  | .changeStatus _ actor admin supervisor requester input =>
    admin = true ∨ (supervisor = true ∧ sys.Authority actor item) ∨
    (admin = false ∧ supervisor = false ∧ requester = false ∧
      item.assignedToUserID = some actor ∧
      ((item.status = .accepted ∧ input.toStatus = .inProgress) ∨
        (item.status = .inProgress ∧ input.toStatus = .submittedForReview) ∨
        (item.status = .flagged ∧ input.toStatus = .inProgress)))
  | .assignWorkItem _ assigner admin supervisor input =>
    admin = true ∨
    (supervisor = true ∧ sys.Authority assigner item ∧
      sys.teams.Supervises (trimSpace assigner) (trimSpace input.assignedToUserID))
  | .respondToAssignment _ user requester accept _ =>
    requester = false ∧ item.assignedToUserID = some user ∧ item.status = .assigned ∧
    answers accept
  | _ => False

section
variable {sys : System} {ctx : Context} {now notifiedAt : Time} {c : Workitems.Call}

lemma supervises_of_answer (h : sys.Proper) {supervisorUserID assigneeUserID : String}
    (hanswer : (sys.ask ctx now notifiedAt c).env.isActiveSupervisorOf supervisorUserID
      assigneeUserID = .ok true) :
    sys.teams.Supervises (trimSpace supervisorUserID) (trimSpace assigneeUserID) := by
  obtain ⟨answer,hrun,hsupervises⟩ := Teams.run_isActiveSupervisorOf sys.teams now ctx h.single
    supervisorUserID assigneeUserID
  have hok : Except.ok answer = Except.ok true := (congrArg Prod.fst hrun).symm.trans hanswer
  exact (hsupervises.mp (Except.ok.inj hok)).2.2

lemma authority_of_mayAct (h : sys.Proper) {id userID : String} {item : WorkItem}
    (found : sys.work.items.byID id = some item)
    (hact : s.MayAct (sys.ask ctx now notifiedAt c).env userID item) :
    sys.Authority userID item := by
  unfold Service.MayAct Service.mayActOn at hact
  cases hassignee : item.assignedToUserID with
  | none =>
    simp only [hassignee, Except.ok.injEq, decide_eq_true_eq] at hact
    exact .inl ⟨hassignee,hact⟩
  | some assignee =>
    simp only [hassignee] at hact
    split_ifs at hact
    · refine .inr ⟨assignee,hassignee,?_⟩
      have hsupervises := supervises_of_answer h hact
      rwa [((h.sound.items _ _ found).assignee assignee hassignee).2] at hsupervises
    · cases hact

lemma assigneeAllowed {src dst : Status} (h : isAssigneeAllowedTransition src dst = true) :
    (src = .accepted ∧ dst = .inProgress) ∨ (src = .inProgress ∧ dst = .submittedForReview) ∨
      (src = .flagged ∧ dst = .inProgress) := by
  cases src <;> simp_all [isAssigneeAllowedTransition, assigneeAllowedTransitions]

lemma assigned_of_response {src : Status} {accept : Bool}
    (h : isValidTransition src (respondedStatus accept) = true) : src = .assigned := by
  rw [isValidTransition_iff] at h
  cases accept <;> cases src <;> simp_all [validStatusTransitions, respondedStatus]

theorem permitted_of_effect (h : sys.Proper) {id : String} (hid : c.target = some id)
    {out : Except Error Reply} {st' : Workitems.State}
    (heffect : Effect s (sys.ask ctx now notifiedAt c).env ctx sys.work c out st') :
    ∃ item, sys.work.items.byID id = some item ∧ Permitted (fun _ => True) sys item c := by
  cases heffect with
  | create => cases hid
  | update found allowed =>
    cases hid
    refine ⟨_,found,?_⟩
    rcases allowed with hadmin | ⟨_,hsupervisor,hact,hassignee⟩
    · exact .inl hadmin
    · exact .inr ⟨hsupervisor,authority_of_mayAct h found hact,hassignee⟩
  | changeStatus _ _ found _ allowed =>
    cases hid
    refine ⟨_,found,?_⟩
    rcases allowed with ⟨hadmin,_⟩ | ⟨_,hsupervisor,hact,_⟩ | ⟨ha,hs,hr,hassignee,hmove⟩
    · exact .inl hadmin
    · exact .inr (.inl ⟨hsupervisor,authority_of_mayAct h found hact⟩)
    · exact .inr (.inr ⟨ha,hs,hr,hassignee,assigneeAllowed hmove⟩)
  | assignWorkItem _ _ _ found allowed =>
    cases hid
    refine ⟨_,found,?_⟩
    rcases allowed with hadmin | ⟨_,hsupervisor,hact,_,hdestination⟩
    · exact .inl hadmin
    · refine .inr ⟨hsupervisor,authority_of_mayAct h found hact,?_⟩
      simpa using supervises_of_answer h hdestination
  | respondToAssignment _ _ found offered owned pending open_ =>
    cases hid
    refine ⟨_,found,rfl,?_,assigned_of_response open_,trivial⟩
    -- the row is pending, so the item is held by the user the row names
    have hholder := ((h.agrees _).holder _).mpr ⟨_,offered,owned,by rw [pending]; decide⟩
    rwa [order_holder found] at hholder

end

lemma call_list (sys : System) (ctx : Context) (now notifiedAt : Time) (caller : String)
    (admin supervisor requester : Bool) :
    (sys.call s ctx now notifiedAt (.list caller admin supervisor requester)).1 =
      ((s.list ctx caller admin supervisor requester).run
        (exec (sys.ask ctx now notifiedAt (.list caller admin supervisor requester)).env)
        sys.work).1.map .items :=
  congrArg Prod.fst (run_map _ sys.work Reply.items
    (s.list ctx caller admin supervisor requester))

lemma call_getByID (sys : System) (ctx : Context) (now notifiedAt : Time) (id caller : String)
    (admin supervisor requester : Bool) :
    (sys.call s ctx now notifiedAt (.getByID id caller admin supervisor requester)).1 =
      ((s.getByID ctx id caller admin supervisor requester).run
        (exec (sys.ask ctx now notifiedAt (.list caller admin supervisor requester)).env)
        sys.work).1.map .item :=
  congrArg Prod.fst (run_map _ sys.work Reply.item
    (s.getByID ctx id caller admin supervisor requester))

theorem change_permitted (hasNotifier : Bool) (rs : List Request) (ctx : Context)
    (now notifiedAt : Time) (c : Workitems.Call) (id : String) (hid : c.target = some id)
    (hchange : ((after hasNotifier true rs).call (.inMemory hasNotifier true) ctx now notifiedAt
      c).2 ≠ (after hasNotifier true rs).work) :
    ∃ item, (after hasNotifier true rs).work.items.byID id = some item ∧
      Permitted (fun _ => True) (after hasNotifier true rs) item c := by
  have h := after_proper hasNotifier true rs
  rcases serve_cases (s := .inMemory hasNotifier true) rfl h.sound
    ((after hasNotifier true rs).ask ctx now notifiedAt c) with ⟨hsame,_⟩ | ⟨reply,_,heffect⟩
  · exact (hchange hsame).elim
  · exact permitted_of_effect h hid heffect

/-- A supervisor hands an item of their own to a member of their team. -/
theorem change_permitted_supervisor :
    let rs := [Request.teams 1 (.createTeam "Field crew"),
      .teams 2 (.addAssignee "team-0001" "user-2" "admin-1"),
      .teams 3 (.addSupervisor "team-0001" "user-1" "admin-1"),
      .work background 4 4 (.create "user-1" ⟨"Repair pump","Pump 4 leaks",.high,none,none⟩)]
    ∃ item, (after true true rs).work.items.byID "workitem-0001" = some item ∧
      Permitted (fun _ => True) (after true true rs) item
        (.assignWorkItem "workitem-0001" "user-1" false true ⟨"user-2"⟩) := by
  intro rs
  apply change_permitted true rs background 5 5 _ "workitem-0001" rfl
  intro hsame
  have hseq := congrArg (·.history.seq) hsame
  revert hseq
  decide +kernel

/-- An assignee may decline as well as accept. -/
theorem change_not_only_accepting :
    ¬ ∀ (hasNotifier : Bool) (rs : List Request) (ctx : Context) (now notifiedAt : Time)
      (c : Workitems.Call) (id : String), c.target = some id →
      ((after hasNotifier true rs).call (.inMemory hasNotifier true) ctx now notifiedAt c).2 ≠
        (after hasNotifier true rs).work →
      ∃ item, (after hasNotifier true rs).work.items.byID id = some item ∧
        Permitted (fun accept => accept = true) (after hasNotifier true rs) item c := by
  intro h
  let rs := [Request.work background 1 1 (.create "admin-1" ⟨"Repair pump","Pump 4 leaks",.high,
      none,none⟩),
    .work background 2 2 (.assignWorkItem "workitem-0001" "admin-1" true false ⟨"user-2"⟩)]
  obtain ⟨item,-,-,-,-,hanswer⟩ := h true rs background 3 3
    (.respondToAssignment "workitem-0001" "user-2" false false ⟨none⟩) "workitem-0001" rfl (by
      intro hsame
      have hseq := congrArg (·.history.seq) hsame
      revert hseq
      decide +kernel)
  cases hanswer

theorem list_iff_getByID (hasNotifier hasTeamAuthority : Bool) (rs : List Request) (ctx : Context)
    (now notifiedAt : Time) (id callerUserID : String) (admin supervisor requester : Bool)
    (hcaller : ¬ Blank callerUserID) (item : WorkItem)
    (found : (after hasNotifier hasTeamAuthority rs).work.items.byID id = some item) :
    ∃ items, ((after hasNotifier hasTeamAuthority rs).call (.inMemory hasNotifier hasTeamAuthority)
        ctx now notifiedAt (.list callerUserID admin supervisor requester)).1 =
        .ok (.items items) ∧
      ((∃ row ∈ items, row.id = id) ↔ ∃ reply, ((after hasNotifier hasTeamAuthority rs).call
        (.inMemory hasNotifier hasTeamAuthority) ctx now notifiedAt
        (.getByID id callerUserID admin supervisor requester)).1 = .ok reply) ∧
      ∀ reply, ((after hasNotifier hasTeamAuthority rs).call
        (.inMemory hasNotifier hasTeamAuthority) ctx now notifiedAt
        (.getByID id callerUserID admin supervisor requester)).1 = .ok reply →
        ∃ row, reply = .item row ∧ items.filter (fun row => decide (row.id = id)) = [row] := by
  have h := after_proper hasNotifier hasTeamAuthority rs
  generalize after hasNotifier hasTeamAuthority rs = sys at h found ⊢
  generalize Service.inMemory hasNotifier hasTeamAuthority = s
  obtain ⟨ids,hconsistent⟩ := consistent h ctx now notifiedAt
    (.list callerUserID admin supervisor requester) callerUserID
  obtain ⟨items,hlist,hfilter⟩ := list_agrees_getByID (s := s) hconsistent admin supervisor
    requester ctx hcaller (h.sound.items _ _ found) found
  refine ⟨items,by rw [call_list, hlist]; rfl,?_⟩
  have hlisted : (∃ row ∈ items, row.id = id) ↔
      items.filter (fun row => decide (row.id = id)) ≠ [] := by
    simp [List.filter_eq_nil_iff]
  rw [hlisted, hfilter, call_getByID]
  cases ((s.getByID ctx id callerUserID admin supervisor requester).run _ sys.work).1 with
  | error e => simp [Except.map]
  | ok row => simp [Except.map]

/-- A supervisor lists the item of a team member exactly once. -/
theorem list_iff_getByID_supervisor :
    let rs := [Request.teams 1 (.createTeam "Field crew"),
      .teams 2 (.addAssignee "team-0001" "user-2" "admin-1"),
      .teams 3 (.addSupervisor "team-0001" "user-1" "admin-1"),
      .work background 4 4 (.create "user-1" ⟨"Repair pump","Pump 4 leaks",.high,none,none⟩),
      .work background 5 5 (.assignWorkItem "workitem-0001" "user-1" false true ⟨"user-2"⟩)]
    ∃ items row, ((after true true rs).call (.inMemory true true) background 6 6
        (.list "user-1" false true true)).1 = .ok (.items items) ∧
      items.filter (fun row => decide (row.id = "workitem-0001")) = [row] := by
  intro rs
  have hstored : ((after true true rs).work.items.byID "workitem-0001").isSome = true := by
    decide +kernel
  obtain ⟨item,found⟩ := Option.isSome_iff_exists.mp hstored
  obtain ⟨items,hlist,-,honce⟩ := list_iff_getByID true true rs background 6 6 "workitem-0001"
    "user-1" false true true (by decide +kernel) item found
  have hseen : ((after true true rs).call (.inMemory true true) background 6 6
      (.getByID "workitem-0001" "user-1" false true true)).1.isOk = true := by decide +kernel
  cases hget : ((after true true rs).call (.inMemory true true) background 6 6
      (.getByID "workitem-0001" "user-1" false true true)).1 with
  | error e => rw [hget] at hseen; cases hseen
  | ok reply =>
    obtain ⟨row,-,hrow⟩ := honce reply hget
    exact ⟨items,row,hlist,hrow⟩

end System
end OpsPlatform.Platform
