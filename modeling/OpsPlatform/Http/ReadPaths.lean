import OpsPlatform.Platform.Hidden
import OpsPlatform.Http.Handlers

/-! The routes that read about one work item, for every principal: where the listings of its
history and `GetByID` give the same answer. -/
namespace OpsPlatform.Http
open OpsPlatform.Go OpsPlatform.Workitems Interaction Program
open OpsPlatform.Auth (Role Principal)
open OpsPlatform.Platform (System)

/-- The clock readings of one request, and what the storage answers to it. -/
structure Moment where
  now : Time
  notifiedAt : Time
  save : Context → String → List UInt8 → Except Error (String × Int)

/-- The world of a handler, with the team service as the team authority. -/
def Moment.env (m : Moment) (sys : System) (ctx : Context) : Env where
  work :=
    { now := m.now
      isActiveSupervisorOf := fun supervisorUserID assigneeUserID =>
        ((Teams.isActiveSupervisorOf ctx supervisorUserID assigneeUserID).run (Teams.exec m.now)
          sys.teams).1
      supervisedAssigneeUserIDs := fun supervisorUserID =>
        ((Teams.supervisedAssigneeUserIDs ctx supervisorUserID).run (Teams.exec m.now)
          sys.teams).1
      notify := Notifications.notifyMemory m.notifiedAt }
  save := m.save

/-- The response to a request that is served alone. -/
def respond (env : Env) (p : H Response) (st : State) : Response :=
  match (p.run (exec env) st).1 with
  | .ok response => response
  | .error response => response

section
variable (env : Env) (st : State)

lemma run_work {α : Type} (onError : Error → Response) (p : Workitems.M α) :
    ((work onError p).run (exec env) st).1 =
      (p.run (Workitems.exec env.work) st.work).1.mapError onError := by
  have hexec : ∀ (op : Workitems.Op) (st : State),
      Workitems.exec env.work op st.work =
        ((exec env (.work op) st).1,(exec env (.work op) st).2.work) ∧
      (exec env (.work op) st).2.attachments = st.attachments := fun _ _ => ⟨rfl,rfl⟩
  exact (run_translate (fun st : State => st.work) (fun st => st.attachments) hexec p st).1

/-- A handler that passes a service's answer on answers 200 exactly if the service succeeds. -/
lemma respond_work {α : Type} {onError : Error → Response}
    (herror : ∀ err, (onError err).status ≠ 200) (p : Workitems.M α) (body : α → Body) :
    (respond env (do let a ← work onError p; return ⟨200,body a⟩) st).status = 200 ↔
      ∃ a, (p.run (Workitems.exec env.work) st.work).1 = .ok a := by
  have hrun := run_work env st onError p
  cases hp : (p.run (Workitems.exec env.work) st.work).1 with
  | ok a =>
    rw [hp] at hrun
    have hwork : (work onError p).run (exec env) st = (.ok a,_) := Prod.ext hrun rfl
    rw [respond, run_bind_ok _ hwork, pure_eq, run_ret]
    simp
  | error err =>
    rw [hp] at hrun
    have hwork : (work onError p).run (exec env) st = (.error (onError err),_) :=
      Prod.ext hrun rfl
    rw [respond, run_bind_error _ hwork]
    simp [herror err]

end

namespace WorkItemHandler
variable {s : Service} {sys : System} {m m' : Moment} {attachments : Attachments.MemoryStore}
  {r : Req Unit} {principal : Principal} {item : WorkItem}

/-- Served alone, the handler answers 200. -/
def Succeeds (sys : System) (attachments : Attachments.MemoryStore) (m : Moment) (r : Req Unit)
    (p : H Response) : Prop :=
  (respond (m.env sys r.ctx) p ⟨sys.work,attachments⟩).status = 200

lemma readError_status (fallback : String) (err : Error) :
    (errorSwitch [errInvalidInput] [notFound] fallback err).status ≠ 200 := by
  exact errorSwitch_status (by simp [notFound]) (by decide) (by decide) fallback err

lemma respond_read {α : Type} (env : Env) (st : State)
    (hprincipal : r.principal = some principal) (fallback : String)
    (p : Principal → Workitems.M α) (body : α → Body) :
    (respond env (do
        let principal ← principalFromContext r
        let a ← work (errorSwitch [errInvalidInput] [notFound] fallback) (p principal)
        return ⟨200,body a⟩) st).status = 200 ↔
      ∃ a, ((p principal).run (Workitems.exec env.work) st.work).1 = .ok a := by
  rw [principalFromContext, hprincipal, Http.require, ret_bind]
  exact respond_work env st (readError_status fallback) (p principal) body

lemma consistent (h : sys.Proper) (m : Moment) (ctx : Context) (caller : String) :
    ∃ ids, (m.env sys ctx).work.Consistent caller ids :=
  System.consistent h ctx m.now m.notifiedAt (.list caller false false false) caller

section
variable {ids : List String}
  (hconsistent : (m.env sys r.ctx).work.Consistent principal.userID ids)
  (hnamed : item.Named) (hprincipal : r.principal = some principal)
  (found : sys.work.items.byID r.id = some item)
include hconsistent hnamed hprincipal found

lemma getByID_succeeds_iff : Succeeds sys attachments m r (getByID ⟨s⟩ r) ↔
    s.sees ids principal.userID (principal.hasRole .admin) (principal.hasRole .supervisor)
      (principal.hasRole .requester) item = true := by
  unfold Succeeds getByID
  rw [respond_read _ _ hprincipal]
  have hrun := run_getByID_of_consistent (s := s) hconsistent (principal.hasRole .admin)
    (principal.hasRole .supervisor) (principal.hasRole .requester) r.ctx hnamed found
  rw [hrun]
  split_ifs with hsees <;> simp [hsees]

omit hprincipal in
/-- A listing that finds its rows succeeds where the common front lets the caller through. -/
lemma run_listing {α : Type} (listing : Workitems.M α) (rows : α)
    (hrows : listing.run (Workitems.exec (m.env sys r.ctx).work) sys.work = (.ok rows,sys.work)) :
    (∃ a, ((do
        s.requireView r.ctx r.id principal.userID (principal.hasRole .admin)
          (principal.hasRole .supervisor)
        listing).run (Workitems.exec (m.env sys r.ctx).work) sys.work).1 = .ok a) ↔
      s.sees ids principal.userID (principal.hasRole .admin) (principal.hasRole .supervisor)
        false item = true := by
  have hview := run_requireView_of_consistent (s := s) hconsistent (principal.hasRole .admin)
    (principal.hasRole .supervisor) r.ctx hnamed found
  rw [run_bind, hview]
  split_ifs with hsees
  · simp [hsees, hrows]
  · simp [hsees]

lemma listStatusHistory_succeeds_iff :
    Succeeds sys attachments m r (listStatusHistory ⟨s⟩ r) ↔
      s.sees ids principal.userID (principal.hasRole .admin) (principal.hasRole .supervisor)
        false item = true := by
  unfold Succeeds listStatusHistory
  rw [respond_read _ _ hprincipal]
  exact run_listing hconsistent hnamed found _ _ ((run_call _ _ _ _).trans (run_fromResult _ _ _))

lemma listAssignmentHistory_succeeds_iff :
    Succeeds sys attachments m r (listAssignmentHistory ⟨s⟩ r) ↔
      s.sees ids principal.userID (principal.hasRole .admin) (principal.hasRole .supervisor)
        false item = true := by
  unfold Succeeds listAssignmentHistory
  rw [respond_read _ _ hprincipal]
  exact run_listing hconsistent hnamed found _ _ ((run_call _ _ _ _).trans (run_fromResult _ _ _))

end

/-- Whether a requester flag matters to what the caller sees. -/
lemma sees_requester_iff (ids : List String) (caller : String)
    (admin supervisor requester : Bool) (item : WorkItem) :
    (s.sees ids caller admin supervisor false item = true ↔
      s.sees ids caller admin supervisor requester item = true) ↔
      (admin = true ∨ supervisor = true ∨ requester = false ∨
        (item.createdByUserID = caller ↔ item.assignedToUserID = some caller)) := by
  cases admin with
  | true => simp [Service.sees]
  | false =>
    cases supervisor with
    | true => simp [Service.sees]
    | false =>
      cases requester with
      | true => simpa [Service.sees] using iff_comm
      | false => simp [Service.sees]

/-- The team service answers alike at two moments, so the caller sees the same at both. -/
lemma sees_moment (h : sys.Proper) {ctx ctx' : Context} {caller : String} {ids ids' : List String}
    (hconsistent : (m.env sys ctx).work.Consistent caller ids)
    (hconsistent' : (m'.env sys ctx').work.Consistent caller ids')
    (admin supervisor requester : Bool) (hnamed : item.Named) :
    s.sees ids caller admin supervisor requester item =
      s.sees ids' caller admin supervisor requester item := by
  have hact : s.mayActOn (m.env sys ctx).work caller item =
      s.mayActOn (m'.env sys ctx').work caller item :=
    System.mayActOn_moment h (.list caller false false false) (.list caller false false false)
      caller item
  rw [mayActOn_of_consistent hconsistent requester hnamed,
    mayActOn_of_consistent hconsistent' requester hnamed] at hact
  cases admin with
  | true => rfl
  | false =>
    cases supervisor with
    | true => exact Except.ok.inj hact
    | false => rfl

/-- Both listings of a work item succeed exactly when `GetByID` does, except for a requester who is
neither admin nor supervisor and stands in only one of the two relations to the item. -/
theorem read_paths_agree_iff (hasNotifier hasTeamAuthority : Bool) (rs : List Platform.Request)
    (attachments : Attachments.MemoryStore) (m m' m'' : Moment) (r : Req Unit)
    (principal : Principal) (hprincipal : r.principal = some principal) (item : WorkItem)
    (found : (System.after hasNotifier hasTeamAuthority rs).work.items.byID r.id = some item) :
    let h : WorkItemHandler := ⟨.inMemory hasNotifier hasTeamAuthority⟩
    let sys := System.after hasNotifier hasTeamAuthority rs
    ((Succeeds sys attachments m r (h.listStatusHistory r) ↔
        Succeeds sys attachments m'' r (h.getByID r)) ∧
      (Succeeds sys attachments m' r (h.listAssignmentHistory r) ↔
        Succeeds sys attachments m'' r (h.getByID r))) ↔
    (principal.hasRole .admin = true ∨ principal.hasRole .supervisor = true ∨
      principal.hasRole .requester = false ∨
      (item.createdByUserID = principal.userID ↔
        item.assignedToUserID = some principal.userID)) := by
  intro h sys
  have hproper : sys.Proper := System.after_proper hasNotifier hasTeamAuthority rs
  have hnamed := hproper.sound.items _ _ found
  obtain ⟨ids,hids⟩ := consistent hproper m r.ctx principal.userID
  obtain ⟨ids',hids'⟩ := consistent hproper m' r.ctx principal.userID
  obtain ⟨ids'',hids''⟩ := consistent hproper m'' r.ctx principal.userID
  rw [listStatusHistory_succeeds_iff hids hnamed hprincipal found,
    listAssignmentHistory_succeeds_iff hids' hnamed hprincipal found,
    getByID_succeeds_iff hids'' hnamed hprincipal found,
    sees_moment hproper hids hids'' _ _ _ hnamed, sees_moment hproper hids' hids'' _ _ _ hnamed,
    and_self]
  exact sees_requester_iff ids'' _ _ _ _ item

/-- An item of the admin's, given to `worker-1`. -/
def assignedPump : List Platform.Request :=
  [.work background 1 1 (.create "admin-1" ⟨"Repair pump","Pump 4 leaks",.high,none,none⟩),
    .work background 2 2 (.assignWorkItem "workitem-0001" "admin-1" true false ⟨"worker-1"⟩)]

def readAt (now : Time) : Moment := ⟨now,now,fun _ _ _ => .ok ("",0)⟩

def readBy (roles : List Role) : Req Unit where
  ctx := background
  id := "workitem-0001"
  principal := some ⟨"worker-1","worker-1@ops.local","Worker",roles,false,true⟩
  body := none

theorem read_paths_agree_iff_assignee :
    let h : WorkItemHandler := ⟨.inMemory true true⟩
    let sys := System.after true true assignedPump
    Succeeds sys .new (readAt 3) (readBy [.assignee]) (h.listStatusHistory (readBy [.assignee])) ↔
      Succeeds sys .new (readAt 3) (readBy [.assignee]) (h.getByID (readBy [.assignee])) := by
  intro h sys
  have hstored : (sys.work.items.byID "workitem-0001").isSome = true := by decide +kernel
  obtain ⟨item,found⟩ := Option.isSome_iff_exists.mp hstored
  exact ((read_paths_agree_iff true true assignedPump .new (readAt 3) (readAt 3) (readAt 3)
    (readBy [.assignee]) _ rfl item found).mpr (.inr (.inr (.inl rfl)))).1

/-- A principal who is both assignee and requester reads the history of an item that `GetByID`
hides. -/
theorem history_of_hidden_item :
    ¬ ∀ (hasNotifier hasTeamAuthority : Bool) (rs : List Platform.Request)
      (attachments : Attachments.MemoryStore) (m m' m'' : Moment) (r : Req Unit)
      (principal : Principal), r.principal = some principal →
      (principal.hasRole .admin = true ∨ principal.hasRole .supervisor = true ∨
        principal.hasRole .assignee = true) →
      ∀ item, (System.after hasNotifier hasTeamAuthority rs).work.items.byID r.id = some item →
      let h : WorkItemHandler := ⟨.inMemory hasNotifier hasTeamAuthority⟩
      let sys := System.after hasNotifier hasTeamAuthority rs
      (Succeeds sys attachments m r (h.listStatusHistory r) ↔
        Succeeds sys attachments m'' r (h.getByID r)) ∧
      (Succeeds sys attachments m' r (h.listAssignmentHistory r) ↔
        Succeeds sys attachments m'' r (h.getByID r)) := by
  intro hclaim
  have hstored : ((System.after true true assignedPump).work.items.byID
      "workitem-0001").isSome = true := by decide +kernel
  obtain ⟨item,found⟩ := Option.isSome_iff_exists.mp hstored
  obtain ⟨hsame,-⟩ := hclaim true true assignedPump .new (readAt 3) (readAt 3) (readAt 3)
    (readBy [.assignee,.requester]) _ rfl (.inr (.inr rfl)) item found
  have hlisted : Succeeds (System.after true true assignedPump) .new (readAt 3)
      (readBy [.assignee,.requester])
      (listStatusHistory ⟨.inMemory true true⟩ (readBy [.assignee,.requester])) := by
    unfold Succeeds
    decide +kernel
  have hhidden : ¬ Succeeds (System.after true true assignedPump) .new (readAt 3)
      (readBy [.assignee,.requester])
      (getByID ⟨.inMemory true true⟩ (readBy [.assignee,.requester])) := by
    unfold Succeeds
    decide +kernel
  exact hhidden (hsame.mp hlisted)

end WorkItemHandler
end OpsPlatform.Http
