import OpsPlatform.Workitems.Service
import OpsPlatform.Workitems.Store
import OpsPlatform.Notifications.Service

/-! The in-memory system the work item service runs on: its four stores, the notification store,
and what the rest of the world answers to one of its calls. -/
namespace OpsPlatform.Workitems
open OpsPlatform.Go Interaction Program

structure State where
  items : MemoryStore
  history : MemoryStatusHistoryStore
  assignments : MemoryAssignmentStore
  assignmentHistory : MemoryAssignmentHistoryStore
  notifications : Notifications.MemoryStore

def State.empty : State := ⟨.new,.new,.new,.new,.new⟩

/-- What a clock, a team authority and a notifier answer at one moment. -/
structure Env where
  now : Time
  isActiveSupervisorOf : String → String → Except Error Bool
  supervisedAssigneeUserIDs : String → Except Error (List String)
  notify : Context → String → String → String → String → Notifications.MemoryStore →
    Except Error Unit × Notifications.MemoryStore

/-- One atomic call on the in-memory system. -/
def exec (env : Env) : (op : Op) → State → op.Res × State
  | .storeCreate _ item, st => ((st.items.create item).1,{ st with items := (st.items.create item).2 })
  | .storeList _, st => (st.items.list,st)
  | .storeListByAssignedToUserID _ userID, st => (st.items.listByAssignedToUserID userID,st)
  | .storeListByCreatedByUserID _ userID, st => (st.items.listByCreatedByUserID userID,st)
  | .storeGetByID _ id, st => (st.items.getByID id,st)
  | .storeUpdate _ item, st => ((st.items.update item).1,{ st with items := (st.items.update item).2 })
  | .historyCreate _ entry, st =>
    ((st.history.create entry).1,{ st with history := (st.history.create entry).2 })
  | .historyListByWorkItemID _ workItemID, st => (st.history.listByWorkItemID workItemID,st)
  | .assignmentCreate _ row, st =>
    ((st.assignments.create row).1,{ st with assignments := (st.assignments.create row).2 })
  | .assignmentGetByWorkItemID _ workItemID, st => (st.assignments.getByWorkItemID workItemID,st)
  | .assignmentUpdate _ row, st =>
    ((st.assignments.update row).1,{ st with assignments := (st.assignments.update row).2 })
  | .assignmentHistoryCreate _ entry, st =>
    ((st.assignmentHistory.create entry).1,
      { st with assignmentHistory := (st.assignmentHistory.create entry).2 })
  | .assignmentHistoryListByWorkItemID _ workItemID, st =>
    (st.assignmentHistory.listByWorkItemID workItemID,st)
  | .notify ctx recipientUserID workItemID kind message, st =>
    let sent := env.notify ctx recipientUserID workItemID kind message st.notifications
    (sent.1,{ st with notifications := sent.2 })
  | .isActiveSupervisorOf _ supervisorUserID assigneeUserID, st =>
    (env.isActiveSupervisorOf supervisorUserID assigneeUserID,st)
  | .supervisedAssigneeUserIDs _ supervisorUserID, st =>
    (env.supervisedAssigneeUserIDs supervisorUserID,st)
  -- there is no database to begin a transaction on
  | .poolBegin _, st => (.error ⟨"no database"⟩,st)
  | .txCommit _ _, st => (.error ⟨"no database"⟩,st)
  | .txRollback _ _, st => (.error ⟨"no database"⟩,st)
  | .now, st => (env.now,st)

/-- An operation that only reads. -/
def Op.Reads : Op → Prop
  | .storeList _ | .storeListByAssignedToUserID _ _ | .storeListByCreatedByUserID _ _
  | .storeGetByID _ _ | .historyListByWorkItemID _ _ | .assignmentGetByWorkItemID _ _
  | .assignmentHistoryListByWorkItemID _ _ | .isActiveSupervisorOf _ _ _
  | .supervisedAssigneeUserIDs _ _ | .now => True
  | _ => False

theorem exec_of_reads (env : Env) (op : Op) (h : op.Reads) (st : State) :
    (exec env op st).2 = st := by
  cases op <;> first | rfl | exact h.elim

inductive Call
  | create (createdByUserID : String) (input : CreateInput)
  | update (id callerUserID : String) (callerIsAdmin callerIsSupervisor : Bool)
      (input : UpdateInput)
  | changeStatus (id actorUserID : String)
      (actorIsAdmin actorIsSupervisor actorIsRequester : Bool) (input : ChangeStatusInput)
  | assignWorkItem (workItemID assignedByUserID : String)
      (assignedByIsAdmin assignedByIsSupervisor : Bool) (input : AssignInput)
  | respondToAssignment (workItemID respondingUserID : String)
      (respondingUserIsRequester accept : Bool) (input : RespondToAssignmentInput)
  | list (callerUserID : String) (callerIsAdmin callerIsSupervisor callerIsRequester : Bool)
  | getByID (id callerUserID : String)
      (callerIsAdmin callerIsSupervisor callerIsRequester : Bool)
  | listStatusHistory (workItemID callerUserID : String) (callerIsAdmin callerIsSupervisor : Bool)
  | listAssignmentHistory (workItemID callerUserID : String)
      (callerIsAdmin callerIsSupervisor : Bool)
  | getAssignment (workItemID callerUserID : String) (callerIsAdmin callerIsSupervisor : Bool)

/-- The work item a call is to change. -/
def Call.target : Call → Option String
  | .update id _ _ _ _ | .changeStatus id _ _ _ _ _ | .assignWorkItem id _ _ _ _
  | .respondToAssignment id _ _ _ _ => some id
  | _ => none

inductive Reply
  | item (item : WorkItem)
  | items (items : List WorkItem)
  | assignment (assignment : Assignment)
  | history (entries : List StatusHistory)
  | assignmentHistory (entries : List AssignmentHistory)
  deriving DecidableEq, Repr

/-- The service method a call invokes. -/
def Call.program (s : Service) (ctx : Context) : Call → M Reply
  | .create createdByUserID input => .item <$> s.create ctx createdByUserID input
  | .update id caller admin supervisor input =>
    .item <$> s.update ctx id caller admin supervisor input
  | .changeStatus id actor admin supervisor requester input =>
    .item <$> s.changeStatus ctx id actor admin supervisor requester input
  | .assignWorkItem id assigner admin supervisor input =>
    .assignment <$> s.assignWorkItem ctx id assigner admin supervisor input
  | .respondToAssignment id user requester accept input =>
    .assignment <$> s.respondToAssignment ctx id user requester accept input
  | .list caller admin supervisor requester =>
    .items <$> s.list ctx caller admin supervisor requester
  | .getByID id caller admin supervisor requester =>
    .item <$> s.getByID ctx id caller admin supervisor requester
  | .listStatusHistory id caller admin supervisor =>
    .history <$> s.listStatusHistory ctx id caller admin supervisor
  | .listAssignmentHistory id caller admin supervisor =>
    .assignmentHistory <$> s.listAssignmentHistory ctx id caller admin supervisor
  | .getAssignment id caller admin supervisor =>
    .assignment <$> s.getAssignment ctx id caller admin supervisor

end OpsPlatform.Workitems
