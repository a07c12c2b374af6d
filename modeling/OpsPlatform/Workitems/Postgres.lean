import OpsPlatform.Db.Tx
import OpsPlatform.Workitems.Memory

/-! The Postgres stores of work items and notifications, and the service on them. A transaction is
the list of its writes: its own statements read them over the committed tables, and a commit applies
them. -/
namespace OpsPlatform.Workitems
open OpsPlatform.Go OpsPlatform.Db Interaction Program

namespace Postgres

structure Tables where
  workItems : List WorkItem
  statusHistory : List StatusHistory
  assignments : List Assignment
  assignmentHistory : List AssignmentHistory
  notifications : List Notifications.Notification

/-- The row a statement leaves in a table. -/
inductive Write
  | workItem (row : WorkItem)
  | statusHistory (row : StatusHistory)
  | assignment (row : Assignment)
  | assignmentHistory (row : AssignmentHistory)
  | notification (row : Notifications.Notification)

/-- The row in the place of the one with its key, or at the end of the table. -/
def put {Row : Type} (key : Row → String) (row : Row) (rows : List Row) : List Row :=
  if rows.any fun old => key old = key row then
    rows.map fun old => if key old = key row then row else old
  else rows ++ [row]

def Tables.write (t : Tables) : Write → Tables
  | .workItem row => { t with workItems := put (·.id) row t.workItems }
  | .statusHistory row => { t with statusHistory := put (·.id) row t.statusHistory }
  | .assignment row => { t with assignments := put (·.workItemID) row t.assignments }
  | .assignmentHistory row => { t with assignmentHistory := put (·.id) row t.assignmentHistory }
  | .notification row => { t with notifications := put (·.id) row t.notifications }

def Tables.writeAll (t : Tables) (writes : List Write) : Tables := writes.foldl Tables.write t

/-- The sequences that number the rows; a number taken is not given back. -/
inductive Sequence
  | workItems
  | statusHistory
  | assignments
  | assignmentHistory
  | notifications
  deriving DecidableEq

/-- The committed tables, and the writes of the transactions under way. -/
structure Database where
  tables : Tables
  sequences : Sequence → ℕ
  transactions : ℕ → Option (List Write)
  /-- How many transactions were begun. -/
  begun : ℕ
  /-- The writes of all statements that succeeded, through whatever connection. -/
  journal : List Write

/-- A statement on the tables its connection sees: its result and what it writes. -/
abbrev Statement (α : Type) := Tables → Except Error (α × List Write)

namespace Database
variable {α : Type}

/-- The tables as a connection sees them, none where its transaction is over. -/
def view (db : Database) : Connection → Option Tables
  | .pool => some db.tables
  | .tx tx => (db.transactions tx).map db.tables.writeAll

/-- The writes go to the transaction, or straight to the tables. -/
def write (db : Database) (writes : List Write) : Connection → Database
  | .pool => { db with tables := db.tables.writeAll writes, journal := db.journal ++ writes }
  | .tx tx => { db with
      transactions := Function.update db.transactions tx
        ((db.transactions tx).map fun earlier => earlier ++ writes)
      journal := db.journal ++ writes }

/-- One statement through `Querier(ctx, pool)`. -/
def query (db : Database) (ctx : Context) (statement : Statement α) :
    Except Error α × Database :=
  match db.view (querier ctx) with
  | none => (.error errTxClosed,db)
  | some tables =>
    match statement tables with
    | .error err => (.error err,db)
    | .ok (a,writes) => (.ok a,db.write writes (querier ctx))

/-- An `INSERT` numbered by a sequence. -/
def insert (db : Database) (ctx : Context) (sequence : Sequence) (statement : ℕ → Statement α) :
    Except Error α × Database :=
  let n := db.sequences sequence + 1
  match db.query ctx (statement n) with
  | (.ok a,db') => (.ok a,{ db' with sequences := Function.update db'.sequences sequence n })
  | (.error err,db') => (.error err,db')

def begin (db : Database) : Except Error ℕ × Database :=
  (.ok db.begun,{ db with
    transactions := Function.update db.transactions db.begun (some []), begun := db.begun + 1 })

def commit (db : Database) (tx : ℕ) : Except Error Unit × Database :=
  match db.transactions tx with
  | none => (.error errTxClosed,db)
  | some writes => (.ok (),{ db with
      tables := db.tables.writeAll writes
      transactions := Function.update db.transactions tx none })

def rollback (db : Database) (tx : ℕ) : Except Error Unit × Database :=
  match db.transactions tx with
  | none => (.error errTxClosed,db)
  | some _ => (.ok (),{ db with transactions := Function.update db.transactions tx none })

end Database

/-- What a clock, a driver and a team authority answer at one moment; `timestamptz` is what a
column of that type keeps of an instant. -/
structure Env where
  now : Time
  timestamptz : Time → Time
  isActiveSupervisorOf : String → String → Except Error Bool
  supervisedAssigneeUserIDs : String → Except Error (List String)

section Statements
variable (env : Env)

/-- `PostgresStore.Create`. -/
def insertWorkItem (item : WorkItem) (n : ℕ) : Statement WorkItem := fun _ =>
  let row := { item with
    id := sprintf04d "workitem-" n, referenceCode := sprintf04d "WI-" n
    dueAt := item.dueAt.map env.timestamptz
    createdAt := env.timestamptz item.createdAt, updatedAt := env.timestamptz item.updatedAt }
  .ok (row,[.workItem row])

/-- `PostgresStore.GetByID`. -/
def selectWorkItem (id : String) : Statement WorkItem := fun t =>
  match t.workItems.find? fun row => row.id = id with
  | none => .error errNotFound
  | some row => .ok (row,[])

/-- The listings of `PostgresStore`, rows of one instant in the order of the table. -/
def selectWorkItems (test : WorkItem → Bool) : Statement (List WorkItem) := fun t =>
  .ok (MemoryStore.newestFirst (t.workItems.filter test),[])

/-- `PostgresStore.Update`: neither the creator nor the instant of creation is written. -/
def updateWorkItem (item : WorkItem) : Statement WorkItem := fun t =>
  match t.workItems.find? fun row => row.id = item.id with
  | none => .error errNotFound
  | some old =>
    let row := { old with
      title := item.title, description := item.description, status := item.status
      priority := item.priority, assignedToUserID := item.assignedToUserID
      locationText := item.locationText, dueAt := item.dueAt.map env.timestamptz
      updatedAt := env.timestamptz item.updatedAt }
    .ok (row,[.workItem row])

/-- `PostgresStatusHistoryStore.Create`. -/
def insertStatusHistory (entry : StatusHistory) (n : ℕ) : Statement StatusHistory := fun _ =>
  let row := { entry with
    id := sprintf04d "statushistory-" n, createdAt := env.timestamptz entry.createdAt }
  .ok (row,[.statusHistory row])

def selectStatusHistory (workItemID : String) : Statement (List StatusHistory) := fun t =>
  .ok (sliceStable (fun a b => decide (a.createdAt < b.createdAt))
    (t.statusHistory.filter fun row => row.workItemID = workItemID),[])

/-- `PostgresAssignmentStore.Create`: the row of the work item is overwritten, but for its id. -/
def upsertAssignment (assignment : Assignment) (n : ℕ) : Statement Assignment := fun t =>
  let existing := t.assignments.find? fun row => row.workItemID = assignment.workItemID
  let row := { assignment with
    id := (existing.map (·.id)).getD (sprintf04d "assignment-" n)
    assignedAt := env.timestamptz assignment.assignedAt
    respondedAt := assignment.respondedAt.map env.timestamptz }
  .ok (row,[.assignment row])

/-- `PostgresAssignmentStore.GetByWorkItemID`. -/
def selectAssignment (workItemID : String) : Statement Assignment := fun t =>
  match t.assignments.find? fun row => row.workItemID = workItemID with
  | none => .error errAssignmentNotFound
  | some row => .ok (row,[])

/-- `PostgresAssignmentStore.Update`. -/
def updateAssignment (assignment : Assignment) : Statement Assignment := fun t =>
  match t.assignments.find? fun row => row.workItemID = assignment.workItemID with
  | none => .error errAssignmentNotFound
  | some old =>
    let row := { old with
      status := assignment.status, respondedAt := assignment.respondedAt.map env.timestamptz
      responseNote := assignment.responseNote }
    .ok (row,[.assignment row])

/-- `PostgresAssignmentHistoryStore.Create`. -/
def insertAssignmentHistory (entry : AssignmentHistory) (n : ℕ) : Statement AssignmentHistory :=
  fun _ =>
    let row := { entry with
      id := sprintf04d "assignmenthistory-" n, createdAt := env.timestamptz entry.createdAt }
    .ok (row,[.assignmentHistory row])

def selectAssignmentHistory (workItemID : String) : Statement (List AssignmentHistory) := fun t =>
  .ok (sliceStable (fun a b => decide (a.createdAt < b.createdAt))
    (t.assignmentHistory.filter fun row => row.workItemID = workItemID),[])

/-- `notifications.PostgresStore.Create`. -/
def insertNotification (notification : Notifications.Notification) (n : ℕ) :
    Statement Notifications.Notification := fun _ =>
  let row := { notification with
    id := Notifications.notificationID n, readAt := notification.readAt.map env.timestamptz
    createdAt := env.timestamptz notification.createdAt }
  .ok (row,[.notification row])

def selectNotification (id : String) : Statement Notifications.Notification := fun t =>
  match t.notifications.find? fun row => row.id = id with
  | none => .error Notifications.errNotFound
  | some row => .ok (row,[])

def updateNotification (notification : Notifications.Notification) :
    Statement Notifications.Notification := fun t =>
  match t.notifications.find? fun row => row.id = notification.id with
  | none => .error Notifications.errNotFound
  | some old =>
    let row := { old with readAt := notification.readAt.map env.timestamptz }
    .ok (row,[.notification row])

def selectNotifications (recipientUserID : String) (onlyUnread : Bool) :
    Statement (List Notifications.Notification) := fun t =>
  .ok (Notifications.MemoryStore.listByRecipientUserID t.notifications recipientUserID onlyUnread,[])

/-- One call of the notification service. -/
def notificationExec : (op : Notifications.Op) → Database → op.Res × Database
  | .storeCreate ctx notification, db =>
    db.insert ctx .notifications (insertNotification env notification)
  | .storeGetByID ctx id, db => db.query ctx (selectNotification id)
  | .storeUpdate ctx notification, db => db.query ctx (updateNotification env notification)
  | .storeListByRecipientUserID ctx recipientUserID onlyUnread, db =>
    db.query ctx (selectNotifications recipientUserID onlyUnread)
  | .now, db => (env.now,db)

/-- One call of the work item service, where nothing fails. -/
def exec : (op : Op) → Database → op.Res × Database
  | .storeCreate ctx item, db => db.insert ctx .workItems (insertWorkItem env item)
  | .storeList ctx, db => db.query ctx (selectWorkItems fun _ => true)
  | .storeListByAssignedToUserID ctx userID, db =>
    db.query ctx (selectWorkItems fun row => row.assignedToUserID = some userID)
  | .storeListByCreatedByUserID ctx userID, db =>
    db.query ctx (selectWorkItems fun row => row.createdByUserID = userID)
  | .storeGetByID ctx id, db => db.query ctx (selectWorkItem id)
  | .storeUpdate ctx item, db => db.query ctx (updateWorkItem env item)
  | .historyCreate ctx entry, db => db.insert ctx .statusHistory (insertStatusHistory env entry)
  | .historyListByWorkItemID ctx workItemID, db => db.query ctx (selectStatusHistory workItemID)
  | .assignmentCreate ctx assignment, db =>
    db.insert ctx .assignments (upsertAssignment env assignment)
  | .assignmentGetByWorkItemID ctx workItemID, db => db.query ctx (selectAssignment workItemID)
  | .assignmentUpdate ctx assignment, db => db.query ctx (updateAssignment env assignment)
  | .assignmentHistoryCreate ctx entry, db =>
    db.insert ctx .assignmentHistory (insertAssignmentHistory env entry)
  | .assignmentHistoryListByWorkItemID ctx workItemID, db =>
    db.query ctx (selectAssignmentHistory workItemID)
  | .notify ctx recipientUserID workItemID kind message, db =>
    (Notifications.notify ctx recipientUserID workItemID kind message).run (notificationExec env) db
  | .isActiveSupervisorOf _ supervisorUserID assigneeUserID, db =>
    (env.isActiveSupervisorOf supervisorUserID assigneeUserID,db)
  | .supervisedAssigneeUserIDs _ supervisorUserID, db =>
    (env.supervisedAssigneeUserIDs supervisorUserID,db)
  | .poolBegin _, db => db.begin
  | .txCommit _ tx, db => db.commit tx
  | .txRollback _ tx, db => db.rollback tx
  | .now, db => (env.now,db)

end Statements

/-- The answer is an error; a clock gives none. -/
def Failed : (op : Op) → op.Res → Prop
  | .storeCreate _ _, r | .storeGetByID _ _, r | .storeUpdate _ _, r => ∃ err, r = .error err
  | .storeList _, r | .storeListByAssignedToUserID _ _, r | .storeListByCreatedByUserID _ _, r =>
    ∃ err, r = .error err
  | .historyCreate _ _, r | .historyListByWorkItemID _ _, r => ∃ err, r = .error err
  | .assignmentCreate _ _, r | .assignmentGetByWorkItemID _ _, r | .assignmentUpdate _ _, r =>
    ∃ err, r = .error err
  | .assignmentHistoryCreate _ _, r | .assignmentHistoryListByWorkItemID _ _, r =>
    ∃ err, r = .error err
  | .notify _ _ _ _ _, r | .isActiveSupervisorOf _ _ _, r | .supervisedAssigneeUserIDs _ _, r =>
    ∃ err, r = .error err
  | .poolBegin _, r | .txCommit _ _, r | .txRollback _ _, r => ∃ err, r = .error err
  | .now, _ => False

/-- What a failed call may do: numbers of a sequence may be taken, and a transaction may be lost,
but nothing of it reaches the tables. -/
structure Fails (db db' : Database) : Prop where
  tables : db'.tables = db.tables
  journal : db'.journal = db.journal
  transactions : ∀ tx, db'.transactions tx = db.transactions tx ∨ db'.transactions tx = none

/-- One call, which may fail with any error. -/
def Answers (op : Op) (db : Database) (r : op.Res) (db' : Database) : Prop :=
  (∃ env, exec env op db = (r,db')) ∨ (Failed op r ∧ Fails db db')

def pool : Db.Pool Op.Res where
  begin ctx := call (.poolBegin ctx) fromResult
  commit ctx tx := call (.txCommit ctx tx) fromResult
  rollback ctx tx := call (.txRollback ctx tx) fromResult

/-- `db.PoolTxRunner`. -/
def poolTxRunner : TxRunner := ⟨fun ctx fn => Db.withTx pool ctx fn⟩

end Postgres

/-- The wiring with a database. -/
def Service.postgres (hasNotifier hasTeamAuthority : Bool) : Service :=
  ⟨hasNotifier,hasTeamAuthority,some Postgres.poolTxRunner⟩

end OpsPlatform.Workitems
