import OpsPlatform.Interaction.Program
import OpsPlatform.Workitems.Types

/-! `workitems.Service` as programs over the calls it makes on its stores, its notifier, its team
authority and its clock. Every method takes the request context and hands it, or the context of
the transaction it opened, to each of these calls. -/
namespace OpsPlatform.Workitems
open OpsPlatform.Go Interaction Program

inductive Op
  | storeCreate (ctx : Context) (item : WorkItem)
  | storeList (ctx : Context)
  | storeListByAssignedToUserID (ctx : Context) (userID : String)
  | storeListByCreatedByUserID (ctx : Context) (userID : String)
  | storeGetByID (ctx : Context) (id : String)
  | storeUpdate (ctx : Context) (item : WorkItem)
  | historyCreate (ctx : Context) (entry : StatusHistory)
  | historyListByWorkItemID (ctx : Context) (workItemID : String)
  | assignmentCreate (ctx : Context) (assignment : Assignment)
  | assignmentGetByWorkItemID (ctx : Context) (workItemID : String)
  | assignmentUpdate (ctx : Context) (assignment : Assignment)
  | assignmentHistoryCreate (ctx : Context) (entry : AssignmentHistory)
  | assignmentHistoryListByWorkItemID (ctx : Context) (workItemID : String)
  | notify (ctx : Context) (recipientUserID workItemID kind message : String)
  | isActiveSupervisorOf (ctx : Context) (supervisorUserID assigneeUserID : String)
  | supervisedAssigneeUserIDs (ctx : Context) (supervisorUserID : String)
  | poolBegin (ctx : Context)
  | txCommit (ctx : Context) (tx : ℕ)
  | txRollback (ctx : Context) (tx : ℕ)
  | now

abbrev Op.Res : Op → Type
  | .storeCreate _ _ => Except Error WorkItem
  | .storeList _ => Except Error (List WorkItem)
  | .storeListByAssignedToUserID _ _ => Except Error (List WorkItem)
  | .storeListByCreatedByUserID _ _ => Except Error (List WorkItem)
  | .storeGetByID _ _ => Except Error WorkItem
  | .storeUpdate _ _ => Except Error WorkItem
  | .historyCreate _ _ => Except Error StatusHistory
  | .historyListByWorkItemID _ _ => Except Error (List StatusHistory)
  | .assignmentCreate _ _ => Except Error Assignment
  | .assignmentGetByWorkItemID _ _ => Except Error Assignment
  | .assignmentUpdate _ _ => Except Error Assignment
  | .assignmentHistoryCreate _ _ => Except Error AssignmentHistory
  | .assignmentHistoryListByWorkItemID _ _ => Except Error (List AssignmentHistory)
  | .notify _ _ _ _ _ => Except Error Unit
  | .isActiveSupervisorOf _ _ _ => Except Error Bool
  | .supervisedAssigneeUserIDs _ _ => Except Error (List String)
  | .poolBegin _ => Except Error ℕ
  | .txCommit _ _ => Except Error Unit
  | .txRollback _ _ => Except Error Unit
  | .now => Time

abbrev M (α : Type) := Program Op.Res Error α

structure TxRunner where
  withTx : {α : Type} → Context → (Context → M α) → M α

/-- The optional parts of a service; a flag is false where the Go field is nil. -/
structure Service where
  hasNotifier : Bool
  hasTeamAuthority : Bool
  txRunner : Option TxRunner

/-- The wiring without a database: `router.New` passes no transaction runner. -/
def Service.inMemory (hasNotifier hasTeamAuthority : Bool) : Service :=
  ⟨hasNotifier,hasTeamAuthority,none⟩

def Service.runAtomic {α : Type} (s : Service) (ctx : Context) (fn : Context → M α) : M α :=
  match s.txRunner with
  | none => fn ctx
  | some runner => runner.withTx ctx fn

/-- The trimmed text behind a pointer, nil when there is none or it is blank. -/
def trimmedOrNil (raw : Option String) : Option String :=
  raw.bind fun text => if trimSpace text = "" then none else some (trimSpace text)

/-- The row `Create` hands to the store, which numbers it. -/
def newItem (createdByUserID : String) (input : CreateInput) (now : Time) : WorkItem where
  id := ""
  referenceCode := ""
  title := trimSpace input.title
  description := trimSpace input.description
  status := .created
  priority := input.priority
  createdByUserID := createdByUserID
  assignedToUserID := none
  locationText := trimmedOrNil input.locationText
  dueAt := input.dueAt
  createdAt := now
  updatedAt := now

def Service.create (_ : Service) (ctx : Context) (createdByUserID : String)
    (input : CreateInput) : M WorkItem := do
  failIf (trimSpace createdByUserID = "") errInvalidInput
  failIf (trimSpace input.title = "" ∨ trimSpace input.description = "") errInvalidInput
  failIf (¬ input.priority.isValid) errInvalidPriority
  let now ← call .now ret
  call (.storeCreate ctx (newItem createdByUserID input now)) fromResult

/-- `supervisorMayActOn`. -/
def Service.supervisorMayActOn (s : Service) (ctx : Context) (actorUserID : String)
    (item : WorkItem) : M Bool :=
  match item.assignedToUserID with
  | none => return item.createdByUserID = actorUserID
  | some assignee =>
    if ¬ s.hasTeamAuthority then return false
    else call (.isActiveSupervisorOf ctx actorUserID assignee) fromResult

/-- The assignees under the caller; none where no team authority is configured. -/
def Service.supervisedIDs (s : Service) (ctx : Context) (callerUserID : String) :
    M (List String) :=
  if s.hasTeamAuthority then call (.supervisedAssigneeUserIDs ctx callerUserID) fromResult
  else return []

def Service.listForSupervisor (s : Service) (ctx : Context) (callerUserID : String) :
    M (List WorkItem) := do
  let all ← call (.storeList ctx) fromResult
  let supervised ← s.supervisedIDs ctx callerUserID
  return all.filter fun item =>
    match item.assignedToUserID with
    | some assignee => supervised.contains assignee
    | none => item.createdByUserID = callerUserID

def Service.list (s : Service) (ctx : Context) (callerUserID : String)
    (callerIsAdmin callerIsSupervisor callerIsRequester : Bool) : M (List WorkItem) :=
  if callerIsAdmin then call (.storeList ctx) fromResult
  else do
    failIf (trimSpace callerUserID = "") errInvalidInput
    if callerIsSupervisor then s.listForSupervisor ctx callerUserID
    else if callerIsRequester then call (.storeListByCreatedByUserID ctx callerUserID) fromResult
    else call (.storeListByAssignedToUserID ctx callerUserID) fromResult

def Service.getByID (s : Service) (ctx : Context) (id callerUserID : String)
    (callerIsAdmin callerIsSupervisor callerIsRequester : Bool) : M WorkItem := do
  failIf (trimSpace id = "") errInvalidInput
  let item ← call (.storeGetByID ctx id) fromResult
  if callerIsAdmin then return item
  else if callerIsSupervisor then do
    let allowed ← s.supervisorMayActOn ctx callerUserID item
    failIf (¬ allowed) errNotFound
    return item
  else if callerIsRequester then do
    failIf (item.createdByUserID ≠ callerUserID) errNotFound
    return item
  else do
    failIf (item.assignedToUserID ≠ some callerUserID) errNotFound
    return item

/-- Who may edit: the switch of `Update`. -/
def Service.authorizeUpdate (s : Service) (ctx : Context) (callerUserID : String)
    (callerIsAdmin callerIsSupervisor : Bool) (item : WorkItem) : M Unit :=
  if callerIsAdmin then return ()
  else if callerIsSupervisor then do
    let allowed ← s.supervisorMayActOn ctx callerUserID item
    failIf (¬ allowed) errNotFound
    failIf (item.assignedToUserID ≠ none) errAlreadyAssigned
  else fail errNotFound

/-- An edit of a text field that may not become blank. -/
def editText (raw : Option String) (write : String → WorkItem) (item : WorkItem) :
    Except Error WorkItem :=
  match raw with
  | none => .ok item
  | some text =>
    if trimSpace text = "" then .error errInvalidInput else .ok (write (trimSpace text))

def editPriority (raw : Option Priority) (item : WorkItem) : Except Error WorkItem :=
  match raw with
  | none => .ok item
  | some priority =>
    if ¬ priority.isValid then .error errInvalidPriority else .ok { item with priority }

/-- A blank location clears the field. -/
def editLocationText (raw : Option String) (item : WorkItem) : WorkItem :=
  match raw with
  | none => item
  | some location => { item with locationText := trimmedOrNil (some location) }

def editDueAt (raw : Option Time) (item : WorkItem) : WorkItem :=
  match raw with
  | none => item
  | some dueAt => { item with dueAt := some dueAt }

/-- The field edits of `Update`, in its order of checks; `UpdatedAt` comes last. -/
def UpdateInput.apply (input : UpdateInput) (item : WorkItem) : Except Error WorkItem := do
  let item ← editText input.title (fun title => { item with title }) item
  let item ← editText input.description (fun description => { item with description }) item
  let item ← editPriority input.priority item
  return editDueAt input.dueAt (editLocationText input.locationText item)

def editedItem (edited : WorkItem) (now : Time) : WorkItem := { edited with updatedAt := now }

def Service.update (s : Service) (ctx : Context) (id callerUserID : String)
    (callerIsAdmin callerIsSupervisor : Bool) (input : UpdateInput) : M WorkItem := do
  failIf (trimSpace id = "") errInvalidInput
  let item ← call (.storeGetByID ctx id) fromResult
  s.authorizeUpdate ctx callerUserID callerIsAdmin callerIsSupervisor item
  let edited ← fromResult (input.apply item)
  let now ← call .now ret
  call (.storeUpdate ctx (editedItem edited now)) fromResult

/-- Recipient, kind and message, for the four statuses somebody waits for. -/
def notificationForStatusChange (item : WorkItem) : Option (String × String × String) :=
  match item.status with
  | .submittedForReview =>
    some (item.createdByUserID,"evidence_submitted",
      item.referenceCode ++ " was submitted for review")
  | .flagged => item.assignedToUserID.map fun assignee =>
      (assignee,"work_flagged",item.referenceCode ++ " was flagged and needs rework")
  | .verified => item.assignedToUserID.map fun assignee =>
      (assignee,"work_verified",item.referenceCode ++ " was verified")
  | .completed => item.assignedToUserID.map fun assignee =>
      (assignee,"work_completed",item.referenceCode ++ " was marked completed")
  | _ => none

def statusEntry (workItemID : String) (src dst : Status) (actorUserID : String)
    (rawReason : Option String) (now : Time) : StatusHistory :=
  ⟨"",workItemID,some src,dst,actorUserID,trimmedOrNil rawReason,now⟩

def Service.recordStatusChange (_ : Service) (ctx : Context) (workItemID : String)
    (src dst : Status) (actorUserID : String) (rawReason : Option String) (now : Time) :
    M Unit := do
  let _ ← call (.historyCreate ctx (statusEntry workItemID src dst actorUserID rawReason now))
    fromResult
  return ()

def assignmentEvent (workItemID : String) (action : AssignmentStatus)
    (actorUserID assignedToUserID : String) (rawNote : Option String) (now : Time) :
    AssignmentHistory :=
  ⟨"",workItemID,action,actorUserID,assignedToUserID,trimmedOrNil rawNote,now⟩

def Service.recordAssignmentEvent (_ : Service) (ctx : Context) (workItemID : String)
    (action : AssignmentStatus) (actorUserID assignedToUserID : String)
    (rawNote : Option String) (now : Time) : M Unit := do
  let _ ← call (.assignmentHistoryCreate ctx
    (assignmentEvent workItemID action actorUserID assignedToUserID rawNote now)) fromResult
  return ()

/-- `notify`, the nil-safe wrapper around the notifier. -/
def Service.notify (s : Service) (ctx : Context)
    (recipientUserID workItemID kind message : String) : M Unit :=
  if ¬ s.hasNotifier then return ()
  else call (.notify ctx recipientUserID workItemID kind message) fromResult

/-- Who may trigger which move: the switch of `ChangeStatus`. -/
def Service.authorizeChangeStatus (s : Service) (ctx : Context) (actorUserID : String)
    (actorIsAdmin actorIsSupervisor actorIsRequester : Bool) (item : WorkItem)
    (toStatus : Status) : M Unit :=
  if actorIsAdmin then failIf (¬ isValidTransition item.status toStatus) errInvalidTransition
  else if actorIsSupervisor then do
    let allowed ← s.supervisorMayActOn ctx actorUserID item
    failIf (¬ allowed) errNotFound
    failIf (¬ isValidTransition item.status toStatus) errInvalidTransition
  else if actorIsRequester then fail errNotFound
  else do
    failIf (item.assignedToUserID ≠ some actorUserID) errNotFound
    failIf (¬ isAssigneeAllowedTransition item.status toStatus) errInvalidTransition

def movedItem (item : WorkItem) (toStatus : Status) (now : Time) : WorkItem :=
  { item with status := toStatus, updatedAt := now }

def Service.changeStatus (s : Service) (ctx : Context) (id actorUserID : String)
    (actorIsAdmin actorIsSupervisor actorIsRequester : Bool) (input : ChangeStatusInput) :
    M WorkItem := do
  failIf (trimSpace id = "" ∨ trimSpace actorUserID = "") errInvalidInput
  failIf (¬ input.toStatus.isValid) errInvalidStatus
  failIf (input.toStatus = .flagged ∧ trimmedOrNil input.reason = none) errFeedbackRequired
  s.runAtomic ctx fun ctx => do
    let item ← call (.storeGetByID ctx id) fromResult
    s.authorizeChangeStatus ctx actorUserID actorIsAdmin actorIsSupervisor actorIsRequester item
      input.toStatus
    let now ← call .now ret
    let updated ← call (.storeUpdate ctx (movedItem item input.toStatus now)) fromResult
    s.recordStatusChange ctx id item.status input.toStatus actorUserID input.reason now
    match notificationForStatusChange updated with
    | none => return updated
    | some (recipientUserID,kind,message) => do
      s.notify ctx recipientUserID id kind message
      return updated

/-- Who may assign, and to whom: the switch of `AssignWorkItem`. -/
def Service.authorizeAssign (s : Service) (ctx : Context)
    (assignedByUserID assignedToUserID : String) (assignedByIsAdmin assignedByIsSupervisor : Bool)
    (item : WorkItem) : M Unit :=
  if assignedByIsAdmin then return ()
  else if assignedByIsSupervisor then do
    let allowed ← s.supervisorMayActOn ctx assignedByUserID item
    failIf (¬ allowed) errNotFound
    failIf (¬ s.hasTeamAuthority) errNotFound
    let destinationAllowed ←
      call (.isActiveSupervisorOf ctx assignedByUserID assignedToUserID) fromResult
    failIf (¬ destinationAllowed) errNotFound
  else fail errNotFound

def assignedItem (item : WorkItem) (assignedToUserID : String) (now : Time) : WorkItem :=
  { item with status := .assigned, assignedToUserID := some assignedToUserID, updatedAt := now }

def newAssignment (workItemID assignedByUserID assignedToUserID : String) (now : Time) :
    Assignment :=
  ⟨"",workItemID,assignedByUserID,assignedToUserID,.assigned,now,none,none⟩

def Service.assignWorkItem (s : Service) (ctx : Context) (workItemID assignedByUserID : String)
    (assignedByIsAdmin assignedByIsSupervisor : Bool) (input : AssignInput) : M Assignment := do
  let assignedToUserID := trimSpace input.assignedToUserID
  failIf (trimSpace workItemID = "" ∨ trimSpace assignedByUserID = "" ∨ assignedToUserID = "")
    errInvalidInput
  s.runAtomic ctx fun ctx => do
    let item ← call (.storeGetByID ctx workItemID) fromResult
    s.authorizeAssign ctx assignedByUserID assignedToUserID assignedByIsAdmin
      assignedByIsSupervisor item
    failIf (¬ isValidTransition item.status .assigned) errInvalidTransition
    let now ← call .now ret
    let _ ← call (.storeUpdate ctx (assignedItem item assignedToUserID now)) fromResult
    s.recordStatusChange ctx workItemID item.status .assigned assignedByUserID none now
    let assignment ← call (.assignmentCreate ctx
      (newAssignment workItemID assignedByUserID assignedToUserID now)) fromResult
    s.recordAssignmentEvent ctx workItemID .assigned assignedByUserID assignedToUserID none now
    s.notify ctx assignedToUserID workItemID "assignment_created"
      (item.referenceCode ++ " was assigned to you")
    return assignment

/-- The status the work item moves to when its assignee answers. -/
def respondedStatus (accept : Bool) : Status := if accept then .accepted else .created

/-- What the answer is recorded as. -/
def respondedAction (accept : Bool) : AssignmentStatus := if accept then .accepted else .declined

def respondedItem (item : WorkItem) (accept : Bool) (now : Time) : WorkItem :=
  { item with
    status := respondedStatus accept, updatedAt := now
    assignedToUserID := if accept then item.assignedToUserID else none }

def respondedAssignment (assignment : Assignment) (accept : Bool) (note : Option String)
    (now : Time) : Assignment :=
  { assignment with
    status := respondedAction accept, respondedAt := some now, responseNote := trimmedOrNil note }

/-- The end of `RespondToAssignment`: only an acceptance is notified. -/
def Service.notifyResponse (s : Service) (ctx : Context) (workItemID : String) (item : WorkItem)
    (assignment : Assignment) (accept : Bool) : M Unit :=
  if accept then
    s.notify ctx assignment.assignedByUserID workItemID "assignment_accepted"
      (item.referenceCode ++ " was accepted by the assignee")
  else return ()

def Service.respondToAssignment (s : Service) (ctx : Context)
    (workItemID respondingUserID : String) (respondingUserIsRequester accept : Bool)
    (input : RespondToAssignmentInput) : M Assignment := do
  failIf (trimSpace workItemID = "" ∨ trimSpace respondingUserID = "") errInvalidInput
  failIf (respondingUserIsRequester = true) errNotFound
  s.runAtomic ctx fun ctx => do
    let item ← call (.storeGetByID ctx workItemID) fromResult
    let assignment ← call (.assignmentGetByWorkItemID ctx workItemID) fromResult
    failIf (assignment.assignedToUserID ≠ respondingUserID) errAssignmentNotOwned
    failIf (assignment.status ≠ .assigned) errAssignmentNotPending
    failIf (¬ isValidTransition item.status (respondedStatus accept)) errInvalidTransition
    let now ← call .now ret
    let _ ← call (.storeUpdate ctx (respondedItem item accept now)) fromResult
    s.recordStatusChange ctx workItemID item.status (respondedStatus accept) respondingUserID
      input.note now
    let updated ← call (.assignmentUpdate ctx
      (respondedAssignment assignment accept input.note now)) fromResult
    s.recordAssignmentEvent ctx workItemID (respondedAction accept) respondingUserID
      assignment.assignedToUserID input.note now
    s.notifyResponse ctx workItemID item assignment accept
    return updated

/-- `mayView`. -/
def Service.mayView (s : Service) (ctx : Context) (item : WorkItem) (callerUserID : String)
    (callerIsAdmin callerIsSupervisor : Bool) : M Bool :=
  if callerIsAdmin then return true
  else if callerIsSupervisor then s.supervisorMayActOn ctx callerUserID item
  else return item.assignedToUserID = some callerUserID

/-- The common front of the three methods below: the work item exists and may be viewed. -/
def Service.requireView (s : Service) (ctx : Context) (workItemID callerUserID : String)
    (callerIsAdmin callerIsSupervisor : Bool) : M Unit := do
  failIf (trimSpace workItemID = "") errInvalidInput
  let item ← call (.storeGetByID ctx workItemID) fromResult
  let allowed ← s.mayView ctx item callerUserID callerIsAdmin callerIsSupervisor
  failIf (¬ allowed) errNotFound

def Service.listStatusHistory (s : Service) (ctx : Context) (workItemID callerUserID : String)
    (callerIsAdmin callerIsSupervisor : Bool) : M (List StatusHistory) := do
  s.requireView ctx workItemID callerUserID callerIsAdmin callerIsSupervisor
  call (.historyListByWorkItemID ctx workItemID) fromResult

def Service.listAssignmentHistory (s : Service) (ctx : Context)
    (workItemID callerUserID : String) (callerIsAdmin callerIsSupervisor : Bool) :
    M (List AssignmentHistory) := do
  s.requireView ctx workItemID callerUserID callerIsAdmin callerIsSupervisor
  call (.assignmentHistoryListByWorkItemID ctx workItemID) fromResult

def Service.getAssignment (s : Service) (ctx : Context) (workItemID callerUserID : String)
    (callerIsAdmin callerIsSupervisor : Bool) : M Assignment := do
  s.requireView ctx workItemID callerUserID callerIsAdmin callerIsSupervisor
  call (.assignmentGetByWorkItemID ctx workItemID) fromResult

end OpsPlatform.Workitems
