import OpsPlatform.Workitems.Memory
import OpsPlatform.Http.Basic

/-! The HTTP handlers of work items and attachments. A handler decodes its request, calls the
services and writes one response; an early response ends it. -/
namespace OpsPlatform.Http
open OpsPlatform.Go OpsPlatform.Workitems Interaction Program
open OpsPlatform.Auth (Role Principal)

inductive Op
  | work (op : Workitems.Op)
  | attachments (op : Attachments.Op)

abbrev Op.Res : Op → Type
  | .work op => op.Res
  | .attachments op => op.Res

/-- A handler under way; an early response is its error. -/
abbrev H (α : Type) := Program Op.Res Response α

/-- A call of the work item service, its error answered by `onError`. -/
def work {α : Type} (onError : Error → Response) (p : Workitems.M α) : H α :=
  p.translate Op.work (fun _ r => r) onError

/-- A call of the attachment service. -/
def attachments {α : Type} (onError : Error → Response) (p : Attachments.M α) : H α :=
  p.translate Op.attachments (fun _ r => r) onError

def notFound : Error × Response := (errNotFound,⟨404,.message "work item not found"⟩)

def assignmentNotFound : Error × Response :=
  (errAssignmentNotFound,⟨404,.message "assignment not found"⟩)

/-- `writeWorkItemAccessError`. -/
def accessError : Error → Response :=
  errorSwitch [errInvalidInput] [notFound] "unable to fetch work item"

structure VerifyInput where
  note : Option String

structure FlagInput where
  note : String

structure WorkItemHandler where
  service : Service

namespace WorkItemHandler
variable (h : WorkItemHandler)

def create (r : Req CreateInput) : H Response := do
  let input ← decodeJSON r
  let principal ← principalFromContext r
  let item ← work (errorSwitch [errInvalidInput,errInvalidPriority] []
      "unable to create work item")
    (h.service.create r.ctx principal.userID input)
  return ⟨201,.item item⟩

def getByID (r : Req Unit) : H Response := do
  let principal ← principalFromContext r
  let item ← work (errorSwitch [errInvalidInput] [notFound] "unable to fetch work item")
    (h.service.getByID r.ctx r.id principal.userID (principal.hasRole .admin)
      (principal.hasRole .supervisor) (principal.hasRole .requester))
  return ⟨200,.item item⟩

def update (r : Req UpdateInput) : H Response := do
  let input ← decodeJSON r
  let principal ← principalFromContext r
  let item ← work (errorSwitch [errInvalidInput,errInvalidPriority,errAlreadyAssigned] [notFound]
      "unable to update work item")
    (h.service.update r.ctx r.id principal.userID (principal.hasRole .admin)
      (principal.hasRole .supervisor) input)
  return ⟨200,.item item⟩

/-- Before a work item goes to review: the caller sees it, and something is attached to it. -/
def requireEvidence (r : Req ChangeStatusInput) (principal : Principal) : H Unit := do
  let _ ← work accessError (h.service.getByID r.ctx r.id principal.userID
    (principal.hasRole .admin) (principal.hasRole .supervisor) false)
  let existing ← attachments (fun _ => ⟨500,.message "unable to check attachments"⟩)
    (Attachments.list r.ctx r.id)
  failIf (existing.length = 0)
    ⟨400,.message "at least one attachment is required before submitting for review"⟩

def changeStatus (r : Req ChangeStatusInput) : H Response := do
  let input ← decodeJSON r
  let principal ← principalFromContext r
  let _ ← if input.toStatus = .submittedForReview then h.requireEvidence r principal else ret ()
  let item ← work (errorSwitch
      [errInvalidInput,errInvalidStatus,errInvalidTransition,errFeedbackRequired] [notFound]
      "unable to change work item status")
    (h.service.changeStatus r.ctx r.id principal.userID (principal.hasRole .admin)
      (principal.hasRole .supervisor) (principal.hasRole .requester) input)
  return ⟨200,.item item⟩

def verify (r : Req VerifyInput) : H Response := do
  let input ← decodeJSON r
  let principal ← principalFromContext r
  let item ← work (errorSwitch [errInvalidInput,errInvalidTransition] [notFound]
      "unable to verify work item")
    (h.service.changeStatus r.ctx r.id principal.userID (principal.hasRole .admin)
      (principal.hasRole .supervisor) (principal.hasRole .requester) ⟨.verified,input.note⟩)
  return ⟨200,.item item⟩

def flag (r : Req FlagInput) : H Response := do
  let input ← decodeJSON r
  let note := trimSpace input.note
  failIf (note = "") ⟨400,.message "feedback note is required when flagging a work item"⟩
  let principal ← principalFromContext r
  let item ← work (errorSwitch [errInvalidInput,errInvalidTransition] [notFound]
      "unable to flag work item")
    (h.service.changeStatus r.ctx r.id principal.userID (principal.hasRole .admin)
      (principal.hasRole .supervisor) (principal.hasRole .requester) ⟨.flagged,some note⟩)
  return ⟨200,.item item⟩

def listStatusHistory (r : Req Unit) : H Response := do
  let principal ← principalFromContext r
  let history ← work (errorSwitch [errInvalidInput] [notFound] "unable to fetch status history")
    (h.service.listStatusHistory r.ctx r.id principal.userID (principal.hasRole .admin)
      (principal.hasRole .supervisor))
  return ⟨200,.statusHistory history⟩

def listAssignmentHistory (r : Req Unit) : H Response := do
  let principal ← principalFromContext r
  let history ← work (errorSwitch [errInvalidInput] [notFound]
      "unable to fetch assignment history")
    (h.service.listAssignmentHistory r.ctx r.id principal.userID (principal.hasRole .admin)
      (principal.hasRole .supervisor))
  return ⟨200,.assignmentHistory history⟩

def assign (r : Req AssignInput) : H Response := do
  let input ← decodeJSON r
  let principal ← principalFromContext r
  let assignment ← work (errorSwitch [errInvalidInput,errInvalidTransition] [notFound]
      "unable to assign work item")
    (h.service.assignWorkItem r.ctx r.id principal.userID (principal.hasRole .admin)
      (principal.hasRole .supervisor) input)
  return ⟨201,.assignment assignment⟩

def respondToAssignment (r : Req RespondToAssignmentInput) (accept : Bool) : H Response := do
  let input ← decodeJSON r
  let principal ← principalFromContext r
  let assignment ← work (errorSwitch [errInvalidInput,errInvalidTransition]
      [(errAssignmentNotOwned,⟨403,.message errAssignmentNotOwned.text⟩),
        (errAssignmentNotPending,⟨409,.message errAssignmentNotPending.text⟩),
        notFound,assignmentNotFound]
      "unable to respond to assignment")
    (h.service.respondToAssignment r.ctx r.id principal.userID (principal.hasRole .requester)
      accept input)
  return ⟨200,.assignment assignment⟩

def acceptAssignment (r : Req RespondToAssignmentInput) : H Response :=
  h.respondToAssignment r true

def declineAssignment (r : Req RespondToAssignmentInput) : H Response :=
  h.respondToAssignment r false

end WorkItemHandler

/-- The `file` field of a multipart upload. -/
structure FormFile where
  contentType : String
  filename : String
  content : List UInt8

/-- A parsed multipart form. -/
structure Form where
  file : Option FormFile
  kind : Attachments.Kind

structure AttachmentHandler where
  workItemService : Service

def AttachmentHandler.upload (h : AttachmentHandler) (r : Req Form) : H Response := do
  let principal ← principalFromContext r
  let _ ← work accessError (h.workItemService.getByID r.ctx r.id principal.userID
    (principal.hasRole .admin) (principal.hasRole .supervisor) false)
  let form ← require r.body 400 "invalid multipart upload"
  let file ← require form.file 400 "missing file field"
  let mimeType := if file.contentType = "" then "application/octet-stream" else file.contentType
  let attachment ← attachments (errorSwitch
      [Attachments.errInvalidInput,Attachments.errInvalidKind,Attachments.errEmptyFile] []
      "unable to upload attachment")
    (Attachments.upload r.ctx r.id principal.userID ⟨form.kind,mimeType⟩ file.content file.filename)
  return ⟨201,.attachment attachment⟩

/-- A request of one of the routes that may change a work item or its attachments. -/
inductive Request
  | create (r : Req CreateInput)
  | update (r : Req UpdateInput)
  | changeStatus (r : Req ChangeStatusInput)
  | verify (r : Req VerifyInput)
  | flag (r : Req FlagInput)
  | assign (r : Req AssignInput)
  | acceptAssignment (r : Req RespondToAssignmentInput)
  | declineAssignment (r : Req RespondToAssignmentInput)
  | upload (r : Req Form)

/-- The handler that serves a request. -/
def Request.program (s : Service) : Request → H Response
  | .create r => WorkItemHandler.create ⟨s⟩ r
  | .update r => WorkItemHandler.update ⟨s⟩ r
  | .changeStatus r => WorkItemHandler.changeStatus ⟨s⟩ r
  | .verify r => WorkItemHandler.verify ⟨s⟩ r
  | .flag r => WorkItemHandler.flag ⟨s⟩ r
  | .assign r => WorkItemHandler.assign ⟨s⟩ r
  | .acceptAssignment r => WorkItemHandler.acceptAssignment ⟨s⟩ r
  | .declineAssignment r => WorkItemHandler.declineAssignment ⟨s⟩ r
  | .upload r => AttachmentHandler.upload ⟨s⟩ r

structure State where
  work : Workitems.State
  attachments : Attachments.MemoryStore

def State.empty : State := ⟨.empty,.new⟩

/-- What the clock, the team authority, the notifier and the storage answer at one moment. -/
structure Env where
  work : Workitems.Env
  save : Context → String → List UInt8 → Except Error (String × Int)

/-- One atomic call on the in-memory stores. -/
def exec (env : Env) : (op : Op) → State → op.Res × State
  | .work op, st => ((Workitems.exec env.work op st.work).1,
      { st with work := (Workitems.exec env.work op st.work).2 })
  | .attachments (.storeCreate _ attachment), st => ((st.attachments.create attachment).1,
      { st with attachments := (st.attachments.create attachment).2 })
  | .attachments (.storeListByWorkItemID _ workItemID), st =>
    (st.attachments.listByWorkItemID workItemID,st)
  | .attachments (.storageSave ctx filename content), st => (env.save ctx filename content,st)
  | .attachments .now, st => (env.work.now,st)

/-- One atomic call, whatever the rest of the world answers. -/
def Answers (op : Op) (st : State) (r : op.Res) (st' : State) : Prop :=
  ∃ env : Env, exec env op st = (r,st')

/-- Concurrent requests on one set of stores. -/
abbrev Requests (ι : Type) := Pool ι Op.Res Response Response State

/-- All requests at their beginning. -/
def begin {ι : Type} (s : Service) (requests : ι → Request) (st : State) : Requests ι :=
  Pool.start st fun i => (requests i).program s

end OpsPlatform.Http
