import OpsPlatform.Go.Basic

/-! The data of the work item package: statuses and their transition tables, the stored rows,
and the inputs of the service. -/
namespace OpsPlatform.Workitems
open OpsPlatform.Go

def errNotFound : Error := ⟨"work item not found"⟩
def errInvalidInput : Error := ⟨"invalid work item input"⟩
def errInvalidPriority : Error := ⟨"invalid work item priority"⟩
def errInvalidStatus : Error := ⟨"invalid work item status"⟩
def errInvalidTransition : Error := ⟨"status transition not allowed"⟩
def errAssignmentNotFound : Error := ⟨"assignment not found"⟩
def errAssignmentNotOwned : Error := ⟨"assignment does not belong to this user"⟩
def errAssignmentNotPending : Error := ⟨"assignment has already been responded to"⟩
def errFeedbackRequired : Error :=
  ⟨"feedback note is required when flagging a work item"⟩
def errAlreadyAssigned : Error :=
  ⟨"work item is already assigned and can no longer be edited by a supervisor"⟩

/-- A status string: one of the nine constants, or any other text a request may carry. -/
inductive Status
  | created
  | assigned
  | accepted
  | inProgress
  | submittedForReview
  | verified
  | flagged
  | completed
  | cancelled
  | other (text : String)
  deriving DecidableEq, Repr

/-- A missing key of the Go map reads as the empty slice. -/
def validStatusTransitions : Status → List Status
  | .created => [.assigned, .cancelled]
  | .assigned => [.accepted, .cancelled, .created]
  | .accepted => [.inProgress, .cancelled]
  | .inProgress => [.submittedForReview, .cancelled]
  | .submittedForReview => [.verified, .flagged, .cancelled]
  | .verified => [.completed, .cancelled]
  | .flagged => [.inProgress, .cancelled]
  | _ => []

def assigneeAllowedTransitions : Status → List Status
  | .accepted => [.inProgress]
  | .inProgress => [.submittedForReview]
  | .flagged => [.inProgress]
  | _ => []

def isAssigneeAllowedTransition (src dst : Status) : Bool :=
  (assigneeAllowedTransitions src).contains dst

def isValidTransition (src dst : Status) : Bool := (validStatusTransitions src).contains dst

/-- `Status.IsValid`. -/
def Status.isValid : Status → Bool
  | .other _ => false
  | _ => true

/-- The end states of the lifecycle: no entry of the table leaves them. -/
def Status.Terminal (status : Status) : Prop := status = .completed ∨ status = .cancelled

instance (status : Status) : Decidable status.Terminal :=
  inferInstanceAs (Decidable (_ ∨ _))

theorem isValidTransition_iff (src dst : Status) :
    isValidTransition src dst = true ↔ dst ∈ validStatusTransitions src := by
  simp [isValidTransition]

theorem not_isValidTransition_of_terminal {src : Status} (h : src.Terminal) (dst : Status) :
    isValidTransition src dst = false := by
  rcases h with rfl | rfl <;> rfl

/-- An assignee may trigger nothing the full table does not allow. -/
theorem isValidTransition_of_isAssigneeAllowedTransition {src dst : Status}
    (h : isAssigneeAllowedTransition src dst = true) : isValidTransition src dst = true := by
  cases src <;> simp_all [isAssigneeAllowedTransition, assigneeAllowedTransitions,
    isValidTransition, validStatusTransitions]

/-- A priority string: one of the three constants or any other text. -/
inductive Priority
  | low
  | medium
  | high
  | other (text : String)
  deriving DecidableEq, Repr

/-- `Priority.IsValid`. -/
def Priority.isValid : Priority → Bool
  | .other _ => false
  | _ => true

structure WorkItem where
  id : String
  referenceCode : String
  title : String
  description : String
  status : Status
  priority : Priority
  createdByUserID : String
  assignedToUserID : Option String
  locationText : Option String
  dueAt : Option Time
  createdAt : Time
  updatedAt : Time
  deriving DecidableEq, Repr

/-- The zero value of the Go struct. -/
def WorkItem.zero : WorkItem :=
  ⟨"","","","",.other "",.other "","",none,none,none,zeroTime,zeroTime⟩

structure CreateInput where
  title : String
  description : String
  priority : Priority
  locationText : Option String
  dueAt : Option Time
  deriving DecidableEq, Repr

structure UpdateInput where
  title : Option String
  description : Option String
  priority : Option Priority
  locationText : Option String
  dueAt : Option Time
  deriving DecidableEq, Repr

structure StatusHistory where
  id : String
  workItemID : String
  fromStatus : Option Status
  toStatus : Status
  changedByUserID : String
  reason : Option String
  createdAt : Time
  deriving DecidableEq, Repr

structure ChangeStatusInput where
  toStatus : Status
  reason : Option String
  deriving DecidableEq, Repr

inductive AssignmentStatus
  | assigned
  | accepted
  | declined
  deriving DecidableEq, Repr

structure Assignment where
  id : String
  workItemID : String
  assignedByUserID : String
  assignedToUserID : String
  status : AssignmentStatus
  assignedAt : Time
  respondedAt : Option Time
  responseNote : Option String
  deriving DecidableEq, Repr

structure AssignmentHistory where
  id : String
  workItemID : String
  action : AssignmentStatus
  actorUserID : String
  assignedToUserID : String
  note : Option String
  createdAt : Time
  deriving DecidableEq, Repr

structure AssignInput where
  assignedToUserID : String
  deriving DecidableEq, Repr

structure RespondToAssignmentInput where
  note : Option String
  deriving DecidableEq, Repr

end OpsPlatform.Workitems
