import OpsPlatform.Interaction.Embed
import OpsPlatform.Auth.Types
import OpsPlatform.Teams.Store
import OpsPlatform.Workitems.Types
import OpsPlatform.Notifications.Service
import OpsPlatform.Attachments.Service

/-! What all HTTP handlers share: the request as a handler sees it, the response, and the early
responses that end a handler. -/
namespace OpsPlatform.Http
open OpsPlatform.Go Interaction Program
open OpsPlatform.Auth (Role Principal)

/-- A request as a handler sees it: the path value `id`, the principal of its context, and what
decoding its body gives, none where that fails. -/
structure Req (Input : Type) where
  ctx : Context
  id : String
  principal : Option Principal
  body : Option Input

inductive Body
  | empty
  | message (text : String)
  | item (item : Workitems.WorkItem)
  | assignment (assignment : Workitems.Assignment)
  | statusHistory (rows : List Workitems.StatusHistory)
  | assignmentHistory (rows : List Workitems.AssignmentHistory)
  | attachment (attachment : Attachments.Attachment)
  | user (user : Auth.User)
  | createdUser (user : Auth.User) (tempPassword : String)
  | tempPassword (tempPassword : String)
  | team (team : Teams.Team)
  | membership (membership : Teams.Membership)
  | supervision (supervision : Teams.Supervision)
  | notification (notification : Notifications.Notification)
  | notifications (rows : List Notifications.Notification)
  deriving DecidableEq, Repr

structure Response where
  status : ℕ
  body : Body
  deriving DecidableEq, Repr

/-- The response to an error of a service: errors the caller made are told as they are, some others
have a status and a text of their own. -/
def errorSwitch (own : List Error) (named : List (Error × Response)) (fallback : String)
    (err : Error) : Response :=
  if err ∈ own then ⟨400,.message err.text⟩
  else (named.lookup err).getD ⟨500,.message fallback⟩

lemma errorSwitch_status {own : List Error} {named : List (Error × Response)} {status : ℕ}
    (hnamed : ∀ entry ∈ named, entry.2.status ≠ status) (hown : status ≠ 400)
    (hfallback : status ≠ 500) (fallback : String) (err : Error) :
    (errorSwitch own named fallback err).status ≠ status := by
  unfold errorSwitch
  split_ifs
  · exact hown.symm
  · cases hlookup : named.lookup err with
    | none => exact hfallback.symm
    | some response =>
      obtain ⟨front,rest,hsplit,_⟩ := List.lookup_eq_some_iff.mp hlookup
      exact hnamed (err,response) (by simp [hsplit])

section
variable {Op : Type} {Res : Op → Type} {α Input : Type}

def require (value : Option α) (status : ℕ) (text : String) : Program Res Response α :=
  match value with
  | some a => ret a
  | none => fail ⟨status,.message text⟩

def decodeJSON (r : Req Input) : Program Res Response Input :=
  require r.body 400 "invalid request payload"

def principalFromContext (r : Req Input) : Program Res Response Principal :=
  require r.principal 401 "authentication required"

end
end OpsPlatform.Http
