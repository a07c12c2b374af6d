import OpsPlatform.Interaction.Trace
import OpsPlatform.Workitems.Service

/-! The life of one work item, apart from any store: its status, who holds it, the offer made to
that user, and the two records kept of it. Nothing here knows how the service computes a step. -/
namespace OpsPlatform.Workitems
open OpsPlatform.Go Interaction

structure Order where
  status : Status
  holder : Option String
  offer : Option Assignment
  trail : List StatusHistory
  events : List AssignmentHistory

def Order.initial : Order := ⟨.created,none,none,[],[]⟩

/-- What a participant did: through the status door, the assigning door or the answering door. -/
inductive Act
  | moved (dst : Status)
  | assigned
  | responded (accept : Bool)
  deriving DecidableEq, Repr

/-- The status an act leads to. -/
def Act.dst : Act → Status
  | .moved dst => dst
  | .assigned => .assigned
  | .responded accept => respondedStatus accept

/-- The acts since the last assignment, newest first. -/
def sinceAssigned (acts : List Act) : List Act :=
  acts.reverse.takeWhile fun act => decide (act ≠ .assigned)

@[simp] lemma sinceAssigned_concat (acts : List Act) (act : Act) :
    sinceAssigned (acts ++ [act]) = if act = .assigned then [] else act :: sinceAssigned acts := by
  unfold sinceAssigned
  split_ifs with h <;> simp [h]

/-- The last act that put the work item into the status `assigned`. -/
def lastAssigning (acts : List Act) : Option Act :=
  (acts.filter fun act => decide (act.dst = .assigned)).getLast?

lemma lastAssigning_concat_of_ne {act : Act} (h : act.dst ≠ .assigned) (acts : List Act) :
    lastAssigning (acts ++ [act]) = lastAssigning acts := by
  simp [lastAssigning, h]

/-- A history entry that records an admissible move, with a reason where one is due. -/
structure Link (src : Status) (entry : StatusHistory) (dst : Status) : Prop where
  fromStatus : entry.fromStatus = some src
  toStatus : entry.toStatus = dst
  admissible : isValidTransition src dst = true
  reason : dst = .flagged → ∃ reason, entry.reason = some reason ∧ ¬ Blank reason

inductive Order.Step (o : Order) : Act → Order → Prop
  | moved {dst : Status} (entry : StatusHistory) (link : Link o.status entry dst) :
      Order.Step o (.moved dst) { o with status := dst, trail := o.trail ++ [entry] }
  | assigned (entry : StatusHistory) (row : Assignment) (event : AssignmentHistory)
      (link : Link o.status entry .assigned) (pending : row.status = .assigned)
      (action : event.action = .assigned)
      (assignee : event.assignedToUserID = row.assignedToUserID) :
      Order.Step o .assigned
        ⟨.assigned,some row.assignedToUserID,some row,o.trail ++ [entry],o.events ++ [event]⟩
  | responded {accept : Bool} {offer : Assignment} (entry : StatusHistory) (row : Assignment)
      (event : AssignmentHistory) (link : Link o.status entry (respondedStatus accept))
      (offered : o.offer = some offer) (pending : offer.status = .assigned)
      (answer : row.status = respondedAction accept)
      (same : row.assignedToUserID = offer.assignedToUserID)
      (action : event.action = respondedAction accept)
      (actor : event.actorUserID = offer.assignedToUserID)
      (assignee : event.assignedToUserID = offer.assignedToUserID) :
      Order.Step o (.responded accept)
        ⟨respondedStatus accept,if accept then o.holder else none,some row,o.trail ++ [entry],
          o.events ++ [event]⟩

/-- The statuses reached only once somebody took the work. -/
def Status.Taken (status : Status) : Prop :=
  status = .accepted ∨ status = .inProgress ∨ status = .submittedForReview ∨ status = .flagged ∨
  status = .verified ∨ status = .completed

/-- The statuses in which somebody should hold the work item. -/
def Status.Held (status : Status) : Prop := status = .assigned ∨ status.Taken

/-- Only acceptance leads from outside the taken statuses into them. -/
lemma taken_of_isValidTransition {src dst : Status} (h : isValidTransition src dst = true)
    (hdst : dst.Taken) (hne : dst ≠ .accepted) : src.Taken := by
  rw [isValidTransition_iff] at h
  rcases hdst with rfl | rfl | rfl | rfl | rfl | rfl <;>
    cases src <;> simp_all [validStatusTransitions, Status.Taken]

/-- Only assigning leads from outside the held statuses into them. -/
lemma held_of_isValidTransition {src dst : Status} (h : isValidTransition src dst = true)
    (hdst : dst.Held) (hne : dst ≠ .assigned) : src.Held := by
  rw [isValidTransition_iff] at h
  rcases hdst.resolve_left hne with rfl | rfl | rfl | rfl | rfl | rfl <;>
    cases src <;> simp_all [validStatusTransitions, Status.Held, Status.Taken]

/-- What an offer still unanswered can be left behind by, apart from the answer. -/
lemma of_isValidTransition_assigned_or_cancelled {src dst : Status}
    (h : isValidTransition src dst = true) (hsrc : src = .assigned ∨ src = .cancelled)
    (haccepted : dst ≠ .accepted) (hcreated : dst ≠ .created) :
    dst = .assigned ∨ dst = .cancelled := by
  rw [isValidTransition_iff] at h
  rcases hsrc with rfl | rfl <;> cases dst <;> simp_all [validStatusTransitions]

namespace Order
variable {o o' : Order} {acts : List Act}

/-- The trail leads step by step from creation to the present status. -/
theorem trace_trail (h : Trace Step .initial acts o) :
    Trace Link .created o.trail o.status := by
  induction h with
  | nil => exact .nil
  | snoc _ hstep ih =>
    cases hstep with
    | moved entry link => exact ih.snoc link
    | assigned entry row event link => exact ih.snoc link
    | responded entry row event link => exact ih.snoc link

/-- Each act leaves exactly one entry on the trail. -/
theorem length_trail (h : Trace Step .initial acts o) : o.trail.length = acts.length := by
  induction h with
  | nil => rfl
  | snoc _ hstep ih => cases hstep <;> simp [ih]

theorem trail_isPrefix (h : Trace Step o acts o') : o.trail <+: o'.trail := by
  induction h with
  | nil => exact List.prefix_rfl
  | snoc _ hstep ih => cases hstep <;> exact ih.trans (List.prefix_append _ _)

/-- A work item in its first status has no holder, unless the status door put it back there. -/
theorem holder_of_created (h : Trace Step .initial acts o)
    (hdoor : acts.getLast? ≠ some (.moved .created)) (hstatus : o.status = .created) :
    o.holder = none := by
  cases h with
  | nil => rfl
  | snoc _ hstep =>
    cases hstep with
    | @moved dst entry link =>
      obtain rfl : dst = Status.created := hstatus
      simp at hdoor
    | assigned entry row event link => cases hstatus
    | @responded accept =>
      cases accept
      · rfl
      · cases hstatus

/-- Work under way has a holder, unless it was the status door that put it into assigned. -/
theorem holder_of_held (h : Trace Step .initial acts o)
    (hdoor : lastAssigning acts ≠ some (.moved .assigned)) (hstatus : o.status.Held) :
    o.holder ≠ none := by
  induction h with
  | nil => simp [initial, Status.Held, Status.Taken] at hstatus
  | snoc _ hstep ih =>
    cases hstep with
    | @moved dst entry link =>
      have hdst : (Act.moved dst).dst ≠ .assigned := by
        intro h
        obtain rfl : dst = .assigned := h
        simp [lastAssigning, Act.dst] at hdoor
      rw [lastAssigning_concat_of_ne hdst] at hdoor
      exact ih hdoor (held_of_isValidTransition link.admissible hstatus hdst)
    | assigned entry row event link => simp
    | @responded accept offer entry row event link =>
      cases accept
      · simp [respondedStatus, Status.Held, Status.Taken] at hstatus
      · have hdst : (Act.responded true).dst ≠ .assigned := by decide
        rw [lastAssigning_concat_of_ne hdst] at hdoor
        exact ih hdoor (held_of_isValidTransition link.admissible hstatus (by decide))

/-- An unanswered offer waits on an assigned or a cancelled item, unless the status door has since
taken the item away from under it. -/
theorem status_of_pending (h : Trace Step .initial acts o)
    (hcreated : Act.moved .created ∉ sinceAssigned acts)
    (haccepted : Act.moved .accepted ∉ sinceAssigned acts) {offer : Assignment}
    (hoffer : o.offer = some offer) (hpending : offer.status = .assigned) :
    o.status = .assigned ∨ o.status = .cancelled := by
  induction h generalizing offer with
  | nil => cases hoffer
  | snoc _ hstep ih =>
    cases hstep with
    | @moved dst entry link =>
      simp only [sinceAssigned_concat, reduceCtorEq, if_false, List.mem_cons, not_or]
        at hcreated haccepted
      apply of_isValidTransition_assigned_or_cancelled link.admissible
        (ih hcreated.2 haccepted.2 hoffer hpending)
      · rintro rfl; exact haccepted.1 rfl
      · rintro rfl; exact hcreated.1 rfl
    | assigned entry row event link => exact .inl rfl
    | @responded accept _ _ _ _ _ _ _ answer =>
      cases hoffer
      rw [answer] at hpending
      cases accept <;> cases hpending

/-- Work in a taken status was accepted, unless the status door accepted it for nobody. -/
theorem offer_of_taken (h : Trace Step .initial acts o) (hdoor : Act.moved .accepted ∉ acts)
    (hstatus : o.status.Taken) : ∃ offer, o.offer = some offer ∧ offer.status = .accepted := by
  induction h with
  | nil => simp [initial, Status.Taken] at hstatus
  | snoc _ hstep ih =>
    rw [List.mem_append, not_or] at hdoor
    cases hstep with
    | @moved dst entry link =>
      have hdst : dst ≠ .accepted := by
        rintro rfl
        simp at hdoor
      exact ih hdoor.1 (taken_of_isValidTransition link.admissible hstatus hdst)
    | assigned entry row event link => simp [Status.Taken] at hstatus
    | @responded accept _ _ row _ _ _ _ answer =>
      cases accept
      · simp [respondedStatus, Status.Taken] at hstatus
      · exact ⟨row,rfl,answer⟩

/-- Every answer on record follows the offer it answers, and comes from the user it was made to. -/
def Answered (events : List AssignmentHistory) : Prop :=
  ∀ earlier event later, events = earlier ++ event :: later → event.action ≠ .assigned →
    (∃ offered, earlier.getLast? = some offered ∧ offered.action = .assigned ∧
      offered.assignedToUserID = event.assignedToUserID) ∧
    event.actorUserID = event.assignedToUserID

lemma Answered.concat {events : List AssignmentHistory} (h : Answered events)
    {event : AssignmentHistory} (hevent : event.action ≠ .assigned →
      (∃ offered, events.getLast? = some offered ∧ offered.action = .assigned ∧
        offered.assignedToUserID = event.assignedToUserID) ∧
      event.actorUserID = event.assignedToUserID) : Answered (events ++ [event]) := by
  intro earlier e later heq hne
  rcases List.eq_nil_or_concat later with rfl | ⟨later,last,rfl⟩
  · obtain ⟨rfl,he⟩ := List.append_inj' heq rfl
    cases he
    exact hevent hne
  · rw [List.concat_eq_append, ← List.cons_append, ← List.append_assoc] at heq
    obtain ⟨hevents,-⟩ := List.append_inj' heq rfl
    exact h earlier e later hevents hne

/-- The holder, the offer and the record of offers and answers tell the same story. -/
structure Agrees (o : Order) : Prop where
  holder : ∀ user, o.holder = some user ↔
    ∃ offer, o.offer = some offer ∧ offer.assignedToUserID = user ∧ offer.status ≠ .declined
  events : o.events.getLast?.map (fun event => (event.action,event.assignedToUserID)) =
    o.offer.map fun offer => (offer.status,offer.assignedToUserID)
  answered : Answered o.events

theorem initial_agrees : initial.Agrees := by
  refine ⟨by simp [initial],rfl,?_⟩
  intro earlier event later h
  simp [initial] at h

theorem Step.agrees {act : Act} (h : Step o act o') (ho : o.Agrees) : o'.Agrees := by
  cases h with
  | moved => exact ⟨ho.holder,ho.events,ho.answered⟩
  | @assigned entry row event link pending action assignee =>
    refine ⟨by simp [pending],by simp [pending, action, assignee],ho.answered.concat ?_⟩
    exact fun hne => (hne action).elim
  | @responded accept offer entry row event link offered pending answer same action actor
      assignee =>
    refine ⟨?_,by simp [answer, same, action, assignee],ho.answered.concat ?_⟩
    · intro user
      cases accept with
      | false => simp [answer, respondedAction]
      | true => simp [ho.holder, offered, pending, answer, same, respondedAction]
    · intro _
      have hlast := ho.events
      rw [offered, Option.map_some, Option.map_eq_some_iff] at hlast
      obtain ⟨last,hlast,heq⟩ := hlast
      obtain ⟨haction,hassignee⟩ := Prod.mk.inj heq
      exact ⟨⟨last,hlast,haction.trans pending,hassignee.trans assignee.symm⟩,
        actor.trans assignee.symm⟩

theorem agrees_of_trace (h : Trace Step .initial acts o) : o.Agrees :=
  h.inv (I := fun _ o => o.Agrees) initial_agrees fun _ _ _ _ ho hstep => hstep.agrees ho

end Order
end OpsPlatform.Workitems
