import OpsPlatform.Workitems.Memory

/-! What each permission switch of the service lets through. The switches only read, so each of
them is a predicate on the work item, the caller's flags and the team authority's answers. -/
namespace OpsPlatform.Workitems
open OpsPlatform.Go Interaction Program

namespace Service
variable (s : Service) (env : Env)

/-- The answer of `supervisorMayActOn`. -/
def mayActOn (actorUserID : String) (item : WorkItem) : Except Error Bool :=
  match item.assignedToUserID with
  | none => .ok (item.createdByUserID = actorUserID)
  | some assignee =>
    if s.hasTeamAuthority then env.isActiveSupervisorOf actorUserID assignee else .ok false

/-- A supervisor has authority over the item. -/
def MayAct (actorUserID : String) (item : WorkItem) : Prop :=
  s.mayActOn env actorUserID item = .ok true

/-- `Update` lets the caller through. -/
def MayEdit (callerUserID : String) (admin supervisor : Bool) (item : WorkItem) : Prop :=
  admin = true ∨
  (admin = false ∧ supervisor = true ∧ s.MayAct env callerUserID item ∧
    item.assignedToUserID = none)

/-- `ChangeStatus` lets the caller make this move. -/
def MayMove (actorUserID : String) (admin supervisor requester : Bool) (item : WorkItem)
    (toStatus : Status) : Prop :=
  (admin = true ∧ isValidTransition item.status toStatus = true) ∨
  (admin = false ∧ supervisor = true ∧ s.MayAct env actorUserID item ∧
    isValidTransition item.status toStatus = true) ∨
  (admin = false ∧ supervisor = false ∧ requester = false ∧
    item.assignedToUserID = some actorUserID ∧
    isAssigneeAllowedTransition item.status toStatus = true)

/-- `AssignWorkItem` lets the caller give the item to this user. -/
def MayAssign (assignedByUserID assignedToUserID : String) (admin supervisor : Bool)
    (item : WorkItem) : Prop :=
  admin = true ∨
  (admin = false ∧ supervisor = true ∧ s.MayAct env assignedByUserID item ∧
    s.hasTeamAuthority = true ∧
    env.isActiveSupervisorOf assignedByUserID assignedToUserID = .ok true)

theorem MayMove.isValidTransition {s : Service} {env : Env} {actorUserID : String}
    {admin supervisor requester : Bool} {item : WorkItem} {toStatus : Status}
    (h : s.MayMove env actorUserID admin supervisor requester item toStatus) :
    isValidTransition item.status toStatus = true := by
  rcases h with ⟨_,h⟩ | ⟨_,_,_,h⟩ | ⟨_,_,_,_,h⟩
  · exact h
  · exact h
  · exact isValidTransition_of_isAssigneeAllowedTransition h

variable (st : State)

@[simp] theorem run_supervisorMayActOn (ctx : Context) (actorUserID : String) (item : WorkItem) :
    (s.supervisorMayActOn ctx actorUserID item).run (exec env) st =
      (s.mayActOn env actorUserID item,st) := by
  unfold supervisorMayActOn mayActOn
  cases item.assignedToUserID with
  | none => exact run_ret _ _ _
  | some assignee => cases s.hasTeamAuthority <;> simp [exec]

/-- A gate only reads: it leaves the state and either reports an error or lets the caller on. -/
def Gate (p : M Unit) (allowed : Prop) : Prop :=
  (allowed ∧ p.run (exec env) st = (.ok (),st)) ∨
  (¬ allowed ∧ ∃ e, p.run (exec env) st = (.error e,st))

theorem Gate.failIf {c a : Prop} [Decidable c] (h : a ↔ ¬ c) (e : Error) :
    Gate env st (failIf c e) a := by
  by_cases hc : c
  · exact .inr ⟨fun ha => h.mp ha hc,e,by simp [failIf_true hc]⟩
  · exact .inl ⟨h.mpr hc,by simp [failIf_false hc]⟩

variable {env st} in
theorem Gate.andThen {p q : M Unit} {a b : Prop} (hp : Gate env st p a) (hq : Gate env st q b) :
    Gate env st (p >>= fun _ => q) (a ∧ b) := by
  rcases hp with ⟨ha,hp⟩ | ⟨ha,e,hp⟩
  · rw [Gate, run_bind_ok _ hp]
    simpa [Gate, ha] using hq
  · exact .inr ⟨fun h => ha h.1,e,run_bind_error _ hp _⟩

/-- A question answered by the team authority, then a check of the answer. -/
theorem gate_ask {p : M Bool} {answer : Except Error Bool} {q : Bool → M Unit} {b : Prop}
    (hp : p.run (exec env) st = (answer,st))
    (hyes : Gate env st (q true) b) (hno : ∃ e, (q false).run (exec env) st = (.error e,st)) :
    Gate env st (p >>= q) (answer = .ok true ∧ b) := by
  rcases answer with e | _ | _
  · exact .inr ⟨by simp,e,run_bind_error _ hp _⟩
  · rw [Gate, run_bind_ok _ hp]
    exact .inr ⟨by simp,hno⟩
  · rw [Gate, run_bind_ok _ hp]
    simpa [Gate] using hyes

theorem gate_authorizeUpdate (ctx : Context) (callerUserID : String) (admin supervisor : Bool)
    (item : WorkItem) :
    Gate env st (s.authorizeUpdate ctx callerUserID admin supervisor item)
      (s.MayEdit env callerUserID admin supervisor item) := by
  unfold authorizeUpdate MayEdit
  cases admin with
  | true => exact .inl ⟨.inl rfl,run_ret _ _ _⟩
  | false =>
    cases supervisor with
    | false => exact .inr ⟨by simp,_,run_fail _ _ _⟩
    | true =>
      have h := gate_ask env st (b := item.assignedToUserID = none)
        (q := fun allowed => do
          Program.failIf (¬ allowed) errNotFound
          Program.failIf (item.assignedToUserID ≠ none) errAlreadyAssigned)
        (s.run_supervisorMayActOn env st ctx callerUserID item)
        (Gate.failIf env st (by simp) _) ⟨_,run_fail _ _ _⟩
      simpa [MayAct] using h

theorem gate_authorizeChangeStatus (ctx : Context) (actorUserID : String)
    (admin supervisor requester : Bool) (item : WorkItem) (toStatus : Status) :
    Gate env st (s.authorizeChangeStatus ctx actorUserID admin supervisor requester item toStatus)
      (s.MayMove env actorUserID admin supervisor requester item toStatus) := by
  unfold authorizeChangeStatus MayMove
  cases admin with
  | true =>
    simpa using Gate.failIf env st (c := ¬ isValidTransition item.status toStatus)
      (by simp) errInvalidTransition
  | false =>
    cases supervisor with
    | true =>
      have h := gate_ask env st (b := isValidTransition item.status toStatus = true)
        (q := fun allowed => do
          Program.failIf (¬ allowed) errNotFound
          Program.failIf (¬ isValidTransition item.status toStatus) errInvalidTransition)
        (s.run_supervisorMayActOn env st ctx actorUserID item)
        (Gate.failIf env st (by simp) _) ⟨_,run_fail _ _ _⟩
      simpa [MayAct] using h
    | false =>
      cases requester with
      | true => exact .inr ⟨by simp,_,run_fail _ _ _⟩
      | false =>
        have howner : Gate env st
            (Program.failIf (item.assignedToUserID ≠ some actorUserID) errNotFound)
            (item.assignedToUserID = some actorUserID) := Gate.failIf env st (by simp) _
        have hmove : Gate env st
            (Program.failIf (¬ isAssigneeAllowedTransition item.status toStatus)
              errInvalidTransition)
            (isAssigneeAllowedTransition item.status toStatus = true) :=
          Gate.failIf env st (by simp) _
        simpa using howner.andThen hmove

theorem gate_authorizeAssign (ctx : Context) (assignedByUserID assignedToUserID : String)
    (admin supervisor : Bool) (item : WorkItem) :
    Gate env st
      (s.authorizeAssign ctx assignedByUserID assignedToUserID admin supervisor item)
      (s.MayAssign env assignedByUserID assignedToUserID admin supervisor item) := by
  unfold authorizeAssign MayAssign
  cases admin with
  | true => exact .inl ⟨.inl rfl,run_ret _ _ _⟩
  | false =>
    cases supervisor with
    | false => exact .inr ⟨by simp,_,run_fail _ _ _⟩
    | true =>
      have hdestination : Gate env st (do
          let destinationAllowed ←
            call (.isActiveSupervisorOf ctx assignedByUserID assignedToUserID) fromResult
          Program.failIf (¬ destinationAllowed) errNotFound)
          (env.isActiveSupervisorOf assignedByUserID assignedToUserID = .ok true ∧ True) :=
        gate_ask env st (by simp [exec]) (.inl ⟨trivial,run_ret _ _ _⟩) ⟨_,run_fail _ _ _⟩
      have hset : Gate env st (Program.failIf (¬ s.hasTeamAuthority) errNotFound)
          (s.hasTeamAuthority = true) := Gate.failIf env st (by simp) _
      have h := gate_ask env st
        (s.run_supervisorMayActOn env st ctx assignedByUserID item)
        (q := fun allowed => do
          Program.failIf (¬ allowed) errNotFound
          Program.failIf (¬ s.hasTeamAuthority) errNotFound
          let destinationAllowed ←
            call (.isActiveSupervisorOf ctx assignedByUserID assignedToUserID) fromResult
          Program.failIf (¬ destinationAllowed) errNotFound)
        (hset.andThen hdestination) ⟨_,run_fail _ _ _⟩
      simpa [MayAct] using h

end Service
end OpsPlatform.Workitems
