import OpsPlatform.Workitems.Permissions

/-! What one call of the service can do in memory, said once for every later invariant: it leaves
the system as it was, or it takes effect in exactly one of five ways. -/
namespace OpsPlatform.Workitems
open OpsPlatform.Go Interaction Program

/-- Two rows differ at most in what an edit may change. -/
structure SameOrigin (a b : WorkItem) : Prop where
  id : a.id = b.id
  referenceCode : a.referenceCode = b.referenceCode
  createdByUserID : a.createdByUserID = b.createdByUserID
  createdAt : a.createdAt = b.createdAt

lemma SameOrigin.refl (a : WorkItem) : SameOrigin a a := ⟨rfl,rfl,rfl,rfl⟩

lemma SameOrigin.symm {a b : WorkItem} (h : SameOrigin a b) : SameOrigin b a :=
  ⟨h.id.symm,h.referenceCode.symm,h.createdByUserID.symm,h.createdAt.symm⟩

lemma SameOrigin.trans {a b c : WorkItem} (h : SameOrigin a b) (h' : SameOrigin b c) :
    SameOrigin a c :=
  ⟨h.id.trans h'.id,h.referenceCode.trans h'.referenceCode,
    h.createdByUserID.trans h'.createdByUserID,h.createdAt.trans h'.createdAt⟩

/-- An edit leaves everything but the editable fields as it was. -/
structure WorkItem.EditOf (edited item : WorkItem) : Prop where
  id : edited.id = item.id
  referenceCode : edited.referenceCode = item.referenceCode
  status : edited.status = item.status
  createdByUserID : edited.createdByUserID = item.createdByUserID
  assignedToUserID : edited.assignedToUserID = item.assignedToUserID
  createdAt : edited.createdAt = item.createdAt

namespace WorkItem.EditOf

lemma trans {a b c : WorkItem} (h : a.EditOf b) (h' : b.EditOf c) : a.EditOf c :=
  ⟨h.id.trans h'.id,h.referenceCode.trans h'.referenceCode,h.status.trans h'.status,
    h.createdByUserID.trans h'.createdByUserID,h.assignedToUserID.trans h'.assignedToUserID,
    h.createdAt.trans h'.createdAt⟩

lemma of_editText {raw : Option String} {write : String → WorkItem} {item edited : WorkItem}
    (h : editText raw write item = .ok edited) (hwrite : ∀ text, (write text).EditOf item) :
    edited.EditOf item := by
  unfold editText at h
  split at h
  · cases h; exact ⟨rfl,rfl,rfl,rfl,rfl,rfl⟩
  · split_ifs at h
    cases h; exact hwrite _

lemma of_editPriority {raw : Option Priority} {item edited : WorkItem}
    (h : editPriority raw item = .ok edited) : edited.EditOf item := by
  unfold editPriority at h
  split at h
  · cases h; exact ⟨rfl,rfl,rfl,rfl,rfl,rfl⟩
  · split_ifs at h
    cases h; exact ⟨rfl,rfl,rfl,rfl,rfl,rfl⟩

lemma editLocationText (raw : Option String) (item : WorkItem) :
    (Workitems.editLocationText raw item).EditOf item := by
  cases raw <;> constructor <;> simp only [Workitems.editLocationText]

lemma editDueAt (raw : Option Time) (item : WorkItem) :
    (Workitems.editDueAt raw item).EditOf item := by
  cases raw <;> constructor <;> simp only [Workitems.editDueAt]

end WorkItem.EditOf

lemma bind_eq_ok {ε α β : Type} {x : Except ε α} {f : α → Except ε β} {b : β}
    (h : (x >>= f) = .ok b) : ∃ a, x = .ok a ∧ f a = .ok b := by
  cases x with
  | error e => cases h
  | ok a => exact ⟨a,rfl,h⟩

theorem UpdateInput.apply_editOf {input : UpdateInput} {item edited : WorkItem}
    (h : input.apply item = .ok edited) : edited.EditOf item := by
  unfold UpdateInput.apply at h
  obtain ⟨titled,htitle,h⟩ := bind_eq_ok h
  obtain ⟨described,hdescription,h⟩ := bind_eq_ok h
  obtain ⟨ranked,hpriority,h⟩ := bind_eq_ok h
  obtain rfl := Except.ok.inj h
  have htexts : described.EditOf item :=
    (WorkItem.EditOf.of_editText hdescription fun _ => ⟨rfl,rfl,rfl,rfl,rfl,rfl⟩).trans
      (WorkItem.EditOf.of_editText htitle fun _ => ⟨rfl,rfl,rfl,rfl,rfl,rfl⟩)
  have hplace := WorkItem.EditOf.editLocationText input.locationText ranked
  have hdue := WorkItem.EditOf.editDueAt input.dueAt
    (Workitems.editLocationText input.locationText ranked)
  exact ((hdue.trans hplace).trans (.of_editPriority hpriority)).trans htexts

/-- What the notifier does with one notification; a service without one succeeds silently. -/
def Service.notified (s : Service) (env : Env) (ctx : Context)
    (recipientUserID workItemID kind message : String) (store : Notifications.MemoryStore) :
    Except Error Unit × Notifications.MemoryStore :=
  if s.hasNotifier then env.notify ctx recipientUserID workItemID kind message store
  else (.ok (),store)

/-- The notification of a status change, if the new status has one. -/
def Service.statusNotice (s : Service) (env : Env) (ctx : Context) (id : String)
    (updated : WorkItem) (store : Notifications.MemoryStore) :
    Except Error Unit × Notifications.MemoryStore :=
  match notificationForStatusChange updated with
  | none => (.ok (),store)
  | some (recipientUserID,kind,message) =>
    s.notified env ctx recipientUserID id kind message store

def Service.assignNotice (s : Service) (env : Env) (ctx : Context) (workItemID : String)
    (item : WorkItem) (assignedToUserID : String) (store : Notifications.MemoryStore) :
    Except Error Unit × Notifications.MemoryStore :=
  s.notified env ctx assignedToUserID workItemID "assignment_created"
    (item.referenceCode ++ " was assigned to you") store

def Service.responseNotice (s : Service) (env : Env) (ctx : Context) (workItemID : String)
    (item : WorkItem) (assignment : Assignment) (accept : Bool)
    (store : Notifications.MemoryStore) : Except Error Unit × Notifications.MemoryStore :=
  if accept then
    s.notified env ctx assignment.assignedByUserID workItemID "assignment_accepted"
      (item.referenceCode ++ " was accepted by the assignee") store
  else (.ok (),store)

/-- A call that got past its checks: what held before it, its reply, and the state it leaves. -/
inductive Effect (s : Service) (env : Env) (ctx : Context) (st : State) :
    Call → Except Error Reply → State → Prop
  | create {createdByUserID : String} {input : CreateInput}
      (creator : ¬ Blank createdByUserID) (title : ¬ Blank input.title)
      (description : ¬ Blank input.description) (priority : input.priority.isValid = true) :
      Effect s env ctx st (.create createdByUserID input)
        ((st.items.create (newItem createdByUserID input env.now)).1.map .item)
        { st with items := (st.items.create (newItem createdByUserID input env.now)).2 }
  | update {id caller : String} {admin supervisor : Bool} {input : UpdateInput}
      {item edited : WorkItem} (found : st.items.byID id = some item)
      (allowed : s.MayEdit env caller admin supervisor item)
      (applied : input.apply item = .ok edited) :
      Effect s env ctx st (.update id caller admin supervisor input)
        (.ok (.item (editedItem edited env.now)))
        { st with items := (st.items.update (editedItem edited env.now)).2 }
  | changeStatus {id actor : String} {admin supervisor requester : Bool}
      {input : ChangeStatusInput} {item : WorkItem}
      (idGiven : ¬ Blank id) (actorGiven : ¬ Blank actor) (found : st.items.byID id = some item)
      (reasonGiven : input.toStatus = .flagged → trimmedOrNil input.reason ≠ none)
      (allowed : s.MayMove env actor admin supervisor requester item input.toStatus) :
      Effect s env ctx st (.changeStatus id actor admin supervisor requester input)
        ((s.statusNotice env ctx id (movedItem item input.toStatus env.now) st.notifications).1.map
          fun _ => .item (movedItem item input.toStatus env.now))
        { st with
          items := (st.items.update (movedItem item input.toStatus env.now)).2
          history := (st.history.create
            (statusEntry id item.status input.toStatus actor input.reason env.now)).2
          notifications := (s.statusNotice env ctx id (movedItem item input.toStatus env.now)
            st.notifications).2 }
  | assignWorkItem {id assigner : String} {admin supervisor : Bool} {input : AssignInput}
      {item : WorkItem} (idGiven : ¬ Blank id) (assignerGiven : ¬ Blank assigner)
      (assigneeGiven : ¬ Blank input.assignedToUserID) (found : st.items.byID id = some item)
      (allowed : s.MayAssign env assigner (trimSpace input.assignedToUserID) admin supervisor item)
      (open_ : isValidTransition item.status .assigned = true) :
      Effect s env ctx st (.assignWorkItem id assigner admin supervisor input)
        ((s.assignNotice env ctx id item (trimSpace input.assignedToUserID)
          st.notifications).1.bind fun _ => (st.assignments.create
            (newAssignment id assigner (trimSpace input.assignedToUserID) env.now)).1.map
              .assignment)
        { items := (st.items.update
            (assignedItem item (trimSpace input.assignedToUserID) env.now)).2
          history := (st.history.create
            (statusEntry id item.status .assigned assigner none env.now)).2
          assignments := (st.assignments.create
            (newAssignment id assigner (trimSpace input.assignedToUserID) env.now)).2
          assignmentHistory := (st.assignmentHistory.create
            (assignmentEvent id .assigned assigner (trimSpace input.assignedToUserID) none
              env.now)).2
          notifications := (s.assignNotice env ctx id item (trimSpace input.assignedToUserID)
            st.notifications).2 }
  | respondToAssignment {id user : String} {accept : Bool} {input : RespondToAssignmentInput}
      {item : WorkItem} {assignment : Assignment} (idGiven : ¬ Blank id)
      (userGiven : ¬ Blank user) (found : st.items.byID id = some item)
      (offered : st.assignments.byWorkItem id = some assignment)
      (owned : assignment.assignedToUserID = user) (pending : assignment.status = .assigned)
      (open_ : isValidTransition item.status (respondedStatus accept) = true) :
      Effect s env ctx st (.respondToAssignment id user false accept input)
        ((s.responseNotice env ctx id item assignment accept st.notifications).1.map
          fun _ => .assignment (respondedAssignment assignment accept input.note env.now))
        { items := (st.items.update (respondedItem item accept env.now)).2
          history := (st.history.create
            (statusEntry id item.status (respondedStatus accept) user input.note env.now)).2
          assignments := (st.assignments.update
            (respondedAssignment assignment accept input.note env.now)).2
          assignmentHistory := (st.assignmentHistory.create
            (assignmentEvent id (respondedAction accept) user assignment.assignedToUserID input.note
              env.now)).2
          notifications := (s.responseNotice env ctx id item assignment accept
            st.notifications).2 }

/-- A call that only reads. -/
def Call.Reads : Call → Prop
  | .list .. | .getByID .. | .listStatusHistory .. | .listAssignmentHistory .. |
    .getAssignment .. => True
  | _ => False

/-- A call that was refused or only reads leaves the state; any other takes effect. -/
def Outcome (s : Service) (env : Env) (ctx : Context) (st : State) (c : Call)
    (out : Except Error Reply × State) : Prop :=
  (out.2 = st ∧ (c.Reads ∨ ∃ e, out.1 = .error e)) ∨ Effect s env ctx st c out.1 out.2

/-- A question to the team authority. -/
def Op.Asks (ctx : Context) : Op → Prop
  | .isActiveSupervisorOf c _ _ => c = ctx
  | _ => False

section
variable {s : Service} (env : Env) (ctx : Context) (st : State)

lemma Outcome.refused {c : Call} {e : Error} : Outcome s env ctx st c (.error e,st) :=
  .inl ⟨rfl,.inr ⟨e,rfl⟩⟩

lemma run_map {α β : Type} (f : α → β) (p : M α) :
    (f <$> p).run (exec env) st =
      ((p.run (exec env) st).1.map f,(p.run (exec env) st).2) := by
  rw [← bind_pure_comp, run_bind]
  rcases p.run (exec env) st with ⟨_ | a,t⟩ <;> simp [Except.map]

lemma runAtomic_of_nil {α : Type} (h : s.txRunner = none) (fn : Context → M α) :
    s.runAtomic ctx fn = fn ctx := by
  rw [Service.runAtomic, h]

lemma run_storeGetByID {α : Type} (id : String) (f : WorkItem → M α) :
    (call (.storeGetByID ctx id) fromResult >>= f).run (exec env) st =
      match st.items.byID id with
      | some item => (f item).run (exec env) st
      | none => (.error errNotFound,st) := by
  rw [run_bind]
  simp only [run_call, exec, run_fromResult, MemoryStore.getByID]
  cases st.items.byID id <;> rfl

lemma run_assignmentGetByWorkItemID {α : Type} (id : String) (f : Assignment → M α) :
    (call (.assignmentGetByWorkItemID ctx id) fromResult >>= f).run (exec env) st =
      match st.assignments.byWorkItem id with
      | some assignment => (f assignment).run (exec env) st
      | none => (.error errAssignmentNotFound,st) := by
  rw [run_bind]
  simp only [run_call, exec, run_fromResult, MemoryAssignmentStore.getByWorkItemID]
  cases st.assignments.byWorkItem id <;> rfl

lemma run_notify (recipientUserID workItemID kind message : String) :
    (s.notify ctx recipientUserID workItemID kind message).run (exec env) st =
      ((s.notified env ctx recipientUserID workItemID kind message st.notifications).1,
        { st with notifications :=
          (s.notified env ctx recipientUserID workItemID kind message st.notifications).2 }) := by
  unfold Service.notify Service.notified
  cases s.hasNotifier <;> simp [exec]

lemma run_notifyResponse (workItemID : String) (item : WorkItem) (assignment : Assignment)
    (accept : Bool) :
    (s.notifyResponse ctx workItemID item assignment accept).run (exec env) st =
      ((s.responseNotice env ctx workItemID item assignment accept st.notifications).1,
        { st with notifications :=
          (s.responseNotice env ctx workItemID item assignment accept st.notifications).2 }) := by
  unfold Service.notifyResponse Service.responseNotice
  cases accept
  · exact run_ret _ _ _
  · exact run_notify env ctx st _ _ _ _

theorem create_outcome (createdByUserID : String) (input : CreateInput) :
    Outcome s env ctx st (.create createdByUserID input)
      (((Call.create createdByUserID input).program s ctx).run (exec env) st) := by
  simp only [Call.program, run_map, Service.create, run_failIf_bind]
  split_ifs with hcreator htext hpriority
  · exact .refused env ctx st
  · exact .refused env ctx st
  · rw [not_or] at htext
    simp only [call_bind, ret_bind, run_call, exec, run_fromResult]
    exact .inr (.create hcreator htext.1 htext.2 hpriority)
  · exact .refused env ctx st

lemma update_reply {id : String} {item row : WorkItem} (hfound : st.items.byID id = some item)
    (hid : row.id = item.id) : (st.items.update row).1 = .ok row := by
  have hrow : (st.items.byID row.id).isSome := by
    rw [hid, st.items.keyed hfound, hfound]; rfl
  rw [st.items.update_eq _ hrow]

theorem update_outcome (id caller : String) (admin supervisor : Bool) (input : UpdateInput) :
    Outcome s env ctx st (.update id caller admin supervisor input)
      (((Call.update id caller admin supervisor input).program s ctx).run (exec env) st) := by
  simp only [Call.program, run_map, Service.update, run_failIf_bind, run_storeGetByID]
  split_ifs with hid
  · exact .refused env ctx st
  cases hfound : st.items.byID id with
  | none => exact .refused env ctx st
  | some item =>
    rcases s.gate_authorizeUpdate env st ctx caller admin supervisor item with
      ⟨hallowed,hrun⟩ | ⟨_,e,hrun⟩
    · simp only [run_bind_ok _ hrun]
      cases happly : input.apply item with
      | error e =>
        simp only [fromResult_error, fail_bind, run_fail]
        exact .refused env ctx st
      | ok edited =>
        have hid : (editedItem edited env.now).id = item.id := (UpdateInput.apply_editOf happly).id
        have hreply := update_reply st hfound hid
        have heffect : Effect s env ctx st (.update id caller admin supervisor input) _ _ :=
          .update hfound hallowed happly
        simp only [fromResult_ok, ret_bind, call_bind, run_call, exec, run_fromResult]
        change Outcome s env ctx st _ ((st.items.update (editedItem edited env.now)).1.map _,_)
        rw [hreply]
        exact .inr heffect
    · simp only [run_bind_error _ hrun]
      exact .refused env ctx st

theorem changeStatus_outcome (hnil : s.txRunner = none) (id actor : String)
    (admin supervisor requester : Bool) (input : ChangeStatusInput) :
    Outcome s env ctx st (.changeStatus id actor admin supervisor requester input)
      (((Call.changeStatus id actor admin supervisor requester input).program s ctx).run
        (exec env) st) := by
  simp only [Call.program, run_map, Service.changeStatus, run_failIf_bind,
    runAtomic_of_nil ctx hnil, run_storeGetByID]
  split_ifs with hargs hstatus hreason
  · exact .refused env ctx st
  · exact .refused env ctx st
  · rw [not_or] at hargs
    cases hfound : st.items.byID id with
    | none => exact .refused env ctx st
    | some item =>
      rcases s.gate_authorizeChangeStatus env st ctx actor admin supervisor requester item
        input.toStatus with ⟨hallowed,hrun⟩ | ⟨_,e,hrun⟩
      · have hreply := update_reply st hfound
          (rfl : (movedItem item input.toStatus env.now).id = item.id)
        have heffect : Effect s env ctx st
            (.changeStatus id actor admin supervisor requester input) _ _ :=
          .changeStatus hargs.1 hargs.2 hfound (fun hto hnone => hreason ⟨hto,hnone⟩) hallowed
        simp only [run_bind_ok _ hrun, call_bind, ret_bind, run_call, exec, fromResult_ok, hreply,
          Service.recordStatusChange, MemoryStatusHistoryStore.create_fst, pure_eq]
        unfold Service.statusNotice at heffect
        cases hnotice : notificationForStatusChange (movedItem item input.toStatus env.now) with
        | none =>
          simp only [hnotice] at heffect
          simp only [run_ret]
          exact .inr heffect
        | some notice =>
          obtain ⟨recipientUserID,kind,message⟩ := notice
          simp only [hnotice] at heffect
          simp only [run_bind, run_notify]
          cases hsent : (s.notified env ctx recipientUserID id kind message st.notifications).1
          · rw [hsent] at heffect
            exact .inr heffect
          · rw [hsent] at heffect
            simp only [run_ret]
            exact .inr heffect
      · simp only [run_bind_error _ hrun]
        exact .refused env ctx st
  · exact .refused env ctx st

theorem assignWorkItem_outcome (hnil : s.txRunner = none) (id assigner : String)
    (admin supervisor : Bool) (input : AssignInput) :
    Outcome s env ctx st (.assignWorkItem id assigner admin supervisor input)
      (((Call.assignWorkItem id assigner admin supervisor input).program s ctx).run
        (exec env) st) := by
  simp only [Call.program, run_map, Service.assignWorkItem, run_failIf_bind,
    runAtomic_of_nil ctx hnil, run_storeGetByID]
  split_ifs with hargs
  · exact .refused env ctx st
  rw [not_or, not_or] at hargs
  cases hfound : st.items.byID id with
  | none => exact .refused env ctx st
  | some item =>
    rcases s.gate_authorizeAssign env st ctx assigner (trimSpace input.assignedToUserID) admin
      supervisor item with ⟨hallowed,hrun⟩ | ⟨_,e,hrun⟩
    · simp only [run_bind_ok _ hrun, run_failIf_bind]
      split_ifs with hopen
      · have hreply := update_reply st hfound
          (rfl : (assignedItem item (trimSpace input.assignedToUserID) env.now).id = item.id)
        have heffect : Effect s env ctx st (.assignWorkItem id assigner admin supervisor input)
            _ _ := .assignWorkItem hargs.1 hargs.2.1 hargs.2.2 hfound hallowed hopen
        simp only [call_bind, ret_bind, run_call, exec, fromResult_ok, hreply,
          Service.recordStatusChange, Service.recordAssignmentEvent,
          MemoryStatusHistoryStore.create_fst, MemoryAssignmentStore.create_fst,
          MemoryAssignmentHistoryStore.create_fst, pure_eq, run_bind, run_notify]
        unfold Service.assignNotice at heffect
        cases hsent : (s.notified env ctx (trimSpace input.assignedToUserID) id
          "assignment_created" (item.referenceCode ++ " was assigned to you")
          st.notifications).1
        · rw [hsent] at heffect
          exact .inr heffect
        · rw [hsent] at heffect
          simp only [run_ret]
          exact .inr heffect
      · exact .refused env ctx st
    · simp only [run_bind_error _ hrun]
      exact .refused env ctx st

theorem respondToAssignment_outcome (hnil : s.txRunner = none) (id user : String)
    (requester accept : Bool) (input : RespondToAssignmentInput) :
    Outcome s env ctx st (.respondToAssignment id user requester accept input)
      (((Call.respondToAssignment id user requester accept input).program s ctx).run
        (exec env) st) := by
  simp only [Call.program, run_map, Service.respondToAssignment, run_failIf_bind,
    runAtomic_of_nil ctx hnil, run_storeGetByID]
  split_ifs with hargs hrequester
  · exact .refused env ctx st
  · exact .refused env ctx st
  rw [not_or] at hargs
  rw [Bool.not_eq_true] at hrequester
  subst hrequester
  cases hfound : st.items.byID id with
  | none => exact .refused env ctx st
  | some item =>
    simp only [run_assignmentGetByWorkItemID]
    cases hoffered : st.assignments.byWorkItem id with
    | none => exact .refused env ctx st
    | some assignment =>
      simp only [run_failIf_bind]
      split_ifs with howned hpending hopen
      · exact .refused env ctx st
      · exact .refused env ctx st
      · rw [not_not] at howned hpending
        have hreply := update_reply st hfound
          (rfl : (respondedItem item accept env.now).id = item.id)
        have hrow : (st.assignments.update
            (respondedAssignment assignment accept input.note env.now)).1 =
            .ok (respondedAssignment assignment accept input.note env.now) := by
          rw [MemoryAssignmentStore.update_eq]
          change (st.assignments.byWorkItem assignment.workItemID).isSome
          rw [st.assignments.keyed hoffered, hoffered]; rfl
        have heffect : Effect s env ctx st (.respondToAssignment id user false accept input)
            _ _ := .respondToAssignment hargs.1 hargs.2 hfound hoffered howned hpending hopen
        simp only [call_bind, ret_bind, run_call, exec, fromResult_ok, hreply, hrow,
          Service.recordStatusChange, Service.recordAssignmentEvent,
          MemoryStatusHistoryStore.create_fst, MemoryAssignmentHistoryStore.create_fst, pure_eq,
          run_bind, run_notifyResponse]
        cases hsent : (s.responseNotice env ctx id item assignment accept st.notifications).1
        · rw [hsent] at heffect
          exact .inr heffect
        · rw [hsent] at heffect
          simp only [run_ret]
          exact .inr heffect
      · exact .refused env ctx st

lemma reads_of_asks {α : Type} {p : M α} (hp : p.Only (Op.Asks ctx)) : p.Only Op.Reads :=
  hp.imp fun op hop => by cases op <;> trivial

lemma asks_supervisorMayActOn (actorUserID : String) (item : WorkItem) :
    (s.supervisorMayActOn ctx actorUserID item).Only (Op.Asks ctx) := by
  unfold Service.supervisorMayActOn
  split
  · exact only_ret _
  · split_ifs
    · exact only_call rfl fun r => only_fromResult r
    · exact only_ret _

lemma asks_authorizeUpdate (caller : String) (admin supervisor : Bool) (item : WorkItem) :
    (s.authorizeUpdate ctx caller admin supervisor item).Only (Op.Asks ctx) := by
  unfold Service.authorizeUpdate
  split_ifs
  · exact only_ret _
  · refine only_bind (asks_supervisorMayActOn ctx caller item) fun _ => ?_
    exact only_bind (only_failIf _ _) fun _ => only_failIf _ _
  · exact only_fail _

lemma asks_authorizeChangeStatus (actor : String) (admin supervisor requester : Bool)
    (item : WorkItem) (toStatus : Status) : (s.authorizeChangeStatus ctx actor admin supervisor
      requester item toStatus).Only (Op.Asks ctx) := by
  unfold Service.authorizeChangeStatus
  split_ifs
  · exact only_failIf _ _
  · refine only_bind (asks_supervisorMayActOn ctx actor item) fun _ => ?_
    exact only_bind (only_failIf _ _) fun _ => only_failIf _ _
  · exact only_fail _
  · exact only_bind (only_failIf _ _) fun _ => only_failIf _ _

lemma asks_authorizeAssign (assigner assignee : String) (admin supervisor : Bool)
    (item : WorkItem) : (s.authorizeAssign ctx assigner assignee admin supervisor item).Only
      (Op.Asks ctx) := by
  unfold Service.authorizeAssign
  split_ifs
  · exact only_ret _
  · refine only_bind (asks_supervisorMayActOn ctx assigner item) fun _ => ?_
    refine only_bind (only_failIf _ _) fun _ => only_bind (only_failIf _ _) fun _ => ?_
    exact only_bind (only_call rfl fun r => only_fromResult r) fun _ => only_failIf _ _
  · exact only_fail _

lemma only_mayView (caller : String) (admin supervisor : Bool) (item : WorkItem) :
    (s.mayView ctx item caller admin supervisor).Only Op.Reads := by
  unfold Service.mayView
  split_ifs
  · exact only_ret _
  · exact reads_of_asks ctx (asks_supervisorMayActOn ctx caller item)
  · exact only_ret _

lemma only_requireView (workItemID caller : String) (admin supervisor : Bool) :
    (s.requireView ctx workItemID caller admin supervisor).Only Op.Reads := by
  unfold Service.requireView
  refine only_bind (only_failIf _ _) fun _ => ?_
  refine only_bind (only_call trivial fun r => only_fromResult r) fun item => ?_
  refine only_bind (only_mayView ctx caller admin supervisor item) fun allowed => ?_
  exact only_failIf _ _

lemma only_listForSupervisor (caller : String) :
    (s.listForSupervisor ctx caller).Only Op.Reads := by
  unfold Service.listForSupervisor Service.supervisedIDs
  refine only_bind (only_call trivial fun r => only_fromResult r) fun all => ?_
  refine only_bind ?_ fun supervised => only_ret _
  split_ifs
  · exact only_call trivial fun r => only_fromResult r
  · exact only_ret _

lemma only_list (caller : String) (admin supervisor requester : Bool) :
    (s.list ctx caller admin supervisor requester).Only Op.Reads := by
  unfold Service.list
  split_ifs
  · exact only_call trivial fun r => only_fromResult r
  · exact only_bind (only_failIf _ _) fun _ => only_listForSupervisor ctx caller
  · exact only_bind (only_failIf _ _) fun _ => only_call trivial fun r => only_fromResult r
  · exact only_bind (only_failIf _ _) fun _ => only_call trivial fun r => only_fromResult r

lemma only_getByID (id caller : String) (admin supervisor requester : Bool) :
    (s.getByID ctx id caller admin supervisor requester).Only Op.Reads := by
  unfold Service.getByID
  refine only_bind (only_failIf _ _) fun _ => ?_
  refine only_bind (only_call trivial fun r => only_fromResult r) fun item => ?_
  split_ifs
  · exact only_ret _
  · refine only_bind (reads_of_asks ctx (asks_supervisorMayActOn ctx caller item)) fun _ => ?_
    exact only_bind (only_failIf _ _) fun _ => only_ret _
  · exact only_bind (only_failIf _ _) fun _ => only_ret _
  · exact only_bind (only_failIf _ _) fun _ => only_ret _

lemma only_map {α β : Type} {P : Op → Prop} (f : α → β) {p : M α} (h : p.Only P) :
    (f <$> p).Only P := only_bind h fun _ => only_ret _

theorem only_reads {c : Call} (h : c.Reads) : (c.program s ctx).Only Op.Reads := by
  cases c with
  | list caller admin supervisor requester =>
    exact only_map _ (only_list ctx caller admin supervisor requester)
  | getByID id caller admin supervisor requester =>
    exact only_map _ (only_getByID ctx id caller admin supervisor requester)
  | listStatusHistory id caller admin supervisor =>
    refine only_map _ (only_bind (only_requireView ctx id caller admin supervisor) fun _ => ?_)
    exact only_call trivial fun r => only_fromResult r
  | listAssignmentHistory id caller admin supervisor =>
    refine only_map _ (only_bind (only_requireView ctx id caller admin supervisor) fun _ => ?_)
    exact only_call trivial fun r => only_fromResult r
  | getAssignment id caller admin supervisor =>
    refine only_map _ (only_bind (only_requireView ctx id caller admin supervisor) fun _ => ?_)
    exact only_call trivial fun r => only_fromResult r
  | _ => exact h.elim

/-- Every call of the service has one of these outcomes. -/
theorem run_outcome (hnil : s.txRunner = none) (c : Call) :
    Outcome s env ctx st c ((c.program s ctx).run (exec env) st) := by
  have hread (h : c.Reads) : Outcome s env ctx st c ((c.program s ctx).run (exec env) st) :=
    .inl ⟨run_frame _ id (exec_of_reads env) (only_reads ctx h) st,.inl h⟩
  cases c with
  | create => exact create_outcome env ctx st _ _
  | update => exact update_outcome env ctx st _ _ _ _ _
  | changeStatus => exact changeStatus_outcome env ctx st hnil _ _ _ _ _ _
  | assignWorkItem => exact assignWorkItem_outcome env ctx st hnil _ _ _ _ _
  | respondToAssignment => exact respondToAssignment_outcome env ctx st hnil _ _ _ _ _
  | _ => exact hread trivial

end
end OpsPlatform.Workitems
