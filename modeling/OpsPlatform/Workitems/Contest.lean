import OpsPlatform.Workitems.Concurrent

/-! Two calls racing for one step of the workflow. Each of them checks what it has read and then
writes; nothing holds the rows in between, so both succeed exactly when both read first. -/
namespace OpsPlatform.Workitems
open OpsPlatform.Go Interaction Program

/-- One atomic call while the team authority stays as it is and `notifications.Service` is the
notifier. -/
def Wired (env : Env) (op : Op) (st : State) (r : op.Res) (st' : State) : Prop :=
  ∃ now notifiedAt, exec { env with
    now := now, notify := Notifications.notifyMemory notifiedAt } op st = (r,st')

lemma Wired.answers {env : Env} {op : Op} {st st' : State} {r : op.Res}
    (h : Wired env op st r st') : Answers op st r st' := by
  obtain ⟨now,notifiedAt,h⟩ := h
  exact ⟨_,h⟩

/-- Two calls that consume the same starting point of the work item `id`. -/
inductive Contest (st : State) (id : String) : Call → Call → Prop
  | assign {assigner assigner' : String} {admin admin' supervisor supervisor' : Bool}
      {input input' : AssignInput} {item : WorkItem} (found : st.items.byID id = some item)
      (created : item.status = .created) :
      Contest st id (.assignWorkItem id assigner admin supervisor input)
        (.assignWorkItem id assigner' admin' supervisor' input')
  | respond {user user' : String} {requester requester' accept accept' : Bool}
      {input input' : RespondToAssignmentInput} {item : WorkItem} {row : Assignment}
      (found : st.items.byID id = some item) (offered : st.assignments.byWorkItem id = some row)
      (pending : row.status = .assigned) :
      Contest st id (.respondToAssignment id user requester accept input)
        (.respondToAssignment id user' requester' accept' input')

/-- What the checks of a call say about its arguments and the rows it starts from. -/
def Service.Admits (s : Service) (env : Env) (item : WorkItem) (row : Option Assignment) :
    Call → Prop
  | .assignWorkItem id assigner admin supervisor input =>
    ¬ Blank id ∧ ¬ Blank assigner ∧ ¬ Blank input.assignedToUserID ∧
    s.MayAssign env assigner (trimSpace input.assignedToUserID) admin supervisor item ∧
    isValidTransition item.status .assigned = true
  | .respondToAssignment id user requester accept _ =>
    ¬ Blank id ∧ ¬ Blank user ∧ requester = false ∧
    (∃ offer, row = some offer ∧ offer.assignedToUserID = user ∧ offer.status = .assigned) ∧
    isValidTransition item.status (respondedStatus accept) = true
  | _ => False

/-- A read that returned the row as it was at the start. -/
def First (item₀ : WorkItem) (row₀ : Assignment) (e : Event Op.Res) : Prop :=
  (∀ item, itemRead e = some item → item = item₀) ∧
  (∀ row, offerRead e = some row → row = row₀)

/-- No assignment starts from the status. -/
def Unassignable (status : Status) : Prop := isValidTransition status .assigned = false

/-- Neither answer can be given in the status. -/
def Unanswerable (status : Status) : Prop :=
  ∀ accept, isValidTransition status (respondedStatus accept) = false

/-- The work item is as at the start, or in a status that closes the contest. -/
def ItemCell (id : String) (item₀ : WorkItem) (closed : Status → Prop) (st : State) : Prop :=
  ∃ item, st.items.byID id = some item ∧ (item = item₀ ∨ closed item.status)

/-- The assignment row is as at the start, or answered. -/
def OfferCell (id : String) (row₀ : Assignment) (st : State) : Prop :=
  ∃ row, st.assignments.byWorkItem id = some row ∧ (row = row₀ ∨ row.status ≠ .assigned)

section Relying
variable {env : Env} {I : State → Prop} {h : List (Event Op.Res)}

lemma rely_assignmentCreate {ctx : Context} {row : Assignment} {r}
    (hr : Pool.Rely (Wired env) I h ⟨.assignmentCreate ctx row,r⟩) : ∃ row, r = .ok row := by
  obtain ⟨st,st',-,now,notifiedAt,hexec⟩ := hr
  exact ⟨_,(congrArg Prod.fst hexec).symm⟩

lemma rely_isActiveSupervisorOf {ctx : Context} {supervisorUserID assigneeUserID : String} {r}
    (hr : Pool.Rely (Wired env) I h ⟨.isActiveSupervisorOf ctx supervisorUserID assigneeUserID,r⟩) :
    r = env.isActiveSupervisorOf supervisorUserID assigneeUserID := by
  obtain ⟨st,st',-,now,notifiedAt,hexec⟩ := hr
  exact (congrArg Prod.fst hexec).symm

lemma rely_notify {ctx : Context} {recipientUserID workItemID kind message : String} {r}
    (hr : Pool.Rely (Wired env) I h ⟨.notify ctx recipientUserID workItemID kind message,r⟩)
    (hrecipient : ¬ Blank recipientUserID) (hitem : ¬ Blank workItemID) (hkind : kind ≠ "")
    (hmessage : ¬ Blank message) : r = .ok () := by
  obtain ⟨st,st',-,now,notifiedAt,hexec⟩ := hr
  have hok := Notifications.notifyMemory_ok notifiedAt ctx st.notifications hrecipient hitem hkind
    hmessage
  exact (congrArg Prod.fst hexec).symm.trans hok

lemma rely_storeGetByID {id : String} {item₀ : WorkItem} {closed : Status → Prop}
    (hI : ∀ st, I st → ItemCell id item₀ closed st) {ctx : Context} {r}
    (hr : Pool.Rely (Wired env) I h ⟨.storeGetByID ctx id,r⟩) :
    ∃ item, r = .ok item ∧ item.id = id ∧ (item = item₀ ∨ closed item.status) := by
  obtain ⟨st,st',hst,now,notifiedAt,hexec⟩ := hr
  obtain ⟨item,hitem,hcell⟩ := hI st hst
  have hget : st.items.getByID id = .ok item := MemoryStore.getByID_eq_ok.mpr hitem
  exact ⟨item,(congrArg Prod.fst hexec).symm.trans hget,st.items.keyed hitem,hcell⟩

lemma rely_storeUpdate {id : String} {item₀ : WorkItem} {closed : Status → Prop}
    (hI : ∀ st, I st → ItemCell id item₀ closed st) {ctx : Context} {row : WorkItem}
    (hid : row.id = id) {r} (hr : Pool.Rely (Wired env) I h ⟨.storeUpdate ctx row,r⟩) : r = .ok row := by
  obtain ⟨st,st',hst,now,notifiedAt,hexec⟩ := hr
  obtain ⟨item,hitem,-⟩ := hI st hst
  have hput : (st.items.update row).1 = .ok row := by
    rw [st.items.update_eq row (by rw [hid, hitem]; rfl)]
  exact (congrArg Prod.fst hexec).symm.trans hput

lemma rely_assignmentGet {id : String} {row₀ : Assignment}
    (hI : ∀ st, I st → OfferCell id row₀ st) {ctx : Context} {r}
    (hr : Pool.Rely (Wired env) I h ⟨.assignmentGetByWorkItemID ctx id,r⟩) :
    ∃ row, r = .ok row ∧ row.workItemID = id ∧ (row = row₀ ∨ row.status ≠ .assigned) := by
  obtain ⟨st,st',hst,now,notifiedAt,hexec⟩ := hr
  obtain ⟨row,hrow,hcell⟩ := hI st hst
  have hget : st.assignments.getByWorkItemID id = .ok row :=
    MemoryAssignmentStore.getByWorkItemID_eq_ok.mpr hrow
  exact ⟨row,(congrArg Prod.fst hexec).symm.trans hget,st.assignments.keyed hrow,hcell⟩

lemma rely_assignmentUpdate {id : String} {row₀ : Assignment}
    (hI : ∀ st, I st → OfferCell id row₀ st) {ctx : Context} {row : Assignment}
    (hid : row.workItemID = id) {r}
    (hr : Pool.Rely (Wired env) I h ⟨.assignmentUpdate ctx row,r⟩) : r = .ok row := by
  obtain ⟨st,st',hst,now,notifiedAt,hexec⟩ := hr
  obtain ⟨old,hold,-⟩ := hI st hst
  have hput : (st.assignments.update row).1 = .ok row := by
    rw [st.assignments.update_eq row (by rw [hid, hold]; rfl)]
  exact (congrArg Prod.fst hexec).symm.trans hput

end Relying

/-- What a call may do in a contest over the work item `id`; only an answer touches the offer. -/
def MayRace (id : String) (closed : Status → Prop) (answering : Prop) : Op → Prop
  | .storeCreate _ _ => False
  | .storeGetByID _ id' => id' = id
  | .storeUpdate _ row => row.id = id ∧ closed row.status
  | .assignmentGetByWorkItemID _ id' => answering ∧ id' = id
  | .assignmentUpdate _ row => answering ∧ row.workItemID = id ∧ row.status ≠ .assigned
  | .assignmentCreate _ _ => ¬ answering
  | _ => True

/-- Every read so far returned its row as it was at the start. -/
def AllFirst (item₀ : WorkItem) (row₀ : Assignment) (h : List (Event Op.Res)) : Prop :=
  ∀ e ∈ h, First item₀ row₀ e

section Specs
variable {s : Service} {env : Env} {I : State → Prop} {h : List (Event Op.Res)} {id : String}
  {closed : Status → Prop} {answering : Prop} {item₀ : WorkItem} {row₀ : Assignment}
  (ctx : Context)

lemma allFirst_concat (e : Event Op.Res) :
    AllFirst item₀ row₀ (h ++ [e]) ↔ AllFirst item₀ row₀ h ∧ First item₀ row₀ e := by
  rw [AllFirst, List.forall_mem_append, List.forall_mem_singleton, AllFirst]

/-- An operation that reads neither row changes nothing about the reads so far. -/
lemma allFirst_neutral {e : Event Op.Res} (hitem : itemRead e = none) (hoffer : offerRead e = none) :
    AllFirst item₀ row₀ (h ++ [e]) ↔ AllFirst item₀ row₀ h := by
  rw [allFirst_concat, First, hitem, hoffer]
  simp

variable (item₀ row₀)

/-- A row is recorded without failing, and without a read. -/
lemma ensures_record {op : Op} {Row : Type} {stored : op.Res → Except Error Row}
    (hmay : MayRace id closed answering op)
    (hneutral : ∀ r, itemRead ⟨op,r⟩ = none ∧ offerRead ⟨op,r⟩ = none)
    (hok : ∀ env st, ∃ row, stored (exec env op st).1 = .ok row) :
    (do let _ ← call op fun r => fromResult (stored r); return () : M Unit).Ensures
      (Pool.Rely (Wired env) I) (fun _ => MayRace id closed answering)
      (fun h' x => (AllFirst item₀ row₀ h' ↔ AllFirst item₀ row₀ h) ∧ x = .ok ()) h := by
  rw [call_bind, ensures_call]
  refine ⟨hmay,fun r hr => ?_⟩
  obtain ⟨st,st',-,now,notifiedAt,hexec⟩ := hr
  obtain ⟨row,hrow⟩ := hok _ st
  rw [show (exec _ op st).1 = r from congrArg Prod.fst hexec] at hrow
  rw [hrow]
  exact (ensures_ret _).mpr ⟨allFirst_neutral (hneutral r).1 (hneutral r).2,rfl⟩

lemma ensures_recordStatusChange (workItemID : String) (src dst : Status) (actor : String)
    (reason : Option String) (now : Time) :
    (s.recordStatusChange ctx workItemID src dst actor reason now).Ensures
      (Pool.Rely (Wired env) I) (fun _ => MayRace id closed answering)
      (fun h' x => (AllFirst item₀ row₀ h' ↔ AllFirst item₀ row₀ h) ∧ x = .ok ()) h :=
  ensures_record item₀ row₀ trivial (fun _ => ⟨rfl,rfl⟩) fun _ _ => ⟨_,rfl⟩

lemma ensures_recordAssignmentEvent (workItemID : String) (action : AssignmentStatus)
    (actor assignee : String) (note : Option String) (now : Time) :
    (s.recordAssignmentEvent ctx workItemID action actor assignee note now).Ensures
      (Pool.Rely (Wired env) I) (fun _ => MayRace id closed answering)
      (fun h' x => (AllFirst item₀ row₀ h' ↔ AllFirst item₀ row₀ h) ∧ x = .ok ()) h :=
  ensures_record item₀ row₀ trivial (fun _ => ⟨rfl,rfl⟩) fun _ _ => ⟨_,rfl⟩

lemma ensures_notify {recipientUserID workItemID kind message : String}
    (hrecipient : ¬ Blank recipientUserID) (hitem : ¬ Blank workItemID) (hkind : kind ≠ "")
    (hmessage : ¬ Blank message) :
    (s.notify ctx recipientUserID workItemID kind message).Ensures
      (Pool.Rely (Wired env) I) (fun _ => MayRace id closed answering)
      (fun h' x => (AllFirst item₀ row₀ h' ↔ AllFirst item₀ row₀ h) ∧ x = .ok ()) h := by
  unfold Service.notify
  split_ifs
  · rw [ensures_call]
    refine ⟨trivial,fun r hr => ?_⟩
    rw [rely_notify hr hrecipient hitem hkind hmessage]
    exact (ensures_ret _).mpr ⟨allFirst_neutral rfl rfl,rfl⟩
  · exact (ensures_ret _).mpr ⟨Iff.rfl,rfl⟩

lemma ensures_notifyResponse {workItemID : String} {item : WorkItem} {row : Assignment}
    (hassigner : ¬ Blank row.assignedByUserID) (hitem : ¬ Blank workItemID) (accept : Bool) :
    (s.notifyResponse ctx workItemID item row accept).Ensures
      (Pool.Rely (Wired env) I) (fun _ => MayRace id closed answering)
      (fun h' x => (AllFirst item₀ row₀ h' ↔ AllFirst item₀ row₀ h) ∧ x = .ok ()) h := by
  unfold Service.notifyResponse
  split_ifs
  · exact ensures_notify item₀ row₀ ctx hassigner hitem (by decide)
      (not_blank_append (c := 'w') (by decide) rfl)
  · exact (ensures_ret _).mpr ⟨Iff.rfl,rfl⟩

lemma ensures_supervisorMayActOn (actor : String) (item : WorkItem) :
    (s.supervisorMayActOn ctx actor item).Ensures
      (Pool.Rely (Wired env) I) (fun _ => MayRace id closed answering)
      (fun h' x => (AllFirst item₀ row₀ h' ↔ AllFirst item₀ row₀ h) ∧
        x = s.mayActOn env actor item) h := by
  unfold Service.supervisorMayActOn Service.mayActOn
  cases item.assignedToUserID with
  | none => exact (ensures_ret _).mpr ⟨Iff.rfl,rfl⟩
  | some assignee =>
    dsimp only
    split_ifs with hset
    · rw [ensures_call]
      refine ⟨trivial,fun r hr => ?_⟩
      rw [ensures_fromResult]
      exact ⟨allFirst_neutral rfl rfl,rely_isActiveSupervisorOf hr⟩
    · exact (ensures_ret _).mpr ⟨Iff.rfl,rfl⟩

lemma ensures_authorizeAssign (assigner assignee : String) (admin supervisor : Bool)
    (item : WorkItem) :
    (s.authorizeAssign ctx assigner assignee admin supervisor item).Ensures
      (Pool.Rely (Wired env) I) (fun _ => MayRace id closed answering)
      (fun h' x => (AllFirst item₀ row₀ h' ↔ AllFirst item₀ row₀ h) ∧
        (x = .ok () ↔ s.MayAssign env assigner assignee admin supervisor item)) h := by
  unfold Service.authorizeAssign Service.MayAssign Service.MayAct
  cases admin with
  | true => exact (ensures_ret _).mpr ⟨Iff.rfl,by simp⟩
  | false =>
    cases supervisor with
    | false => exact (ensures_fail _).mpr ⟨Iff.rfl,by simp⟩
    | true =>
      simp only [Bool.false_eq_true, if_false, if_true]
      rw [ensures_bind]
      refine (ensures_supervisorMayActOn item₀ row₀ ctx assigner item).imp (fun _ _ h => h) ?_
      intro h' x _ hdone
      obtain ⟨hall,hx⟩ := hdone
      rw [← hx]
      rcases x with e | _ | _
      · exact ⟨hall,by simp⟩
      · dsimp only
        rw [ensures_failIf_bind]
        exact ⟨fun _ => ⟨hall,by simp⟩,fun h => (h (by decide)).elim⟩
      · dsimp only
        rw [ensures_failIf_bind]
        refine ⟨fun h => (h rfl).elim,fun _ => ?_⟩
        rw [ensures_failIf_bind]
        refine ⟨fun hset => ⟨hall,by simp [Bool.not_eq_true _ ▸ hset]⟩,fun hset => ?_⟩
        rw [not_not] at hset
        rw [call_bind, ensures_call]
        refine ⟨trivial,fun r hr => ?_⟩
        rw [← rely_isActiveSupervisorOf hr]
        have hall' : AllFirst item₀ row₀
            (h' ++ [⟨.isActiveSupervisorOf ctx assigner assignee,r⟩]) ↔ AllFirst item₀ row₀ h :=
          (allFirst_neutral rfl rfl).trans hall
        rcases r with e | _ | _
        · exact (ensures_fail _).mpr ⟨hall',by simp⟩
        · rw [fromResult_ok, ret_bind, ensures_failIf]
          exact ⟨fun _ => ⟨hall',by simp⟩,fun h => (h (by decide)).elim⟩
        · rw [fromResult_ok, ret_bind, ensures_failIf]
          exact ⟨fun h => (h rfl).elim,fun _ => ⟨hall',by simp [hset]⟩⟩

/-- The verdict on a call: it succeeds exactly when its checks pass on the first rows and it has
read no other. -/
def Verdict (s : Service) (env : Env) (item₀ : WorkItem) (row₀ : Assignment) (c : Call)
    (h : List (Event Op.Res)) (x : Except Error Reply) : Prop :=
  (∃ reply, x = .ok reply) ↔ s.Admits env item₀ (some row₀) c ∧ AllFirst item₀ row₀ h

lemma verdict_refused {c : Call} {e : Error}
    (hno : s.Admits env item₀ (some row₀) c → ¬ AllFirst item₀ row₀ h) :
    Verdict s env item₀ row₀ c h (.error e) := by
  refine ⟨?_,fun ⟨hadmits,hall⟩ => (hno hadmits hall).elim⟩
  rintro ⟨reply,hreply⟩
  cases hreply

theorem assign_verdict (hnil : s.txRunner = none)
    (hI : ∀ st, I st → ItemCell id item₀ Unassignable st)
    (assigner : String) (admin supervisor : Bool) (input : AssignInput) :
    ((Call.assignWorkItem id assigner admin supervisor input).program s ctx).Ensures
      (Pool.Rely (Wired env) I) (fun _ => MayRace id Unassignable False)
      (Verdict s env item₀ row₀ (.assignWorkItem id assigner admin supervisor input)) [] := by
  unfold Call.program Service.assignWorkItem
  rw [ensures_map, ensures_failIf_bind]
  refine ⟨fun hargs => verdict_refused item₀ row₀ ?_,fun hargs => ?_⟩
  · intro hadmits _
    obtain ⟨hid,hassigner,hassignee,-⟩ := hadmits
    exact (hargs.elim hid fun h => h.elim hassigner hassignee).elim
  rw [not_or, not_or] at hargs
  rw [runAtomic_of_nil ctx hnil, call_bind, ensures_call]
  refine ⟨rfl,fun r hr => ?_⟩
  obtain ⟨item,rfl,hid,hcell⟩ := rely_storeGetByID hI hr
  have hget : AllFirst item₀ row₀ ([] ++ [⟨.storeGetByID ctx id,.ok item⟩]) ↔ item = item₀ := by
    simp [AllFirst, First, itemRead, offerRead]
  rw [fromResult_ok, ret_bind, ensures_bind]
  refine (ensures_authorizeAssign item₀ row₀ ctx assigner (trimSpace input.assignedToUserID) admin
    supervisor item).imp (fun _ _ h => h) ?_
  intro h' x _ hdone
  obtain ⟨hall,hallowed⟩ := hdone
  rw [hget] at hall
  rcases x with e | ⟨⟩
  · apply verdict_refused item₀ row₀
    intro hadmits hfirst
    obtain ⟨-,-,-,hmay,-⟩ := hadmits
    obtain rfl := hall.mp hfirst
    cases hallowed.mpr hmay
  dsimp only
  rw [ensures_failIf_bind]
  refine ⟨fun hmove => verdict_refused item₀ row₀ ?_,fun hmove => ?_⟩
  · intro hadmits hfirst
    obtain ⟨-,-,-,-,hvalid⟩ := hadmits
    obtain rfl := hall.mp hfirst
    exact hmove hvalid
  rw [not_not] at hmove
  have hitem : item = item₀ := by
    apply hcell.resolve_right
    rw [Unassignable, hmove]; decide
  rw [call_bind, ensures_call]
  refine ⟨trivial,fun now _ => ?_⟩
  rw [ret_bind, call_bind, ensures_call]
  have hrow : (assignedItem item (trimSpace input.assignedToUserID) now).id = id := hid
  refine ⟨⟨hrow,rfl⟩,fun r hr => ?_⟩
  obtain rfl := rely_storeUpdate hI hrow hr
  rw [fromResult_ok, ret_bind, ensures_bind]
  refine (ensures_recordStatusChange item₀ row₀ ctx _ _ _ _ _ _).imp (fun _ _ h => h) ?_
  intro h₁ x _ hdone
  obtain ⟨hall₁,rfl⟩ := hdone
  dsimp only
  rw [call_bind, ensures_call]
  refine ⟨not_false,fun r hr => ?_⟩
  obtain ⟨row,rfl⟩ := rely_assignmentCreate hr
  rw [fromResult_ok, ret_bind, ensures_bind]
  refine (ensures_recordAssignmentEvent item₀ row₀ ctx _ _ _ _ _ _).imp (fun _ _ h => h) ?_
  intro h₂ x _ hdone
  obtain ⟨hall₂,rfl⟩ := hdone
  dsimp only
  rw [ensures_bind]
  refine (ensures_notify item₀ row₀ ctx (not_blank_trimSpace hargs.2.2) hargs.1 (by decide)
    (not_blank_append (c := 'w') (by decide) rfl)).imp (fun _ _ h => h) ?_
  intro h₃ x _ hdone
  obtain ⟨hall₃,rfl⟩ := hdone
  refine (ensures_ret _).mpr ⟨fun _ => ⟨⟨hargs.1,hargs.2.1,hargs.2.2,?_,?_⟩,?_⟩,fun _ => ⟨_,rfl⟩⟩
  · exact hitem ▸ hallowed.mp rfl
  · exact hitem ▸ hmove
  · rw [hall₃, hall₂, allFirst_neutral rfl rfl, hall₁, allFirst_neutral rfl rfl,
      allFirst_neutral rfl rfl, hall]
    exact hitem

theorem respond_verdict (hnil : s.txRunner = none)
    (hI : ∀ st, I st → ItemCell id item₀ Unanswerable st)
    (hI' : ∀ st, I st → OfferCell id row₀ st) (hassigner : ¬ Blank row₀.assignedByUserID)
    (user : String) (requester accept : Bool) (input : RespondToAssignmentInput) :
    ((Call.respondToAssignment id user requester accept input).program s ctx).Ensures
      (Pool.Rely (Wired env) I) (fun _ => MayRace id Unanswerable True)
      (Verdict s env item₀ row₀ (.respondToAssignment id user requester accept input)) [] := by
  unfold Call.program Service.respondToAssignment
  rw [ensures_map, ensures_failIf_bind]
  refine ⟨fun hargs => verdict_refused item₀ row₀ ?_,fun hargs => ?_⟩
  · intro hadmits _
    obtain ⟨hid,huser,-⟩ := hadmits
    exact (hargs.elim hid huser).elim
  rw [not_or] at hargs
  rw [ensures_failIf_bind]
  refine ⟨fun hrequester => verdict_refused item₀ row₀ ?_,fun hrequester => ?_⟩
  · intro hadmits _
    obtain ⟨-,-,hno,-⟩ := hadmits
    rw [hno] at hrequester; cases hrequester
  rw [runAtomic_of_nil ctx hnil, call_bind, ensures_call]
  refine ⟨rfl,fun r hr => ?_⟩
  obtain ⟨item,rfl,hid,hcell⟩ := rely_storeGetByID hI hr
  rw [fromResult_ok, ret_bind, call_bind, ensures_call]
  refine ⟨⟨trivial,rfl⟩,fun r hr => ?_⟩
  obtain ⟨row,rfl,hrowID,hrowCell⟩ := rely_assignmentGet hI' hr
  have hall : AllFirst item₀ row₀ ([] ++ [⟨.storeGetByID ctx id,.ok item⟩] ++
      [⟨.assignmentGetByWorkItemID ctx id,.ok row⟩]) ↔ item = item₀ ∧ row = row₀ := by
    simp [AllFirst, First, itemRead, offerRead]
  rw [fromResult_ok, ret_bind, ensures_failIf_bind]
  refine ⟨fun howned => verdict_refused item₀ row₀ ?_,fun howned => ?_⟩
  · intro hadmits hfirst
    obtain ⟨-,-,-,⟨offer,hoffer,huser,-⟩,-⟩ := hadmits
    obtain ⟨-,rfl⟩ := hall.mp hfirst
    exact howned (Option.some.inj hoffer ▸ huser)
  rw [ensures_failIf_bind]
  refine ⟨fun hpending => verdict_refused item₀ row₀ ?_,fun hpending => ?_⟩
  · intro hadmits hfirst
    obtain ⟨-,-,-,⟨offer,hoffer,-,hassigned⟩,-⟩ := hadmits
    obtain ⟨-,rfl⟩ := hall.mp hfirst
    exact hpending (Option.some.inj hoffer ▸ hassigned)
  rw [ensures_failIf_bind]
  refine ⟨fun hmove => verdict_refused item₀ row₀ ?_,fun hmove => ?_⟩
  · intro hadmits hfirst
    obtain ⟨-,-,-,-,hvalid⟩ := hadmits
    obtain ⟨rfl,-⟩ := hall.mp hfirst
    exact hmove hvalid
  rw [not_not] at howned hpending hmove
  have hitem : item = item₀ := by
    refine hcell.resolve_right fun hclosed => ?_
    rw [hclosed accept] at hmove; cases hmove
  have hrow : row = row₀ := hrowCell.resolve_right fun hanswered => hanswered hpending
  rw [call_bind, ensures_call]
  refine ⟨trivial,fun now _ => ?_⟩
  rw [ret_bind, call_bind, ensures_call]
  have hnewItem : (respondedItem item accept now).id = id := hid
  refine ⟨⟨hnewItem,?_⟩,fun r hr => ?_⟩
  · intro accept'
    cases accept <;> cases accept' <;> rfl
  obtain rfl := rely_storeUpdate hI hnewItem hr
  rw [fromResult_ok, ret_bind, ensures_bind]
  refine (ensures_recordStatusChange item₀ row₀ ctx _ _ _ _ _ _).imp (fun _ _ h => h) ?_
  intro h₁ x _ hdone
  obtain ⟨hall₁,rfl⟩ := hdone
  dsimp only
  rw [call_bind, ensures_call]
  have hnewRow : (respondedAssignment row accept input.note now).workItemID = id := hrowID
  refine ⟨⟨trivial,hnewRow,?_⟩,fun r hr => ?_⟩
  · cases accept <;> simp [respondedAssignment, respondedAction]
  obtain rfl := rely_assignmentUpdate hI' hnewRow hr
  rw [fromResult_ok, ret_bind, ensures_bind]
  refine (ensures_recordAssignmentEvent item₀ row₀ ctx _ _ _ _ _ _).imp (fun _ _ h => h) ?_
  intro h₂ x _ hdone
  obtain ⟨hall₂,rfl⟩ := hdone
  dsimp only
  rw [ensures_bind]
  refine (ensures_notifyResponse item₀ row₀ ctx (hrow ▸ hassigner) hargs.1 accept).imp
    (fun _ _ h => h) ?_
  intro h₃ x _ hdone
  obtain ⟨hall₃,rfl⟩ := hdone
  refine (ensures_ret _).mpr ⟨fun _ => ⟨⟨hargs.1,hargs.2,?_,?_,?_⟩,?_⟩,fun _ => ⟨_,rfl⟩⟩
  · exact Bool.not_eq_true _ ▸ hrequester
  · exact ⟨row,congrArg some hrow.symm,howned,hpending⟩
  · exact hitem ▸ hmove
  · rw [hall₃, hall₂, allFirst_neutral rfl rfl, hall₁, allFirst_neutral rfl rfl,
      allFirst_neutral rfl rfl, hall]
    exact ⟨hitem,hrow⟩

end Specs
end OpsPlatform.Workitems
