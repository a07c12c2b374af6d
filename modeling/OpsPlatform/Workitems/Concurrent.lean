import OpsPlatform.Interaction.Pool
import OpsPlatform.Workitems.Sequential

/-! Concurrent calls of the service on the in-memory stores. What a call may write depends only on
what it has read; everything about interleavings follows from that. -/
namespace OpsPlatform.Workitems
open OpsPlatform.Go Interaction Program

/-- One atomic call on the stores. The clock, the notifier and the team authority may answer
anything at any time. -/
def Answers (op : Op) (st : State) (r : op.Res) (st' : State) : Prop :=
  ∃ env : Env, exec env op st = (r,st')

/-- The work item a `GetByID` of the store returned. -/
def itemRead : Event Op.Res → Option WorkItem
  | ⟨.storeGetByID _ _,.ok item⟩ => some item
  | _ => none

/-- The assignment row a `GetByWorkItemID` returned. -/
def offerRead : Event Op.Res → Option Assignment
  | ⟨.assignmentGetByWorkItemID _ _,.ok row⟩ => some row
  | _ => none

/-- The work items a call has read so far. -/
def itemsRead (h : List (Event Op.Res)) : List WorkItem := h.filterMap itemRead

/-- The assignment rows a call has read so far. -/
def offersRead (h : List (Event Op.Res)) : List Assignment := h.filterMap offerRead

/-- The row a call writes over the item it has read. -/
def Call.Rewrites (item row : WorkItem) : Call → Prop
  | .update _ _ _ _ input => ∃ edited now, input.apply item = .ok edited ∧ row = editedItem edited now
  | .changeStatus _ _ _ _ _ input => isValidTransition item.status input.toStatus = true ∧
    ∃ now, row = movedItem item input.toStatus now
  | .assignWorkItem _ _ _ _ input => isValidTransition item.status .assigned = true ∧
    ¬ Blank input.assignedToUserID ∧
    ∃ now, row = assignedItem item (trimSpace input.assignedToUserID) now
  | .respondToAssignment _ _ _ accept _ =>
    isValidTransition item.status (respondedStatus accept) = true ∧
    ∃ now, row = respondedItem item accept now
  | _ => False

/-- A call of `Update`, the field edit. -/
def Call.edits : Call → Bool
  | .update _ _ _ _ _ => true
  | _ => false

/-- A rewrite either leaves the status or makes an admissible move; an edit leaves the assignee. -/
lemma Call.Rewrites.status {c : Call} {item row : WorkItem} (h : c.Rewrites item row) :
    row.id = item.id ∧
    (c.edits = true → row.status = item.status ∧ row.assignedToUserID = item.assignedToUserID) ∧
    (c.edits = false → isValidTransition item.status row.status = true) := by
  cases c with
  | update =>
    obtain ⟨edited,now,happly,rfl⟩ := h
    have hedit := UpdateInput.apply_editOf happly
    exact ⟨hedit.id,fun _ => ⟨hedit.status,hedit.assignedToUserID⟩,by simp [Call.edits]⟩
  | changeStatus =>
    obtain ⟨hmove,now,rfl⟩ := h
    exact ⟨rfl,by simp [Call.edits],fun _ => hmove⟩
  | assignWorkItem =>
    obtain ⟨hmove,-,now,rfl⟩ := h
    exact ⟨rfl,by simp [Call.edits],fun _ => hmove⟩
  | respondToAssignment =>
    obtain ⟨hmove,now,rfl⟩ := h
    exact ⟨rfl,by simp [Call.edits],fun _ => hmove⟩
  | _ => exact h.elim

/-- The call has read the row of its work item. -/
def Call.HasRead (c : Call) (h : List (Event Op.Res)) (item : WorkItem) : Prop :=
  ∃ ctx id, c.target = some id ∧ ⟨.storeGetByID ctx id,.ok item⟩ ∈ h

/-- What a call may do on the stores, having seen `h`. -/
def Call.May (c : Call) (h : List (Event Op.Res)) : Op → Prop
  | .storeCreate _ row => ∃ createdByUserID input now, c = .create createdByUserID input ∧
    ¬ Blank createdByUserID ∧ row = newItem createdByUserID input now
  | .storeUpdate _ row => ∃ item, c.HasRead h item ∧ c.Rewrites item row
  | .assignmentCreate _ row => ¬ Blank row.assignedByUserID
  | .assignmentUpdate _ row => ∃ old ∈ offersRead h, ∃ accept note now,
    row = respondedAssignment old accept note now
  | _ => True

section Judgements
variable {s : Service} {c : Call} {R : List (Event Op.Res) → Event Op.Res → Prop}
  {h : List (Event Op.Res)}

lemma hasRead_of_read {h' : List (Event Op.Res)} {ctx : Context} {id : String} {item : WorkItem}
    (hh : h ++ [⟨.storeGetByID ctx id,.ok item⟩] <+: h') (hid : c.target = some id) :
    c.HasRead h' item := ⟨ctx,id,hid,hh.subset (by simp)⟩

lemma Call.HasRead.mem {item : WorkItem} (hread : c.HasRead h item) : item ∈ itemsRead h := by
  obtain ⟨ctx,id,-,hmem⟩ := hread
  exact List.mem_filterMap.mpr ⟨_,hmem,rfl⟩

lemma offersRead_mono {h' : List (Event Op.Res)} (hh : h <+: h') {row : Assignment}
    (hrow : row ∈ offersRead h) : row ∈ offersRead h' := (hh.filterMap offerRead).subset hrow

/-- The operations every call may issue at any time. -/
def Op.Free : Op → Prop
  | .storeCreate _ _ | .storeUpdate _ _ | .assignmentCreate _ _ | .assignmentUpdate _ _ => False
  | _ => True

lemma may_of_free {op : Op} (hop : op.Free) (h : List (Event Op.Res)) : c.May h op := by
  cases op <;> trivial

lemma ensures_of_free {α : Type} {p : M α} (hp : p.Only Op.Free) (h : List (Event Op.Res)) :
    p.Ensures R c.May (fun h' _ => h <+: h') h :=
  (ensures_of_only (R := R) (P := c.May) hp (fun _ hop h => may_of_free hop h) h).imp
    (fun _ _ hP => hP) fun _ _ hh _ => hh

lemma free_of_reads {α : Type} {p : M α} (hp : p.Only Op.Reads) : p.Only Op.Free :=
  hp.imp fun op hop => by cases op <;> trivial

lemma free_of_asks {α : Type} {p : M α} (ctx : Context) (hp : p.Only (Op.Asks ctx)) :
    p.Only Op.Free := free_of_reads (reads_of_asks ctx hp)

/-- Whoever is let through by `ChangeStatus` makes an admissible move. -/
lemma ensures_authorizeChangeStatus (ctx : Context) (actor : String)
    (admin supervisor requester : Bool) (item : WorkItem) (toStatus : Status) :
    (s.authorizeChangeStatus ctx actor admin supervisor requester item toStatus).Ensures R c.May
      (fun h' x => h <+: h' ∧ (x = .ok () → isValidTransition item.status toStatus = true)) h := by
  unfold Service.authorizeChangeStatus
  split_ifs
  · rw [ensures_failIf]
    exact ⟨fun _ => ⟨List.prefix_rfl,by simp⟩,fun hmove => ⟨List.prefix_rfl,fun _ => by simpa using hmove⟩⟩
  · rw [ensures_bind]
    refine (ensures_of_free (free_of_asks ctx (asks_supervisorMayActOn ctx actor item)) h).imp
      (fun _ _ h => h) ?_
    intro h' x _ hh'
    cases x with
    | error e => exact ⟨hh',by simp⟩
    | ok allowed =>
      dsimp only
      rw [ensures_failIf_bind, ensures_failIf]
      exact ⟨fun _ => ⟨hh',by simp⟩,fun _ => ⟨fun _ => ⟨hh',by simp⟩,
        fun hmove => ⟨hh',fun _ => by simpa using hmove⟩⟩⟩
  · rw [ensures_fail]
    exact ⟨List.prefix_rfl,by simp⟩
  · rw [ensures_failIf_bind, ensures_failIf]
    exact ⟨fun _ => ⟨List.prefix_rfl,by simp⟩,fun _ => ⟨fun _ => ⟨List.prefix_rfl,by simp⟩,
      fun hmove => ⟨List.prefix_rfl,fun _ =>
        isValidTransition_of_isAssigneeAllowedTransition (by simpa using hmove)⟩⟩⟩

lemma only_notify (ctx : Context) (recipientUserID workItemID kind message : String) :
    (s.notify ctx recipientUserID workItemID kind message).Only Op.Free := by
  unfold Service.notify
  split_ifs
  · exact only_call trivial fun r => only_fromResult r
  · exact only_ret _

lemma only_recordStatusChange (ctx : Context) (workItemID : String) (src dst : Status)
    (actor : String) (reason : Option String) (now : Time) :
    (s.recordStatusChange ctx workItemID src dst actor reason now).Only Op.Free :=
  only_bind (only_call trivial fun r => only_fromResult r) fun _ => only_ret _

lemma only_recordAssignmentEvent (ctx : Context) (workItemID : String) (action : AssignmentStatus)
    (actor assignee : String) (note : Option String) (now : Time) :
    (s.recordAssignmentEvent ctx workItemID action actor assignee note now).Only Op.Free :=
  only_bind (only_call trivial fun r => only_fromResult r) fun _ => only_ret _

end Judgements

section Calls
variable {s : Service} {R : List (Event Op.Res) → Event Op.Res → Prop} {h : List (Event Op.Res)}
  (ctx : Context)

lemma mem_offersRead (row : Assignment) (id : String) :
    row ∈ offersRead (h ++ [⟨.assignmentGetByWorkItemID ctx id,.ok row⟩]) := by
  simp [offersRead, offerRead]

lemma create_may (createdByUserID : String) (input : CreateInput) :
    ((Call.create createdByUserID input).program s ctx).Ensures R
      (Call.create createdByUserID input).May (fun _ _ => True) h := by
  unfold Call.program Service.create
  rw [ensures_map]
  refine ensures_failIf_andThen fun hcreator => ?_
  refine ensures_failIf_andThen fun _ => ?_
  refine ensures_failIf_andThen fun _ => ?_
  rw [call_bind, ensures_call]
  refine ⟨trivial,fun now _ => ?_⟩
  rw [ret_bind, ensures_call]
  refine ⟨⟨_,_,now,rfl,hcreator,rfl⟩,fun r _ => ?_⟩
  rw [ensures_fromResult]
  trivial

lemma update_may (id caller : String) (admin supervisor : Bool) (input : UpdateInput) :
    ((Call.update id caller admin supervisor input).program s ctx).Ensures R
      (Call.update id caller admin supervisor input).May (fun _ _ => True) h := by
  unfold Call.program Service.update
  rw [ensures_map]
  refine ensures_failIf_andThen fun _ => ?_
  rw [call_bind, ensures_call]
  refine ⟨trivial,fun r _ => ?_⟩
  apply ensures_fromResult_bind
  intro item hitem
  subst hitem
  refine (ensures_of_free (free_of_asks ctx (asks_authorizeUpdate ctx caller admin supervisor
    item)) _).andThen fun h' _ hh' _ => ?_
  refine ensures_fromResult_bind fun edited happly => ?_
  rw [call_bind, ensures_call]
  refine ⟨trivial,fun now _ => ?_⟩
  rw [ret_bind, ensures_call]
  refine ⟨⟨item,?_,edited,now,happly,rfl⟩,fun r _ => ?_⟩
  · exact hasRead_of_read (hh'.trans (List.prefix_append _ _)) rfl
  · rw [ensures_fromResult]; trivial

lemma changeStatus_may (hnil : s.txRunner = none) (id actor : String)
    (admin supervisor requester : Bool) (input : ChangeStatusInput) :
    ((Call.changeStatus id actor admin supervisor requester input).program s ctx).Ensures R
      (Call.changeStatus id actor admin supervisor requester input).May (fun _ _ => True) h := by
  unfold Call.program Service.changeStatus
  rw [ensures_map]
  refine ensures_failIf_andThen fun _ => ?_
  refine ensures_failIf_andThen fun _ => ?_
  refine ensures_failIf_andThen fun _ => ?_
  rw [runAtomic_of_nil ctx hnil, call_bind, ensures_call]
  refine ⟨trivial,fun r _ => ?_⟩
  apply ensures_fromResult_bind
  intro item hitem
  subst hitem
  refine (ensures_authorizeChangeStatus ctx actor admin supervisor requester item
    input.toStatus).andThen ?_
  rintro h' ⟨⟩ - ⟨hh',hmove⟩
  rw [call_bind, ensures_call]
  refine ⟨trivial,fun now _ => ?_⟩
  rw [ret_bind, call_bind, ensures_call]
  refine ⟨⟨item,?_,hmove rfl,now,rfl⟩,fun r _ => ?_⟩
  · exact hasRead_of_read (hh'.trans (List.prefix_append _ _)) rfl
  apply ensures_fromResult_bind
  intro updated hupdated
  subst hupdated
  refine (ensures_of_free ?_ _).imp (fun _ _ h => h) fun _ _ _ _ => trivial
  refine only_bind (only_recordStatusChange ctx _ _ _ _ _ _) fun _ => ?_
  split
  · exact only_ret _
  · exact only_bind (only_notify ctx _ _ _ _) fun _ => only_ret _

lemma assignWorkItem_may (hnil : s.txRunner = none) (id assigner : String)
    (admin supervisor : Bool) (input : AssignInput) :
    ((Call.assignWorkItem id assigner admin supervisor input).program s ctx).Ensures R
      (Call.assignWorkItem id assigner admin supervisor input).May (fun _ _ => True) h := by
  unfold Call.program Service.assignWorkItem
  rw [ensures_map]
  refine ensures_failIf_andThen fun hargs => ?_
  rw [not_or, not_or] at hargs
  rw [runAtomic_of_nil ctx hnil, call_bind, ensures_call]
  refine ⟨trivial,fun r _ => ?_⟩
  apply ensures_fromResult_bind
  intro item hitem
  subst hitem
  refine (ensures_of_free (free_of_asks ctx (asks_authorizeAssign ctx assigner
    (trimSpace input.assignedToUserID) admin supervisor item)) _).andThen fun h' _ hh' _ => ?_
  refine ensures_failIf_andThen fun hmove => ?_
  rw [not_not] at hmove
  rw [call_bind, ensures_call]
  refine ⟨trivial,fun now _ => ?_⟩
  rw [ret_bind, call_bind, ensures_call]
  refine ⟨⟨item,?_,hmove,hargs.2.2,now,rfl⟩,fun r _ => ?_⟩
  · exact hasRead_of_read (hh'.trans (List.prefix_append _ _)) rfl
  apply ensures_fromResult_bind
  intro updated hupdated
  subst hupdated
  refine (ensures_of_free (only_recordStatusChange ctx _ _ _ _ _ _) _).andThen fun h' _ _ _ => ?_
  rw [call_bind, ensures_call]
  refine ⟨hargs.2.1,fun r _ => ?_⟩
  apply ensures_fromResult_bind
  intro assignment hassignment
  subst hassignment
  refine (ensures_of_free ?_ _).imp (fun _ _ h => h) fun _ _ _ _ => trivial
  refine only_bind (only_recordAssignmentEvent ctx _ _ _ _ _ _) fun _ => ?_
  exact only_bind (only_notify ctx _ _ _ _) fun _ => only_ret _

lemma respondToAssignment_may (hnil : s.txRunner = none) (id user : String)
    (requester accept : Bool) (input : RespondToAssignmentInput) :
    ((Call.respondToAssignment id user requester accept input).program s ctx).Ensures R
      (Call.respondToAssignment id user requester accept input).May (fun _ _ => True) h := by
  unfold Call.program Service.respondToAssignment
  rw [ensures_map]
  refine ensures_failIf_andThen fun _ => ?_
  refine ensures_failIf_andThen fun _ => ?_
  rw [runAtomic_of_nil ctx hnil, call_bind, ensures_call]
  refine ⟨trivial,fun r _ => ?_⟩
  apply ensures_fromResult_bind
  intro item hitem
  subst hitem
  rw [call_bind, ensures_call]
  refine ⟨trivial,fun r _ => ?_⟩
  apply ensures_fromResult_bind
  intro old hold
  subst hold
  refine ensures_failIf_andThen fun _ => ?_
  refine ensures_failIf_andThen fun _ => ?_
  refine ensures_failIf_andThen fun hmove => ?_
  rw [not_not] at hmove
  rw [call_bind, ensures_call]
  refine ⟨trivial,fun now _ => ?_⟩
  rw [ret_bind, call_bind, ensures_call]
  refine ⟨⟨item,?_,hmove,now,rfl⟩,fun r _ => ?_⟩
  · exact hasRead_of_read ((List.prefix_append _ _).trans (List.prefix_append _ _)) rfl
  apply ensures_fromResult_bind
  intro updated hupdated
  subst hupdated
  refine (ensures_of_free (only_recordStatusChange ctx _ _ _ _ _ _) _).andThen fun h' _ hh' _ => ?_
  rw [call_bind, ensures_call]
  refine ⟨⟨old,?_,accept,input.note,now,rfl⟩,fun r _ => ?_⟩
  · have hnow := (List.prefix_append _ _).trans hh'
    exact offersRead_mono ((List.prefix_append _ _).trans hnow) (mem_offersRead ctx old id)
  apply ensures_fromResult_bind
  intro assignment hassignment
  subst hassignment
  refine (ensures_of_free ?_ _).imp (fun _ _ h => h) fun _ _ _ _ => trivial
  refine only_bind (only_recordAssignmentEvent ctx _ _ _ _ _ _) fun _ => ?_
  refine only_bind ?_ fun _ => only_ret _
  unfold Service.notifyResponse
  split_ifs
  · exact only_notify ctx _ _ _ _
  · exact only_ret _

/-- Every call keeps within its limits, whatever it is answered. -/
theorem program_may (hnil : s.txRunner = none) (c : Call) :
    (c.program s ctx).Ensures R c.May (fun _ _ => True) h := by
  have hread (hc : c.Reads) : (c.program s ctx).Ensures R c.May (fun _ _ => True) h :=
    (ensures_of_free (free_of_reads (only_reads ctx hc)) h).imp (fun _ _ h => h)
      fun _ _ _ _ => trivial
  cases c with
  | create => exact create_may ctx _ _
  | update => exact update_may ctx _ _ _ _ _
  | changeStatus => exact changeStatus_may ctx hnil _ _ _ _ _ _
  | assignWorkItem => exact assignWorkItem_may ctx hnil _ _ _ _ _
  | respondToAssignment => exact respondToAssignment_may ctx hnil _ _ _ _ _
  | _ => exact hread trivial

end Calls

/-- Concurrent calls on one set of stores, each with its context. -/
abbrev Calls (ι : Type) := Pool ι Op.Res Error Reply State

section Pools
variable {ι : Type} {calls : ι → Context × Call}

/-- All calls at their beginning. -/
def begin (s : Service) (calls : ι → Context × Call) (st : State) : Calls ι :=
  Pool.start st fun i => (calls i).2.program s (calls i).1

/-- Every call under way keeps within its limits. -/
def Limited (calls : ι → Context × Call) (p : Calls ι) : Prop :=
  ∀ i, (p.thread i).Ensures (fun _ _ => True) (calls i).2.May (fun _ _ => True) (p.seen i)

theorem begin_limited {s : Service} (hnil : s.txRunner = none) (st : State) :
    Limited calls (begin s calls st) := fun _ => program_may _ hnil _

end Pools

/-- What an operation does to the stored work items. -/
def Op.onItems : Op → MemoryStore → MemoryStore
  | .storeCreate _ item, items => (items.create item).2
  | .storeUpdate _ item, items => (items.update item).2
  | _, items => items

lemma Answers.items {op : Op} {st st' : State} {r : op.Res} (h : Answers op st r st') :
    st'.items = op.onItems st.items := by
  obtain ⟨env,h⟩ := h
  have hst : (exec env op st).2 = st' := congrArg Prod.snd h
  rw [← hst]
  cases op <;> rfl

/-- What an operation does to the assignment rows. -/
def Op.onAssignments : Op → MemoryAssignmentStore → MemoryAssignmentStore
  | .assignmentCreate _ row, assignments => (assignments.create row).2
  | .assignmentUpdate _ row, assignments => (assignments.update row).2
  | _, assignments => assignments

lemma Answers.assignments {op : Op} {st st' : State} {r : op.Res} (h : Answers op st r st') :
    st'.assignments = op.onAssignments st.assignments := by
  obtain ⟨env,h⟩ := h
  have hst : (exec env op st).2 = st' := congrArg Prod.snd h
  rw [← hst]
  cases op <;> rfl

lemma Answers.itemRead {op : Op} {st st' : State} {r : op.Res} (h : Answers op st r st')
    {item : WorkItem} (hread : itemRead ⟨op,r⟩ = some item) :
    ∃ id, st.items.byID id = some item := by
  obtain ⟨env,h⟩ := h
  cases op with
  | storeGetByID ctx id =>
    have hr : st.items.getByID id = r := congrArg Prod.fst h
    rcases r with e | row
    · cases hread
    · cases hread; exact ⟨id,MemoryStore.getByID_eq_ok.mp hr⟩
  | _ => cases hread

lemma Answers.offerRead {op : Op} {st st' : State} {r : op.Res} (h : Answers op st r st')
    {row : Assignment} (hread : offerRead ⟨op,r⟩ = some row) :
    ∃ id, st.assignments.byWorkItem id = some row := by
  obtain ⟨env,h⟩ := h
  cases op with
  | assignmentGetByWorkItemID ctx id =>
    have hr : st.assignments.getByWorkItemID id = r := congrArg Prod.fst h
    rcases r with e | row
    · cases hread
    · cases hread; exact ⟨id,MemoryAssignmentStore.getByWorkItemID_eq_ok.mp hr⟩
  | _ => cases hread

lemma Call.Rewrites.named {c : Call} {item row : WorkItem} (h : c.Rewrites item row)
    (hitem : item.Named) : row.Named := by
  cases c with
  | update =>
    obtain ⟨edited,now,happly,rfl⟩ := h
    have hedit := UpdateInput.apply_editOf happly
    refine ⟨?_,?_⟩
    · rw [editedItem, hedit.createdByUserID]; exact hitem.creator
    · rw [editedItem, hedit.assignedToUserID]; exact hitem.assignee
  | changeStatus =>
    obtain ⟨-,now,rfl⟩ := h
    exact ⟨hitem.creator,hitem.assignee⟩
  | assignWorkItem =>
    obtain ⟨-,hassignee,now,rfl⟩ := h
    refine ⟨hitem.creator,?_⟩
    rintro _ ⟨⟩
    exact ⟨not_blank_trimSpace hassignee,trimSpace_trimSpace _⟩
  | respondToAssignment _ _ _ accept =>
    obtain ⟨-,now,rfl⟩ := h
    refine ⟨hitem.creator,?_⟩
    intro user huser
    cases accept
    · cases huser
    · exact hitem.assignee user huser
  | _ => exact h.elim

section Sound
variable {ι : Type} [DecidableEq ι] {calls : ι → Context × Call} {p q : Calls ι}
  {l : ι × Event Op.Res}

/-- A call under way does on the stores only what it may, and stays limited. -/
theorem Limited.step (h : Limited calls p) (hstep : Pool.Step Answers p l q) :
    (calls l.1).2.May (p.seen l.1) l.2.op ∧ Limited calls q := hstep.ensures h trivial

/-- Sound stores, and nothing unsound still in the hands of a call. -/
structure SoundPool (calls : ι → Context × Call) (p : Calls ι) : Prop where
  limited : Limited calls p
  sound : p.state.Sound
  items : ∀ i, ∀ item ∈ itemsRead (p.seen i), item.Named
  offers : ∀ i, ∀ row ∈ offersRead (p.seen i), ¬ Blank row.assignedByUserID

lemma forall_read_of_step {α : Type} (read : Event Op.Res → Option α) {P : α → Prop}
    (hstep : Pool.Step Answers p l q) (h : ∀ i, ∀ a ∈ (p.seen i).filterMap read, P a)
    (hnew : ∀ a, read l.2 = some a → P a) (i : ι) : ∀ a ∈ (q.seen i).filterMap read, P a := by
  intro a ha
  rw [hstep.seen, Function.update_apply] at ha
  split_ifs at ha with hi
  · rw [List.filterMap_append, List.mem_append] at ha
    rcases ha with ha | ha
    · exact h l.1 a ha
    · exact hnew a (by simpa using ha)
  · exact h i a ha

/-- The step lemma of soundness under concurrency. -/
theorem SoundPool.step (h : SoundPool calls p) (hstep : Pool.Step Answers p l q) :
    SoundPool calls q := by
  obtain ⟨hmay,hlimited⟩ := h.limited.step hstep
  have hanswer := hstep.answered
  refine ⟨hlimited,⟨?_,?_⟩,?_,?_⟩
  · intro id item hitem
    rw [hanswer.items] at hitem
    obtain ⟨i,op,r⟩ := l
    cases op with
    | storeCreate ctx row =>
      obtain ⟨createdByUserID,input,now,-,hcreator,rfl⟩ := hmay
      simp only [Op.onItems, MemoryStore.create_byID] at hitem
      split_ifs at hitem
      · cases hitem
        exact ⟨hcreator,by rintro _ ⟨⟩⟩
      · exact h.sound.items _ _ hitem
    | storeUpdate ctx row =>
      obtain ⟨old,hold,hrewrites⟩ := hmay
      rcases p.state.items.eq_or_of_update row hitem with rfl | hitem
      · exact hrewrites.named (h.items i old hold.mem)
      · exact h.sound.items _ _ hitem
    | _ => exact h.sound.items _ _ hitem
  · intro id row hrow
    rw [hanswer.assignments] at hrow
    obtain ⟨i,op,r⟩ := l
    cases op with
    | assignmentCreate ctx new =>
      rcases p.state.assignments.eq_or_of_put _ _ hrow with rfl | hrow
      · exact hmay
      · exact h.sound.assignments _ _ hrow
    | assignmentUpdate ctx new =>
      obtain ⟨old,hold,accept,note,now,rfl⟩ := hmay
      simp only [Op.onAssignments, MemoryAssignmentStore.update] at hrow
      split_ifs at hrow
      · rcases p.state.assignments.eq_or_of_put _ _ hrow with rfl | hrow
        · exact h.offers i old hold
        · exact h.sound.assignments _ _ hrow
      · exact h.sound.assignments _ _ hrow
    | _ => exact h.sound.assignments _ _ hrow
  · apply forall_read_of_step Workitems.itemRead hstep h.items
    intro item hitem
    obtain ⟨id,hid⟩ := hanswer.itemRead hitem
    exact h.sound.items id item hid
  · apply forall_read_of_step Workitems.offerRead hstep h.offers
    intro row hrow
    obtain ⟨id,hid⟩ := hanswer.offerRead hrow
    exact h.sound.assignments id row hid

end Sound

/-- A state some interleaving of calls reaches from empty stores. -/
def Reachable (hasNotifier hasTeamAuthority : Bool) (st : State) : Prop :=
  ∃ (calls : ℕ → Context × Call) (ls : List (ℕ × Event Op.Res)) (p : Calls ℕ),
    Trace (Pool.Step Answers) (begin (.inMemory hasNotifier hasTeamAuthority) calls .empty) ls p ∧
    p.state = st

theorem Reachable.sound {hasNotifier hasTeamAuthority : Bool} {st : State}
    (h : Reachable hasNotifier hasTeamAuthority st) : st.Sound := by
  obtain ⟨calls,ls,p,hrun,rfl⟩ := h
  have hstart : SoundPool calls (begin (.inMemory hasNotifier hasTeamAuthority) calls .empty) :=
    ⟨begin_limited rfl _,State.empty_sound,fun _ _ => List.not_mem_nil.elim,
      fun _ _ => List.not_mem_nil.elim⟩
  exact (hrun.inv (I := fun _ p => SoundPool calls p) hstart
    fun _ _ _ _ hp hstep => hp.step hstep).sound

end OpsPlatform.Workitems
