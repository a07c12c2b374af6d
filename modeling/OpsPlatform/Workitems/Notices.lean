import OpsPlatform.Workitems.Sequential

/-! The notifications a run of calls raises, against the two histories it writes. A call raises at
most one notification; which one is a function of the call and the rows it finds. -/
namespace OpsPlatform.Workitems
open OpsPlatform.Go Interaction Program

/-- The users a call names. -/
def Call.userIDs : Call → List String
  | .create createdByUserID _ => [createdByUserID]
  | .assignWorkItem _ assignedByUserID _ _ input => [assignedByUserID,input.assignedToUserID]
  | .update _ userID _ _ _ | .changeStatus _ userID _ _ _ _ | .respondToAssignment _ userID _ _ _
  | .list userID _ _ _ | .getByID _ userID _ _ _ | .listStatusHistory _ userID _ _
  | .listAssignmentHistory _ userID _ _ | .getAssignment _ userID _ _ => [userID]

/-- The stored users who may be notified later have no surrounding white space. -/
structure State.Trimmed (st : State) : Prop where
  creator : ∀ id item, st.items.byID id = some item →
    trimSpace item.createdByUserID = item.createdByUserID
  assigner : ∀ id row, st.assignments.byWorkItem id = some row →
    trimSpace row.assignedByUserID = row.assignedByUserID

theorem State.empty_trimmed : State.empty.Trimmed := by
  constructor <;> intro _ _ <;> simp [State.empty, MemoryStore.new, MemoryAssignmentStore.new]

/-- Recipient, work item and kind. -/
abbrev Notice := String × String × String

def noticeOf (n : Notifications.Notification) : Notice := (n.recipientUserID,n.workItemID,n.kind)

/-- The notifications of a call that succeeds. -/
def Call.raises (st : State) : Call → List Notice
  | .changeStatus id _ _ _ _ input =>
    match st.items.byID id with
    | none => []
    | some item => (notificationForStatusChange { item with status := input.toStatus }).toList.map
        fun notice => (notice.1,id,notice.2.1)
  | .assignWorkItem id _ _ _ input =>
    [(trimSpace input.assignedToUserID,id,"assignment_created")]
  | .respondToAssignment id _ _ accept _ =>
    if accept then (st.assignments.byWorkItem id).toList.map
      fun row => (row.assignedByUserID,id,"assignment_accepted")
    else []
  | _ => []

lemma trimSpace_workItemID (n : ℕ) : trimSpace (workItemID n) = workItemID n :=
  trimSpace_sprintf04d (by decide) n

section
variable {s : Service} {r : Request} {st st' : State} {c : Call} {reply : Reply}

lemma rows_notified {recipientUserID workItemID kind message : String}
    {store : Notifications.MemoryStore} (hnotifier : s.hasNotifier = true)
    (hsent : (s.notified r.env r.ctx recipientUserID workItemID kind message store).1 = .ok ()) :
    (s.notified r.env r.ctx recipientUserID workItemID kind message store).2.rows.map noticeOf =
      store.rows.map noticeOf ++ [(trimSpace recipientUserID,trimSpace workItemID,kind)] := by
  unfold Service.notified at hsent ⊢
  rw [if_pos hnotifier] at hsent ⊢
  change (Notifications.notifyMemory _ _ _ _ _ _ _).1 = _ at hsent
  change (Notifications.notifyMemory _ _ _ _ _ _ _).2.rows.map _ = _
  rw [Notifications.notifyMemory_eq] at hsent ⊢
  split_ifs at hsent ⊢
  rw [Notifications.MemoryStore.rows_create, List.map_append]
  rfl

lemma notificationForStatusChange_trimmed {item : WorkItem} (hnamed : item.Named)
    (hcreator : trimSpace item.createdByUserID = item.createdByUserID)
    {recipientUserID kind message : String}
    (h : notificationForStatusChange item = some (recipientUserID,kind,message)) :
    trimSpace recipientUserID = recipientUserID := by
  obtain ⟨rfl | hassignee,-⟩ := notificationForStatusChange_ok h
  · exact hcreator
  · exact (hnamed.assignee _ hassignee).2

variable (hnotifier : s.hasNotifier = true) (hsound : st.Sound) (htrim : st.Trimmed)
include hnotifier hsound htrim

theorem Effect.raises (h : Effect s r.env r.ctx st c (.ok reply) st') :
    st'.notifications.rows.map noticeOf = st.notifications.rows.map noticeOf ++ c.raises st := by
  generalize hout : Except.ok reply = out at h
  cases h with
  | create => simp [Call.raises]
  | update => simp [Call.raises]
  | @changeStatus id actor _ _ _ input item idGiven actorGiven found reasonGiven allowed =>
    obtain ⟨n,-,-,rfl⟩ := st.items.exists_number found
    have hnamed : (movedItem item input.toStatus r.env.now).Named :=
      ⟨(hsound.items _ _ found).creator,(hsound.items _ _ found).assignee⟩
    have hsame : notificationForStatusChange { item with status := input.toStatus } =
        notificationForStatusChange (movedItem item input.toStatus r.env.now) := rfl
    simp only [Call.raises, found, hsame]
    unfold Service.statusNotice at hout ⊢
    cases hnotice : notificationForStatusChange (movedItem item input.toStatus r.env.now) with
    | none => simp
    | some notice =>
      obtain ⟨recipientUserID,kind,message⟩ := notice
      have hcreator := htrim.creator _ _ found
      have htrimmed := notificationForStatusChange_trimmed hnamed hcreator hnotice
      simp only [hnotice] at hout ⊢
      cases hsent : (s.notified r.env r.ctx recipientUserID (workItemID n) kind message
        st.notifications).1 with
      | error e => rw [hsent] at hout; cases hout
      | ok => simp [rows_notified hnotifier hsent, htrimmed, trimSpace_workItemID]
  | @assignWorkItem id _ _ _ input item idGiven assignerGiven assigneeGiven found =>
    obtain ⟨n,-,-,rfl⟩ := st.items.exists_number found
    simp only [Call.raises]
    unfold Service.assignNotice at hout ⊢
    cases hsent : (s.notified r.env r.ctx (trimSpace input.assignedToUserID) (workItemID n)
      "assignment_created" (item.referenceCode ++ " was assigned to you") st.notifications).1 with
    | error e => rw [hsent] at hout; cases hout
    | ok => simp [rows_notified hnotifier hsent, trimSpace_workItemID]
  | @respondToAssignment id user accept input item assignment idGiven userGiven found offered =>
    obtain ⟨n,-,-,rfl⟩ := st.items.exists_number found
    simp only [Call.raises, offered]
    unfold Service.responseNotice at hout ⊢
    cases accept with
    | false => simp
    | true =>
      simp only [if_true] at hout ⊢
      cases hsent : (s.notified r.env r.ctx assignment.assignedByUserID (workItemID n)
        "assignment_accepted" (item.referenceCode ++ " was accepted by the assignee")
        st.notifications).1 with
      | error e => rw [hsent] at hout; cases hout
      | ok => simp [rows_notified hnotifier hsent, htrim.assigner _ _ offered, trimSpace_workItemID]

omit hnotifier hsound in
/-- The step lemma: a call stores only users it names or that were stored. -/
theorem Effect.trimmed {env : Env} {ctx : Context} {out : Except Error Reply}
    (hcall : ∀ user ∈ c.userIDs, trimSpace user = user) (h : Effect s env ctx st c out st') :
    st'.Trimmed := by
  cases h with
  | create =>
    refine ⟨?_,htrim.assigner⟩
    intro id item h
    simp only [MemoryStore.create_byID] at h
    split_ifs at h
    · cases h; exact hcall _ (by simp [Call.userIDs, newItem])
    · exact htrim.creator _ _ h
  | update found allowed applied =>
    have hedit := UpdateInput.apply_editOf applied
    refine ⟨forall_update htrim.creator found hedit.id ?_,htrim.assigner⟩
    intro hcreator
    rwa [editedItem, hedit.createdByUserID]
  | changeStatus _ _ found =>
    exact ⟨forall_update htrim.creator found rfl fun hcreator => hcreator,htrim.assigner⟩
  | assignWorkItem _ _ _ found =>
    refine ⟨forall_update htrim.creator found rfl fun hcreator => hcreator,?_⟩
    intro id row h
    rw [create_byWorkItem] at h
    split_ifs at h
    · cases h; exact hcall _ (by simp [Call.userIDs, newAssignment])
    · exact htrim.assigner _ _ h
  | @respondToAssignment _ _ accept input _ old _ _ found offered =>
    have hid : (respondedAssignment old accept input.note env.now).workItemID =
        old.workItemID := rfl
    refine ⟨forall_update htrim.creator found rfl fun hcreator => hcreator,?_⟩
    intro id row h
    rw [update_byWorkItem offered hid] at h
    split_ifs at h
    · cases h; exact htrim.assigner _ old offered
    · exact htrim.assigner _ _ h

end

/-- An entry of one of the two histories, with the row it is about, as the call left it. -/
inductive Logged
  | assignment (entry : AssignmentHistory) (row : Assignment)
  | status (entry : StatusHistory) (item : WorkItem)

namespace Logged

def assignmentEntry : Logged → Option AssignmentHistory
  | assignment entry _ => some entry
  | status _ _ => none

def statusEntry : Logged → Option StatusHistory
  | assignment _ _ => none
  | status entry _ => some entry

/-- The recipient and the kind of the notification an entry stands for. -/
def notice (creator : String) : Logged → Option (String × String)
  | assignment entry row =>
    match entry.action with
    | .assigned => some (entry.assignedToUserID,"assignment_created")
    | .accepted => some (row.assignedByUserID,"assignment_accepted")
    | .declined => none
  | status entry item =>
    match entry.toStatus with
    | .submittedForReview => some (creator,"evidence_submitted")
    | .flagged => item.assignedToUserID.map fun assignee => (assignee,"work_flagged")
    | .verified => item.assignedToUserID.map fun assignee => (assignee,"work_verified")
    | .completed => item.assignedToUserID.map fun assignee => (assignee,"work_completed")
    | _ => none

end Logged

/-- What a call added to the histories of a work item. -/
def logged (workItemID : String) (st st' : State) : List Logged :=
  ((st'.assignmentHistory.ofWorkItem workItemID).drop
      (st.assignmentHistory.ofWorkItem workItemID).length).filterMap (fun entry =>
    (st'.assignments.byWorkItem workItemID).map (.assignment entry)) ++
  ((st'.history.ofWorkItem workItemID).drop
      (st.history.ofWorkItem workItemID).length).filterMap fun entry =>
    (st'.items.byID workItemID).map (.status entry)

/-- The entries for a work item that these requests added one after another. -/
def logOf (s : Service) (workItemID : String) (st : State) : List Request → List Logged
  | [] => []
  | r :: rs => logged workItemID st (serve s r st).2 ++ logOf s workItemID (serve s r st).2 rs

section
variable {s : Service} {env : Env} {ctx : Context} {st st' : State} {c : Call}
  {out : Except Error Reply} {W : String}

lemma logged_of_append {entries : List AssignmentHistory} {entries' : List StatusHistory}
    (hassignments : st'.assignmentHistory.ofWorkItem W = st.assignmentHistory.ofWorkItem W ++ entries)
    (hstatuses : st'.history.ofWorkItem W = st.history.ofWorkItem W ++ entries') :
    logged W st st' =
      entries.filterMap (fun entry => (st'.assignments.byWorkItem W).map (.assignment entry)) ++
      entries'.filterMap fun entry => (st'.items.byID W).map (.status entry) := by
  rw [logged, hassignments, hstatuses, List.drop_left, List.drop_left]

lemma filterMap_one {α β : Type} (f : α → Option β) (a : α) :
    [a].filterMap f = (f a).toList := by
  cases h : f a <;> simp [h]

lemma raises_changeStatus {id : String} {item : WorkItem} (found : st.items.byID id = some item)
    (actor : String) (admin supervisor requester : Bool) (input : ChangeStatusInput) :
    Call.raises st (.changeStatus id actor admin supervisor requester input) =
      (notificationForStatusChange { item with status := input.toStatus }).toList.map
        fun notice => (notice.1,id,notice.2.1) := by
  rw [Call.raises, found]

/-- The entry of a status change stands for the notification the service sends. -/
lemma notice_status {entry : StatusHistory} (toStatus : Status) (hto : entry.toStatus = toStatus)
    (item : WorkItem) (now : Time) :
    Logged.notice item.createdByUserID (.status entry (movedItem item toStatus now)) =
      (notificationForStatusChange { item with status := toStatus }).map
        fun notice => (notice.1,notice.2.1) := by
  subst hto
  obtain ⟨_,_,_,toStatus,_,_,_⟩ := entry
  cases toStatus <;>
    simp [Logged.notice, notificationForStatusChange, movedItem, Function.comp_def]

/-- The notices about one work item, without its id. -/
def noticesOf (workItemID : String) (notices : List Notice) : List (String × String) :=
  (notices.filter fun notice => decide (notice.2.1 = workItemID)).map
    fun notice => (notice.1,notice.2.2)

lemma noticesOf_append (W : String) (notices raised : List Notice) :
    noticesOf W (notices ++ raised) = noticesOf W notices ++ noticesOf W raised := by
  simp [noticesOf]

/-- What one step adds to both histories and to the notifications of a work item agrees. -/
structure Agree (W creator : String) (st st' : State) (raised : List Notice) : Prop where
  assignments : st'.assignmentHistory.ofWorkItem W = st.assignmentHistory.ofWorkItem W ++
    (logged W st st').filterMap Logged.assignmentEntry
  statuses : st'.history.ofWorkItem W = st.history.ofWorkItem W ++
    (logged W st st').filterMap Logged.statusEntry
  notices : (logged W st st').filterMap (Logged.notice creator) = noticesOf W raised

/-- A step that is about another work item adds nothing. -/
lemma Agree.other {creator : String} {raised : List Notice}
    (hassignments : st'.assignmentHistory.ofWorkItem W = st.assignmentHistory.ofWorkItem W)
    (hstatuses : st'.history.ofWorkItem W = st.history.ofWorkItem W)
    (hraised : ∀ notice ∈ raised, notice.2.1 ≠ W) : Agree W creator st st' raised := by
  have hnone : logged W st st' = [] := by simp [logged, hassignments, hstatuses]
  have hother : noticesOf W raised = [] := by
    simpa [noticesOf, List.filter_eq_nil_iff] using hraised
  constructor <;> simp [hnone, hassignments, hstatuses, hother]

lemma Agree.of_new {creator : String} {raised : List Notice} (new : List Logged)
    (hassignments : st'.assignmentHistory.ofWorkItem W = st.assignmentHistory.ofWorkItem W ++
      new.filterMap Logged.assignmentEntry)
    (hstatuses : st'.history.ofWorkItem W = st.history.ofWorkItem W ++
      new.filterMap Logged.statusEntry)
    (hnew : (new.filterMap Logged.assignmentEntry).filterMap
        (fun entry => (st'.assignments.byWorkItem W).map (Logged.assignment entry)) ++
      (new.filterMap Logged.statusEntry).filterMap
        (fun entry => (st'.items.byID W).map (Logged.status entry)) = new)
    (hnotices : new.filterMap (Logged.notice creator) = noticesOf W raised) :
    Agree W creator st st' raised := by
  have hlogged : logged W st st' = new := (logged_of_append hassignments hstatuses).trans hnew
  constructor <;> rwa [hlogged]

/-- A step that adds one entry to each history. -/
lemma Agree.of_both {creator : String} {raised : List Notice} {entry : AssignmentHistory}
    {entry' : StatusHistory} {row : Assignment} {item : WorkItem}
    (hassignments : st'.assignmentHistory.ofWorkItem W =
      st.assignmentHistory.ofWorkItem W ++ [entry])
    (hstatuses : st'.history.ofWorkItem W = st.history.ofWorkItem W ++ [entry'])
    (hrow : st'.assignments.byWorkItem W = some row) (hitem : st'.items.byID W = some item)
    (hnotices : [Logged.assignment entry row,.status entry' item].filterMap
      (Logged.notice creator) = noticesOf W raised) :
    Agree W creator st st' raised := by
  apply Agree.of_new _ hassignments hstatuses _ hnotices
  simp [List.filterMap_cons, Logged.assignmentEntry, Logged.statusEntry, hrow, hitem]

/-- The notifications of a call are about the item the call is about. -/
lemma Call.raises_other (hother : c.target ≠ some W) : ∀ notice ∈ c.raises st, notice.2.1 ≠ W := by
  have hne : ∀ id, c.target = some id → id ≠ W := fun id hid heq => hother (heq ▸ hid)
  intro notice hnotice
  cases c with
  | changeStatus id =>
    simp only [Call.raises] at hnotice
    split at hnotice
    · cases hnotice
    · obtain ⟨_,_,rfl⟩ := List.mem_map.mp hnotice
      exact hne id rfl
  | assignWorkItem id =>
    obtain rfl := List.mem_singleton.mp hnotice
    exact hne id rfl
  | respondToAssignment id =>
    simp only [Call.raises] at hnotice
    split_ifs at hnotice
    · obtain ⟨_,_,rfl⟩ := List.mem_map.mp hnotice
      exact hne id rfl
    · cases hnotice
  | _ => cases hnotice

lemma Effect.agree_other (h : Effect s env ctx st c out st') {creator : String}
    (hother : c.target ≠ some W) : Agree W creator st st' (c.raises st) := by
  cases htarget : c.target with
  | some id =>
    have hW : W ≠ id := fun hid => hother (hid ▸ htarget)
    obtain ⟨-,htrail,-,hevents⟩ := h.sameOn htarget hW
    exact Agree.other hevents htrail (Call.raises_other hother)
  | none =>
    cases h with
    | create => exact Agree.other rfl rfl (Call.raises_other hother)
    | _ => cases htarget

theorem Effect.agree (h : Effect s env ctx st c out st') {creator : String}
    (hcreator : ∀ item, st'.items.byID W = some item → item.createdByUserID = creator) :
    Agree W creator st st' (c.raises st) := by
  by_cases hother : c.target ≠ some W
  · exact h.agree_other hother
  rw [not_not] at hother
  cases h with
  | create => cases hother
  | update => exact Agree.other rfl rfl (by simp [Call.raises])
  | @changeStatus _ actor _ _ _ input item idGiven actorGiven found reasonGiven allowed =>
    cases hother
    rw [raises_changeStatus found]
    have hid : (movedItem item input.toStatus env.now).id = item.id := rfl
    have hitem := (update_byID found hid W).trans (if_pos rfl)
    have hsame := hcreator _ hitem
    obtain rfl : item.createdByUserID = creator := hsame
    refine Agree.of_new [.status _ (movedItem item input.toStatus env.now)]
      (List.append_nil _).symm ((history_create _ _ _).trans (if_pos rfl)) ?_ ?_
    · simp [Logged.assignmentEntry, Logged.statusEntry, hitem]
    · refine (filterMap_one _ _).trans ((congrArg Option.toList
        (notice_status input.toStatus rfl item env.now)).trans ?_)
      cases notificationForStatusChange { item with status := input.toStatus } <;>
        simp [noticesOf]
  | @assignWorkItem _ assigner _ _ input item idGiven assignerGiven assigneeGiven found =>
    cases hother
    have hid : (assignedItem item (trimSpace input.assignedToUserID) env.now).id = item.id := rfl
    have hitem := (update_byID found hid W).trans (if_pos rfl)
    let assignment := newAssignment W assigner (trimSpace input.assignedToUserID) env.now
    have hrow : (st.assignments.create assignment).2.byWorkItem W = some _ :=
      (create_byWorkItem assignment W).trans (if_pos rfl)
    apply Agree.of_both ((assignmentHistory_create _ _ _).trans (if_pos rfl))
      ((history_create _ _ _).trans (if_pos rfl)) hrow hitem
    simp [Logged.notice, noticesOf, Call.raises, assignmentEvent, statusEntry]
  | @respondToAssignment _ user accept input item assignment idGiven userGiven found offered =>
    cases hother
    have hid : (respondedItem item accept env.now).id = item.id := rfl
    have hitem := (update_byID found hid W).trans (if_pos rfl)
    have hid' : (respondedAssignment assignment accept input.note env.now).workItemID =
      assignment.workItemID := rfl
    have hrow := (update_byWorkItem offered hid' W).trans (if_pos rfl)
    apply Agree.of_both ((assignmentHistory_create _ _ _).trans (if_pos rfl))
      ((history_create _ _ _).trans (if_pos rfl)) hrow hitem
    cases accept <;> simp [Logged.notice, noticesOf, Call.raises, assignmentEvent, statusEntry,
      respondedAction, respondedStatus, respondedAssignment, offered]

end
section Runs
variable {s : Service} {r : Request} {st : State} {W : String}

lemma numbered_notified (ctx : Context) (recipientUserID workItemID kind message : String)
    {store : Notifications.MemoryStore} (h : store.Numbered) :
    (s.notified r.env ctx recipientUserID workItemID kind message store).2.Numbered := by
  unfold Service.notified
  split_ifs
  · change (Notifications.notifyMemory _ _ _ _ _ _ _).2.Numbered
    rw [Notifications.notifyMemory_eq]
    split_ifs
    · exact h
    · exact h.create _
  · exact h

lemma Effect.numbered {ctx : Context} {c : Call} {out : Except Error Reply} {st' : State}
    (h : Effect s r.env ctx st c out st') (hnumbered : st.notifications.Numbered) :
    st'.notifications.Numbered := by
  cases h with
  | create => exact hnumbered
  | update => exact hnumbered
  | changeStatus =>
    simp only [Service.statusNotice]
    split
    · exact hnumbered
    · exact numbered_notified _ _ _ _ _ hnumbered
  | assignWorkItem => exact numbered_notified _ _ _ _ _ hnumbered
  | respondToAssignment =>
    simp only [Service.responseNotice]
    split_ifs
    · exact numbered_notified _ _ _ _ _ hnumbered
    · exact hnumbered

/-- What the notifications of a run rest on. -/
structure State.Notifies (st : State) : Prop where
  sound : st.Sound
  trimmed : st.Trimmed
  numbered : st.notifications.Numbered

theorem State.empty_notifies : State.empty.Notifies :=
  ⟨State.empty_sound,State.empty_trimmed,Notifications.MemoryStore.new_numbered⟩

variable (hnil : s.txRunner = none)
include hnil

lemma serve_creator (r : Request) {id : String} {item : WorkItem}
    (found : st.items.byID id = some item) : ∃ item', (serve s r st).2.items.byID id = some item' ∧
      item'.createdByUserID = item.createdByUserID := by
  obtain ⟨hsame,-⟩ | heffect := run_outcome (s := s) r.env r.ctx st hnil r.call
  · exact ⟨item,by rw [show (serve s r st).2 = st from hsame, found],rfl⟩
  · obtain ⟨row,hrow,hsame⟩ := heffect.origin found
    exact ⟨row,hrow,hsame.createdByUserID.symm⟩

lemma serveAll_creator {id : String} {item : WorkItem} (found : st.items.byID id = some item)
    (rs : List Request) : ∃ item', (serveAll (serve s) st rs).items.byID id = some item' ∧
      item'.createdByUserID = item.createdByUserID := by
  refine serveAll_inv (serve s) (I := fun st => ∃ item', st.items.byID id = some item' ∧
    item'.createdByUserID = item.createdByUserID) ?_ ⟨item,found,rfl⟩ rs
  rintro r st ⟨item',found',hsame⟩
  obtain ⟨item'',found'',hsame'⟩ := serve_creator hnil r found'
  exact ⟨item'',found'',hsame'.trans hsame⟩

/-- One request: it raises its notification if it succeeds, and nothing if it fails. -/
theorem serve_notices (hnotifier : s.hasNotifier = true) (h : st.Notifies) (r : Request)
    (hcall : ∀ user ∈ r.call.userIDs, trimSpace user = user) :
    (serve s r st).2.Notifies ∧ ∃ raised,
      (serve s r st).2.notifications.rows.map noticeOf =
        st.notifications.rows.map noticeOf ++ raised ∧
      (raised = [] ∨ raised = r.call.raises st) ∧
      ∀ W creator, (∀ item, (serve s r st).2.items.byID W = some item →
        item.createdByUserID = creator) → Agree W creator st (serve s r st).2 raised := by
  obtain ⟨hsame,-⟩ | ⟨reply,hreply,heffect⟩ := serve_cases hnil h.sound r
  · rw [hsame]
    refine ⟨h,[],(List.append_nil _).symm,.inl rfl,fun W creator _ => ?_⟩
    exact Agree.other rfl rfl fun _ hnotice => by cases hnotice
  · refine ⟨⟨heffect.sound h.sound,heffect.trimmed h.trimmed hcall,heffect.numbered h.numbered⟩,
      r.call.raises st,heffect.raises hnotifier h.sound h.trimmed,.inr rfl,?_⟩
    exact fun W creator hcreator => heffect.agree hcreator

theorem serveAll_notices (hnotifier : s.hasNotifier = true) (rs : List Request)
    (hcalls : ∀ r ∈ rs, ∀ user ∈ r.call.userIDs, trimSpace user = user) (h : st.Notifies)
    {item : WorkItem} (found : (serveAll (serve s) st rs).items.byID W = some item) :
    (serveAll (serve s) st rs).Notifies ∧
    (serveAll (serve s) st rs).assignmentHistory.ofWorkItem W =
      st.assignmentHistory.ofWorkItem W ++ (logOf s W st rs).filterMap Logged.assignmentEntry ∧
    (serveAll (serve s) st rs).history.ofWorkItem W =
      st.history.ofWorkItem W ++ (logOf s W st rs).filterMap Logged.statusEntry ∧
    noticesOf W ((serveAll (serve s) st rs).notifications.rows.map noticeOf) =
      noticesOf W (st.notifications.rows.map noticeOf) ++
        (logOf s W st rs).filterMap (Logged.notice item.createdByUserID) := by
  induction rs generalizing st with
  | nil => simp [serveAll, logOf, h]
  | cons r rs ih =>
    obtain ⟨hnext,raised,hrows,-,hagree⟩ := serve_notices hnil hnotifier h r
      (hcalls r List.mem_cons_self)
    have hcreator : ∀ item', (serve s r st).2.items.byID W = some item' →
        item'.createdByUserID = item.createdByUserID := by
      intro item' found'
      obtain ⟨last,hlast,hsame⟩ := serveAll_creator hnil found' rs
      obtain rfl : last = item := Option.some.inj (hlast.symm.trans found)
      exact hsame.symm
    have hstep := hagree W item.createdByUserID hcreator
    obtain ⟨hlast,hassignments,hstatuses,hnotices⟩ := ih
      (fun r' hr' => hcalls r' (List.mem_cons_of_mem _ hr')) hnext found
    refine ⟨hlast,?_,?_,?_⟩
    · rw [serveAll, hassignments, hstep.assignments, logOf, List.filterMap_append,
        List.append_assoc]
    · rw [serveAll, hstatuses, hstep.statuses, logOf, List.filterMap_append, List.append_assoc]
    · rw [serveAll, hnotices, hrows, noticesOf_append, logOf, List.filterMap_append, hstep.notices,
        List.append_assoc]

end Runs

/-- The notifications stored for a work item are those its two histories stand for: `logOf` goes
through both, entry by entry, each with the row it is about at that moment. -/
theorem notifications_match_histories (hasTeamAuthority : Bool) (rs : List Request)
    (hcalls : ∀ r ∈ rs, ∀ user ∈ r.call.userIDs, trimSpace user = user) (W : String)
    (item : WorkItem) (found : (finalState true hasTeamAuthority rs).items.byID W = some item)
    (stored : List Notifications.Notification)
    (hstored : (finalState true hasTeamAuthority rs).notifications.Visits stored) :
    let log := logOf (.inMemory true hasTeamAuthority) W .empty rs
    log.filterMap Logged.assignmentEntry =
      (finalState true hasTeamAuthority rs).assignmentHistory.ofWorkItem W ∧
    log.filterMap Logged.statusEntry =
      (finalState true hasTeamAuthority rs).history.ofWorkItem W ∧
    ((stored.filter fun n => decide (n.workItemID = W)).map
      fun n => (n.recipientUserID,n.kind)).Perm
        (log.filterMap (Logged.notice item.createdByUserID)) := by
  intro log
  obtain ⟨hlast,hassignments,hstatuses,hnotices⟩ := serveAll_notices
    (s := .inMemory true hasTeamAuthority) rfl rfl rs hcalls State.empty_notifies found
  refine ⟨hassignments.symm,hstatuses.symm,?_⟩
  have hrows := ((hstored.perm hlast.numbered.visits).filter fun n =>
    decide (n.workItemID = W)).map fun n => (n.recipientUserID,n.kind)
  refine hrows.trans (List.Perm.of_eq (Eq.trans ?_ hnotices))
  rw [noticesOf, List.filter_map, List.map_map]
  rfl

/-- The creator hears of the submission, the assigner of the acceptance, the worker of the rest. -/
theorem notifications_match_histories_reworked :
    let request (call : Call) : Request := ⟨background,7,7,fun _ _ => .ok false,fun _ => .ok [],call⟩
    let rs := [request (.create "admin-1" ⟨"Repair pump","Pump 4 leaks",.high,none,none⟩),
      request (.assignWorkItem "workitem-0001" "admin-2" true false ⟨"worker-1"⟩),
      request (.respondToAssignment "workitem-0001" "worker-1" false true ⟨none⟩),
      request (.changeStatus "workitem-0001" "worker-1" false false false ⟨.inProgress,none⟩),
      request (.changeStatus "workitem-0001" "worker-1" false false false
        ⟨.submittedForReview,none⟩),
      request (.changeStatus "workitem-0001" "admin-1" true false false
        ⟨.flagged,some "Still leaks"⟩)]
    (((finalState true false rs).notifications.rows.filter
      fun n => decide (n.workItemID = "workitem-0001")).map
        fun n => (n.recipientUserID,n.kind)).Perm
      [("worker-1","work_flagged"),("admin-1","evidence_submitted"),
        ("admin-2","assignment_accepted"),("worker-1","assignment_created")] := by
  intro request rs
  have hstored : ((finalState true false rs).items.byID "workitem-0001").map
      (·.createdByUserID) = some "admin-1" := by decide +kernel
  obtain ⟨item,found,hcreator⟩ := Option.map_eq_some_iff.mp hstored
  have hnumbered : (finalState true false rs).notifications.Numbered :=
    (serveAll_notices (s := .inMemory true false) rfl rfl rs (by decide +kernel)
      State.empty_notifies found).1.numbered
  obtain ⟨-,-,hsent⟩ := notifications_match_histories false rs (by decide +kernel)
    "workitem-0001" item found _ hnumbered.visits
  refine hsent.trans ?_
  rw [hcreator]
  decide +kernel

end OpsPlatform.Workitems
