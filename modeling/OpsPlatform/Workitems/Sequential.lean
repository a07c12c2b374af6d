import OpsPlatform.Interaction.Trace
import OpsPlatform.Workitems.Outcome

/-! Calls served one after another in the in-memory wiring, whose notifier is the notification
service. No rollback is possible there, so an error after the first write would show. -/
namespace OpsPlatform.Workitems
open OpsPlatform.Go Interaction Program

/-- One service call, with the clock readings and the team authority's answers of its moment. -/
structure Request where
  ctx : Context
  now : Time
  notifiedAt : Time
  isActiveSupervisorOf : String → String → Except Error Bool
  supervisedAssigneeUserIDs : String → Except Error (List String)
  call : Call

def Request.env (r : Request) : Env :=
  ⟨r.now,r.isActiveSupervisorOf,r.supervisedAssigneeUserIDs,
    Notifications.notifyMemory r.notifiedAt⟩

def serve (s : Service) (r : Request) (st : State) : Except Error Reply × State :=
  (r.call.program s r.ctx).run (exec r.env) st

/-- The stores after these requests, served in this order. -/
def finalState (hasNotifier hasTeamAuthority : Bool) (rs : List Request) : State :=
  serveAll (serve (.inMemory hasNotifier hasTeamAuthority)) .empty rs

/-- The users named by a work item can be notified; the assignee is stored trimmed. -/
structure WorkItem.Named (item : WorkItem) : Prop where
  creator : ¬ Blank item.createdByUserID
  assignee : ∀ user, item.assignedToUserID = some user → ¬ Blank user ∧ trimSpace user = user

/-- The users named by stored rows: each of them may have to be notified later. -/
structure State.Sound (st : State) : Prop where
  items : ∀ id item, st.items.byID id = some item → item.Named
  assignments : ∀ id assignment, st.assignments.byWorkItem id = some assignment →
    ¬ Blank assignment.assignedByUserID

theorem State.empty_sound : State.empty.Sound := by
  constructor <;> intro _ _ <;> simp [State.empty, MemoryStore.new, MemoryAssignmentStore.new]

lemma not_blank_append {a b : String} {c : Char} (hc : c ∈ b.toList) (hs : isSpace c = false) :
    ¬ Blank (a ++ b) := by
  apply not_blank_of_mem (c := c) _ hs
  simp [hc]

section Update
variable {st : State} {id : String} {item : WorkItem}

lemma update_byID (found : st.items.byID id = some item) {row : WorkItem}
    (hid : row.id = item.id) (k : String) :
    (st.items.update row).2.byID k = if k = id then some row else st.items.byID k := by
  have hrow : row.id = id := hid.trans (st.items.keyed found)
  rw [st.items.update_eq row (by rw [hrow, found]; rfl), MemoryStore.put_byID, hrow]

lemma create_byWorkItem (row : Assignment) (k : String) :
    (st.assignments.create row).2.byWorkItem k = if k = row.workItemID then
      some { row with id := sprintf04d "assignment-" (st.assignments.seq+1) }
      else st.assignments.byWorkItem k := MemoryAssignmentStore.put_byWorkItem _ _ _ _

lemma update_byWorkItem {old : Assignment} (offered : st.assignments.byWorkItem id = some old)
    {row : Assignment} (hid : row.workItemID = old.workItemID) (k : String) :
    (st.assignments.update row).2.byWorkItem k =
      if k = id then some row else st.assignments.byWorkItem k := by
  have hrow : row.workItemID = id := hid.trans (st.assignments.keyed offered)
  rw [st.assignments.update_eq row (by rw [hrow, offered]; rfl),
    MemoryAssignmentStore.put_byWorkItem, hrow]

lemma history_create (s : MemoryStatusHistoryStore) (entry : StatusHistory) (k : String) :
    (s.create entry).2.ofWorkItem k = if entry.workItemID = k then
      s.ofWorkItem k ++ [{ entry with id := sprintf04d "statushistory-" (s.seq+1) }]
      else s.ofWorkItem k := by
  unfold MemoryStatusHistoryStore.create MemoryStatusHistoryStore.ofWorkItem
  split_ifs with h <;> simp [List.filter_append, h]

lemma assignmentHistory_create (s : MemoryAssignmentHistoryStore) (entry : AssignmentHistory)
    (k : String) :
    (s.create entry).2.ofWorkItem k = if entry.workItemID = k then
      s.ofWorkItem k ++ [{ entry with id := sprintf04d "assignmenthistory-" (s.seq+1) }]
      else s.ofWorkItem k := by
  unfold MemoryAssignmentHistoryStore.create MemoryAssignmentHistoryStore.ofWorkItem
  split_ifs with h <;> simp [List.filter_append, h]

/-- What holds of every stored item and of the new row holds of every item afterwards. -/
lemma forall_update {P : WorkItem → Prop} (h : ∀ k item, st.items.byID k = some item → P item)
    (found : st.items.byID id = some item) {row : WorkItem} (hid : row.id = item.id)
    (hrow : P item → P row) (k : String) (item' : WorkItem)
    (hitem : (st.items.update row).2.byID k = some item') : P item' := by
  rw [update_byID found hid] at hitem
  split_ifs at hitem
  · cases hitem; exact hrow (h _ _ found)
  · exact h _ _ hitem

end Update

section
variable {s : Service} {r : Request} {st st' : State}

lemma notified_ok {recipientUserID workItemID kind message : String}
    (hrecipient : ¬ Blank recipientUserID) (hitem : ¬ Blank workItemID) (hkind : kind ≠ "")
    (hmessage : ¬ Blank message) (store : Notifications.MemoryStore) :
    (s.notified r.env r.ctx recipientUserID workItemID kind message store).1 = .ok () := by
  unfold Service.notified
  split_ifs
  · exact Notifications.notifyMemory_ok _ _ _ hrecipient hitem hkind hmessage
  · rfl

lemma notificationForStatusChange_ok {item : WorkItem} {recipientUserID kind message : String}
    (h : notificationForStatusChange item = some (recipientUserID,kind,message)) :
    (recipientUserID = item.createdByUserID ∨ item.assignedToUserID = some recipientUserID) ∧
      kind ≠ "" ∧ ¬ Blank message := by
  have hassignee {what how : String} (hwhat : what ≠ "") (hhow : 'w' ∈ how.toList)
      (h : item.assignedToUserID.map (fun assignee => (assignee,what,item.referenceCode ++ how)) =
        some (recipientUserID,kind,message)) :
      (recipientUserID = item.createdByUserID ∨ item.assignedToUserID = some recipientUserID) ∧
        kind ≠ "" ∧ ¬ Blank message := by
    obtain ⟨user,huser,h⟩ := Option.map_eq_some_iff.mp h
    cases h
    exact ⟨.inr huser,hwhat,not_blank_append hhow rfl⟩
  unfold notificationForStatusChange at h
  split at h
  · cases h
    exact ⟨.inl rfl,by decide,not_blank_append (c := 'w') (by decide) rfl⟩
  · exact hassignee (by decide) (by decide) h
  · exact hassignee (by decide) (by decide) h
  · exact hassignee (by decide) (by decide) h
  · cases h

/-- Among soundly named users no notification fails, so a call that took effect succeeds. -/
theorem Effect.ok {c : Call} {out : Except Error Reply} (h : Effect s r.env r.ctx st c out st')
    (hsound : st.Sound) : ∃ reply, out = .ok reply := by
  cases h with
  | create => exact ⟨_,rfl⟩
  | update => exact ⟨_,rfl⟩
  | @changeStatus id actor _ _ _ input item idGiven actorGiven found reasonGiven allowed =>
    have hsent : (s.statusNotice r.env r.ctx id (movedItem item input.toStatus r.env.now)
        st.notifications).1 = .ok () := by
      unfold Service.statusNotice
      split
      · rfl
      · rename_i hnotice
        obtain ⟨hwho,hkind,hmessage⟩ := notificationForStatusChange_ok hnotice
        refine notified_ok ?_ idGiven hkind hmessage _
        rcases hwho with rfl | huser
        · exact (hsound.items _ _ found).creator
        · exact ((hsound.items _ _ found).assignee _ huser).1
    rw [hsent]; exact ⟨_,rfl⟩
  | @assignWorkItem id _ _ _ input item idGiven assignerGiven assigneeGiven found =>
    have hsent : (s.assignNotice r.env r.ctx id item (trimSpace input.assignedToUserID)
        st.notifications).1 = .ok () :=
      notified_ok (not_blank_trimSpace assigneeGiven) idGiven (by decide)
        (not_blank_append (c := 'w') (by decide) rfl) _
    rw [hsent]; exact ⟨_,rfl⟩
  | @respondToAssignment id user accept input item assignment idGiven userGiven found offered =>
    have hsent : (s.responseNotice r.env r.ctx id item assignment accept
        st.notifications).1 = .ok () := by
      unfold Service.responseNotice
      split_ifs
      · exact notified_ok (hsound.assignments _ _ offered) idGiven (by decide)
          (not_blank_append (c := 'w') (by decide) rfl) _
      · rfl
    rw [hsent]; exact ⟨_,rfl⟩

/-- The step lemma of soundness: every new name was checked before it was stored. -/
theorem Effect.sound {env : Env} {ctx : Context} {c : Call} {out : Except Error Reply}
    (h : Effect s env ctx st c out st') (hsound : st.Sound) : st'.Sound := by
  cases h with
  | create hcreator =>
    refine ⟨?_,hsound.assignments⟩
    intro id item h
    simp only [MemoryStore.create_byID] at h
    split_ifs at h
    · cases h; exact ⟨hcreator,by intro user huser; cases huser⟩
    · exact hsound.items _ _ h
  | update found allowed applied =>
    have hedit := UpdateInput.apply_editOf applied
    refine ⟨forall_update hsound.items found hedit.id ?_,hsound.assignments⟩
    rintro ⟨hcreator,hassignee⟩
    refine ⟨?_,?_⟩
    · rwa [editedItem, hedit.createdByUserID]
    · rwa [editedItem, hedit.assignedToUserID]
  | changeStatus idGiven actorGiven found =>
    exact ⟨forall_update hsound.items found rfl fun h => ⟨h.creator,h.assignee⟩,
      hsound.assignments⟩
  | assignWorkItem idGiven assignerGiven assigneeGiven found =>
    refine ⟨forall_update hsound.items found rfl ?_,?_⟩
    · intro h
      refine ⟨h.creator,?_⟩
      intro user huser
      cases huser
      exact ⟨not_blank_trimSpace assigneeGiven,trimSpace_trimSpace _⟩
    · intro id assignment h
      rw [create_byWorkItem] at h
      split_ifs at h
      · cases h; exact assignerGiven
      · exact hsound.assignments _ _ h
  | @respondToAssignment _ _ accept input _ old idGiven userGiven found offered =>
    have hid : (respondedAssignment old accept input.note env.now).workItemID =
        old.workItemID := rfl
    refine ⟨forall_update hsound.items found rfl ?_,?_⟩
    · intro h
      refine ⟨h.creator,?_⟩
      intro user huser
      cases accept
      · cases huser
      · exact h.assignee user huser
    · intro id assignment h
      rw [update_byWorkItem offered hid] at h
      split_ifs at h
      · cases h; exact hsound.assignments _ old offered
      · exact hsound.assignments _ _ h

/-- A call about an item puts a row of the same origin in the place of the item's. -/
lemma Effect.rewrites {env : Env} {ctx : Context} {c : Call} {out : Except Error Reply}
    {W : String} (h : Effect s env ctx st c out st') (htarget : c.target = some W) : ∃ item row, st.items.byID W = some item ∧
      st'.items = (st.items.update row).2 ∧ SameOrigin item row := by
  cases h with
  | create => cases htarget
  | update found allowed applied =>
    cases htarget
    have hedit := UpdateInput.apply_editOf applied
    exact ⟨_,_,found,rfl,hedit.id.symm,hedit.referenceCode.symm,hedit.createdByUserID.symm,
      hedit.createdAt.symm⟩
  | changeStatus idGiven actorGiven found =>
    cases htarget
    exact ⟨_,_,found,rfl,rfl,rfl,rfl,rfl⟩
  | assignWorkItem idGiven assignerGiven assigneeGiven found =>
    cases htarget
    exact ⟨_,_,found,rfl,rfl,rfl,rfl,rfl⟩
  | respondToAssignment idGiven userGiven found =>
    cases htarget
    exact ⟨_,_,found,rfl,rfl,rfl,rfl,rfl⟩

/-- The rows and the entries of one work item are as they were. -/
structure State.SameOn (k : String) (st st' : State) : Prop where
  row : st'.items.byID k = st.items.byID k
  trail : st'.history.ofWorkItem k = st.history.ofWorkItem k
  offer : st'.assignments.byWorkItem k = st.assignments.byWorkItem k
  events : st'.assignmentHistory.ofWorkItem k = st.assignmentHistory.ofWorkItem k

/-- The frame of a call: it leaves the rows and the entries of the items it is not about. -/
theorem Effect.sameOn {env : Env} {ctx : Context} {c : Call} {out : Except Error Reply}
    {W k : String} (h : Effect s env ctx st c out st') (htarget : c.target = some W) (hk : k ≠ W) :
    st.SameOn k st' := by
  have hrow : st'.items.byID k = st.items.byID k := by
    obtain ⟨item,row,found,hitems,hsame⟩ := h.rewrites htarget
    rw [hitems, update_byID found hsame.id.symm, if_neg hk]
  cases h with
  | create => cases htarget
  | update => cases htarget; exact ⟨hrow,rfl,rfl,rfl⟩
  | changeStatus =>
    cases htarget
    exact ⟨hrow,(history_create _ _ k).trans (if_neg hk.symm),rfl,rfl⟩
  | assignWorkItem =>
    cases htarget
    exact ⟨hrow,(history_create _ _ k).trans (if_neg hk.symm),
      (create_byWorkItem _ k).trans (if_neg hk),
      (assignmentHistory_create _ _ k).trans (if_neg hk.symm)⟩
  | @respondToAssignment _ _ accept input _ offer _ _ _ offered =>
    cases htarget
    have hoffer : (respondedAssignment offer accept input.note env.now).workItemID =
        offer.workItemID := rfl
    exact ⟨hrow,(history_create _ _ k).trans (if_neg hk.symm),
      (update_byWorkItem offered hoffer k).trans (if_neg hk),
      (assignmentHistory_create _ _ k).trans (if_neg hk.symm)⟩

/-- No call deletes a work item or changes where it comes from. -/
theorem Effect.origin {env : Env} {ctx : Context} {c : Call} {out : Except Error Reply}
    (h : Effect s env ctx st c out st') {id : String} {item : WorkItem}
    (found : st.items.byID id = some item) :
    ∃ row, st'.items.byID id = some row ∧ SameOrigin item row := by
  cases htarget : c.target with
  | some W =>
    obtain ⟨old,row,hold,hitems,hsame⟩ := h.rewrites htarget
    rw [hitems, update_byID hold hsame.id.symm]
    split_ifs with hid
    · subst hid
      obtain rfl : old = item := Option.some.inj (hold.symm.trans found)
      exact ⟨row,rfl,hsame⟩
    · exact ⟨item,found,.refl item⟩
  | none =>
    cases h with
    | create =>
      have hne : id ≠ workItemID (st.items.seq+1) := by
        rintro rfl
        rw [st.items.byID_next] at found
        cases found
      exact ⟨item,by rw [MemoryStore.create_byID, if_neg hne, found],.refl item⟩
    | _ => cases htarget

theorem Effect.keeps {env : Env} {ctx : Context} {c : Call} {out : Except Error Reply}
    (h : Effect s env ctx st c out st') {id : String} (hid : (st.items.byID id).isSome) :
    (st'.items.byID id).isSome := by
  obtain ⟨item,found⟩ := Option.isSome_iff_exists.mp hid
  obtain ⟨row,hrow,_⟩ := h.origin found
  rw [hrow]
  rfl

variable (hnil : s.txRunner = none)
include hnil

/-- What one request does: nothing, or a successful effect. -/
theorem serve_cases (hsound : st.Sound) (r : Request) :
    ((serve s r st).2 = st ∧ (r.call.Reads ∨ ∃ e, (serve s r st).1 = .error e)) ∨
    ∃ reply, (serve s r st).1 = .ok reply ∧
      Effect s r.env r.ctx st r.call (.ok reply) (serve s r st).2 := by
  rcases run_outcome (s := s) r.env r.ctx st hnil r.call with h | h
  · exact .inl h
  · obtain ⟨reply,hreply⟩ := h.ok hsound
    exact .inr ⟨reply,hreply,hreply ▸ h⟩

theorem serve_sound (r : Request) (st : State) (hsound : st.Sound) : (serve s r st).2.Sound := by
  rcases serve_cases hnil hsound r with ⟨h,_⟩ | ⟨reply,_,h⟩
  · rwa [h]
  · exact h.sound hsound

theorem serveAll_keeps {id : String} (hid : (st.items.byID id).isSome) (rs : List Request) :
    ((serveAll (serve s) st rs).items.byID id).isSome := by
  refine serveAll_inv (serve s) (I := fun st => (st.items.byID id).isSome) ?_ hid rs
  intro r st hid
  rcases run_outcome (s := s) r.env r.ctx st hnil r.call with ⟨hsame,_⟩ | h
  · rwa [show (serve s r st).2 = st from hsame]
  · exact h.keeps hid

theorem serveAll_sound (rs : List Request) : (serveAll (serve s) .empty rs).Sound :=
  serveAll_inv _ (fun r st h => serve_sound hnil r st h) State.empty_sound rs

end

/-- Nothing is half done: a call that reports an error has written nothing, counters included.
The notification store may have been used by others in between. -/
theorem error_leaves_state (hasNotifier hasTeamAuthority : Bool) (rs : List Request)
    (notifications : Notifications.MemoryStore) (r : Request) (e : Error)
    (h : (serve (.inMemory hasNotifier hasTeamAuthority) r
      { finalState hasNotifier hasTeamAuthority rs with notifications }).1 = .error e) :
    (serve (.inMemory hasNotifier hasTeamAuthority) r
      { finalState hasNotifier hasTeamAuthority rs with notifications }).2 =
      { finalState hasNotifier hasTeamAuthority rs with notifications } := by
  have hrun := serveAll_sound (s := .inMemory hasNotifier hasTeamAuthority) rfl rs
  have hsound : State.Sound { finalState hasNotifier hasTeamAuthority rs with notifications } :=
    ⟨hrun.items,hrun.assignments⟩
  rcases serve_cases (s := .inMemory hasNotifier hasTeamAuthority) rfl hsound r with
    ⟨hsame,_⟩ | ⟨reply,hok,_⟩
  · exact hsame
  · rw [hok] at h; cases h

/-- A supervisor who did not create the unassigned item is refused. -/
theorem error_leaves_state_refused :
    let request (call : Call) : Request := ⟨background,7,7,fun _ _ => .ok false,fun _ => .ok [],call⟩
    let created := request (.create "admin-1" ⟨"Repair pump","Pump 4 leaks",.high,none,none⟩)
    let moved := request (.changeStatus "workitem-0001" "user-2" false true false ⟨.cancelled,none⟩)
    let st : State := { finalState true false [created] with notifications := .new }
    (serve (.inMemory true false) moved st).1 = .error errNotFound ∧
      (serve (.inMemory true false) moved st).2 = st := by
  intro request created moved st
  have hrefused : (serve (.inMemory true false) moved st).1 = .error errNotFound := by
    decide +kernel
  exact ⟨hrefused,error_leaves_state true false [created] .new moved errNotFound hrefused⟩

end OpsPlatform.Workitems
