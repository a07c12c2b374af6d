import OpsPlatform.Workitems.Transaction

/-! The three methods that write to several tables, on Postgres: whichever call fails, the tables
get all writes of the method or none. Every call goes through the context of the transaction. -/
namespace OpsPlatform.Workitems
open OpsPlatform.Go OpsPlatform.Db Interaction Program

/-- A method that moves a work item through its workflow. -/
def Call.Workflow : Call → Prop
  | .changeStatus _ _ _ _ _ _ | .assignWorkItem _ _ _ _ _ | .respondToAssignment _ _ _ _ _ => True
  | _ => False

namespace Postgres

/-- The row is in its table. -/
def Tables.Holds (t : Tables) : Write → Prop
  | .workItem row => row ∈ t.workItems
  | .statusHistory row => row ∈ t.statusHistory
  | .assignment row => row ∈ t.assignments
  | .assignmentHistory row => row ∈ t.assignmentHistory
  | .notification row => row ∈ t.notifications

/-- The notice of a status change, where the new status has one. -/
def StatusNotice (hasNotifier : Bool) (id : String) (updated : WorkItem) (notices : List Write) :
    Prop :=
  match notificationForStatusChange updated with
  | none => notices = []
  | some (recipientUserID,kind,message) =>
    Notice hasNotifier recipientUserID id kind message notices

/-- The notice of an answer, where it is an acceptance. -/
def ResponseNotice (hasNotifier : Bool) (id : String) (item : WorkItem) (assignment : Assignment)
    (accept : Bool) (notices : List Write) : Prop :=
  if accept then Notice hasNotifier assignment.assignedByUserID id "assignment_accepted"
    (item.referenceCode ++ " was accepted by the assignee") notices
  else notices = []

/-- All that a call has written when it returns a result, in the order of its statements: the rows of
the tables it found, the instants as the columns keep them. -/
inductive Written (hasNotifier : Bool) (t : Tables) : Call → Reply → List Write → Prop
  | changeStatus {id actor : String} {admin supervisor requester : Bool}
      {input : ChangeStatusInput} {item updated : WorkItem} {entry : StatusHistory} {now : Time}
      {notices : List Write} (found : (t.workItems.find? fun row => row.id = id) = some item)
      (moved : StoredItem (movedItem item input.toStatus now) now updated)
      (logged : entry = { statusEntry id item.status input.toStatus actor input.reason
        entry.createdAt with id := entry.id })
      (noticed : StatusNotice hasNotifier id updated notices) :
      Written hasNotifier t (.changeStatus id actor admin supervisor requester input)
        (.item updated) ([.workItem updated,.statusHistory entry] ++ notices)
  | assignWorkItem {id assigner : String} {admin supervisor : Bool} {input : AssignInput}
      {item updated : WorkItem} {entry : StatusHistory} {assignment : Assignment}
      {event : AssignmentHistory} {now : Time} {notices : List Write}
      (found : (t.workItems.find? fun row => row.id = id) = some item)
      (moved : StoredItem (assignedItem item (trimSpace input.assignedToUserID) now) now updated)
      (logged : entry = { statusEntry id item.status .assigned assigner none entry.createdAt with
        id := entry.id })
      (assigned : assignment = { newAssignment id assigner (trimSpace input.assignedToUserID)
        assignment.assignedAt with id := assignment.id })
      (recorded : event = { assignmentEvent id .assigned assigner
        (trimSpace input.assignedToUserID) none event.createdAt with id := event.id })
      (noticed : Notice hasNotifier (trimSpace input.assignedToUserID) id "assignment_created"
        (item.referenceCode ++ " was assigned to you") notices) :
      Written hasNotifier t (.assignWorkItem id assigner admin supervisor input)
        (.assignment assignment) ([.workItem updated,.statusHistory entry,.assignment assignment,
          .assignmentHistory event] ++ notices)
  | respondToAssignment {id user : String} {requester accept : Bool}
      {input : RespondToAssignmentInput} {item updated : WorkItem} {entry : StatusHistory}
      {assignment answered : Assignment} {event : AssignmentHistory} {now at_ : Time}
      {notices : List Write} (found : (t.workItems.find? fun row => row.id = id) = some item)
      (offered : (t.assignments.find? fun row => row.workItemID = id) = some assignment)
      (moved : StoredItem (respondedItem item accept now) now updated)
      (logged : entry = { statusEntry id item.status (respondedStatus accept) user input.note
        entry.createdAt with id := entry.id })
      (settled : answered = respondedAssignment assignment accept input.note at_)
      (recorded : event = { assignmentEvent id (respondedAction accept) user
        assignment.assignedToUserID input.note event.createdAt with id := event.id })
      (noticed : ResponseNotice hasNotifier id item assignment accept notices) :
      Written hasNotifier t (.respondToAssignment id user requester accept input)
        (.assignment answered) ([.workItem updated,.statusHistory entry,.assignment answered,
          .assignmentHistory event] ++ notices)

section Methods
variable {db : Database} {hasNotifier hasTeamAuthority : Bool} {ctx : Context}

lemma wp_changeStatus (id actor : String) (admin supervisor requester : Bool)
    (input : ChangeStatusInput) : ((Service.postgres hasNotifier hasTeamAuthority).changeStatus ctx
      id actor admin supervisor requester input).Wp Answers db (AllOrNothing db fun updated =>
        Written hasNotifier db.tables (.changeStatus id actor admin supervisor requester input)
          (.item updated)) := by
  refine wp_guard (wp_guard (wp_guard (wp_poolTxRunner ctx fun tx db₀ h => ?_)))
  refine wp_storeGetByID h fun item db₁ hfound h => ?_
  refine wp_asks (asks_authorizeChangeStatus _ _ _ _ _ _ _) h fun _ db₂ h => ?_
  refine wp_now h fun now db₃ h => ?_
  refine wp_storeUpdate h hfound ⟨rfl,rfl,rfl,rfl⟩ fun updated db₄ hmoved h => ?_
  refine wp_recordStatusChange h fun entry db₅ hlogged h => ?_
  have hdone : ∀ notices, StatusNotice hasNotifier id updated notices →
      Written hasNotifier db.tables (.changeStatus id actor admin supervisor requester input)
        (.item updated) ([.workItem updated,.statusHistory entry] ++ notices) :=
    fun _ => .changeStatus hfound hmoved hlogged
  unfold StatusNotice at hdone
  cases hnotice : notificationForStatusChange updated with
  | none =>
    rw [hnotice] at hdone
    exact wp_done h (hdone [] rfl)
  | some notice =>
    rw [hnotice] at hdone
    exact wp_notify h fun new db₆ hnew h => wp_done h (hdone new hnew)

lemma wp_assignWorkItem (id assigner : String) (admin supervisor : Bool) (input : AssignInput) :
    ((Service.postgres hasNotifier hasTeamAuthority).assignWorkItem ctx id assigner admin supervisor
      input).Wp Answers db (AllOrNothing db fun assignment => Written hasNotifier db.tables
        (.assignWorkItem id assigner admin supervisor input) (.assignment assignment)) := by
  refine wp_guard (wp_poolTxRunner ctx fun tx db₀ h => ?_)
  refine wp_storeGetByID h fun item db₁ hfound h => ?_
  refine wp_asks (asks_authorizeAssign _ _ _ _ _ _) h fun _ db₂ h => ?_
  refine wp_refuse h fun _ => wp_now h fun now db₃ h => ?_
  refine wp_storeUpdate h hfound ⟨rfl,rfl,rfl,rfl⟩ fun updated db₄ hmoved h => ?_
  refine wp_recordStatusChange h fun entry db₅ hlogged h => ?_
  refine wp_assignmentCreate h fun assignment db₆ hassigned h => ?_
  refine wp_recordAssignmentEvent h fun event db₇ hrecorded h => ?_
  refine wp_notify h fun new db₈ hnotice h => ?_
  exact wp_done h (.assignWorkItem hfound hmoved hlogged hassigned hrecorded hnotice)

lemma wp_respondToAssignment (id user : String) (requester accept : Bool)
    (input : RespondToAssignmentInput) : ((Service.postgres hasNotifier
      hasTeamAuthority).respondToAssignment ctx id user requester accept input).Wp Answers db
        (AllOrNothing db fun answered => Written hasNotifier db.tables
          (.respondToAssignment id user requester accept input) (.assignment answered)) := by
  refine wp_guard (wp_guard (wp_poolTxRunner ctx fun tx db₀ h => ?_))
  refine wp_storeGetByID h fun item db₁ hfound h => ?_
  refine wp_assignmentGetByWorkItemID h fun assignment db₂ hoffered h => ?_
  refine wp_refuse h fun _ => wp_refuse h fun _ => wp_refuse h fun _ => wp_now h fun now db₃ h => ?_
  refine wp_storeUpdate h hfound ⟨rfl,rfl,rfl,rfl⟩ fun updated db₄ hmoved h => ?_
  refine wp_recordStatusChange h fun entry db₅ hlogged h => ?_
  have hitem : assignment.workItemID = id := by simpa using List.find?_some hoffered
  refine wp_assignmentUpdate h (by rwa [hitem]) fun at_ db₆ h => ?_
  refine wp_recordAssignmentEvent h fun event db₇ hrecorded h => ?_
  have hdone : ∀ notices, ResponseNotice hasNotifier id item assignment accept notices →
      Written hasNotifier db.tables (.respondToAssignment id user requester accept input)
        (.assignment (respondedAssignment assignment accept input.note at_))
        ([.workItem updated,.statusHistory entry,
          .assignment (respondedAssignment assignment accept input.note at_),
          .assignmentHistory event] ++ notices) :=
    fun _ => .respondToAssignment hfound hoffered hmoved hlogged rfl hrecorded
  unfold Service.notifyResponse
  unfold ResponseNotice at hdone
  split_ifs at hdone ⊢
  · exact wp_notify h fun new db₈ hnotice h => wp_done h (hdone new hnotice)
  · exact wp_done h (hdone [] rfl)

/-- The three methods return no result after a call that has failed. -/
lemma strict_workflow (hasNotifier hasTeamAuthority : Bool) {c : Call} (hc : c.Workflow) :
    (c.program (.postgres hasNotifier hasTeamAuthority) ctx).Strict Failed := by
  cases c with
  | changeStatus =>
    refine strict_map _ (strict_refuse (strict_refuse (strict_refuse (strict_poolTxRunner
      fun ctx => strict_op (fun _ h => h) fun item => ?_))))
    refine strict_bind (strict_authorizeChangeStatus _ _ _ _ _ _) fun _ => ?_
    refine strict_now fun now => strict_op (fun _ h => h) fun updated => ?_
    refine strict_bind (strict_recordStatusChange _ _ _ _ _ _) fun _ => ?_
    cases notificationForStatusChange updated with
    | none => exact strict_ret _
    | some notice => exact strict_bind (strict_notify _ _ _ _) fun _ => strict_ret _
  | assignWorkItem =>
    refine strict_map _ (strict_refuse (strict_poolTxRunner
      fun ctx => strict_op (fun _ h => h) fun item => ?_))
    refine strict_bind (strict_authorizeAssign _ _ _ _ _) fun _ => strict_refuse ?_
    refine strict_now fun now => strict_op (fun _ h => h) fun updated => ?_
    refine strict_bind (strict_recordStatusChange _ _ _ _ _ _) fun _ => ?_
    refine strict_op (fun _ h => h) fun assignment => ?_
    refine strict_bind (strict_recordAssignmentEvent _ _ _ _ _ _) fun _ => ?_
    exact strict_bind (strict_notify _ _ _ _) fun _ => strict_ret _
  | respondToAssignment =>
    refine strict_map _ (strict_refuse (strict_refuse (strict_poolTxRunner
      fun ctx => strict_op (fun _ h => h) fun item => strict_op (fun _ h => h) fun assignment => ?_)))
    refine strict_refuse (strict_refuse (strict_refuse (strict_now fun now => ?_)))
    refine strict_op (fun _ h => h) fun updated => ?_
    refine strict_bind (strict_recordStatusChange _ _ _ _ _ _) fun _ => ?_
    refine strict_op (fun _ h => h) fun answered => ?_
    refine strict_bind (strict_recordAssignmentEvent _ _ _ _ _ _) fun _ => ?_
    exact strict_bind (strict_notifyResponse _ _ _ _) fun _ => strict_ret _
  | _ => exact hc.elim

end Methods

section Present
variable {hasNotifier : Bool} {t : Tables} {writes : List Write}

/-- The table of a row, by the sequence that numbers it. -/
def Write.table : Write → Sequence
  | .workItem _ => .workItems
  | .statusHistory _ => .statusHistory
  | .assignment _ => .assignments
  | .assignmentHistory _ => .assignmentHistory
  | .notification _ => .notifications

lemma mem_put {Row : Type} (key : Row → String) (row : Row) (rows : List Row) :
    row ∈ put key row rows := by
  unfold put
  split_ifs with hany
  · obtain ⟨old,hold,hkey⟩ := List.any_eq_true.mp hany
    exact List.mem_map.mpr ⟨old,hold,if_pos (by simpa using hkey)⟩
  · exact List.mem_concat_self

lemma holds_write (t : Tables) (w : Write) : (t.write w).Holds w := by
  cases w <;> exact mem_put _ _ _

lemma Tables.Holds.write {v w : Write} (h : t.Holds w) (hne : w.table ≠ v.table) :
    (t.write v).Holds w := by
  cases w <;> cases v <;> first | exact h | exact absurd rfl hne

/-- Rows of different tables are all there in the end. -/
lemma holds_writeAll (hnodup : (writes.map Write.table).Nodup) :
    ∀ w ∈ writes, (t.writeAll writes).Holds w := by
  induction writes using List.reverseRecOn with
  | nil => exact fun _ h => absurd h List.not_mem_nil
  | append_singleton writes v ih =>
    rw [List.map_append, List.nodup_append] at hnodup
    obtain ⟨hwrites,-,hdisjoint⟩ := hnodup
    intro w hw
    rw [Tables.writeAll, List.foldl_concat]
    obtain hw | hw := List.mem_append.mp hw
    · have hne := hdisjoint _ (List.mem_map_of_mem hw) v.table (List.mem_singleton.mpr rfl)
      exact (ih hwrites w hw).write hne
    · obtain rfl := List.mem_singleton.mp hw
      exact holds_write _ w

lemma Notice.table {recipientUserID id kind message : String} {notices : List Write}
    (h : Notice hasNotifier recipientUserID id kind message notices) :
    notices.map Write.table = [] ∨ notices.map Write.table = [.notifications] := by
  cases h with
  | written => exact .inr rfl
  | none => exact .inl rfl

/-- A call writes to each table once. -/
lemma Written.nodup {c : Call} {reply : Reply} (h : Written hasNotifier t c reply writes) :
    (writes.map Write.table).Nodup := by
  have hlast : ∀ (front notices : List Write), (notices.map Write.table = [] ∨
      notices.map Write.table = [.notifications]) → (front.map Write.table).Nodup →
      .notifications ∉ front.map Write.table → ((front ++ notices).map Write.table).Nodup := by
    rintro front notices (hnotices | hnotices) hnodup hfree <;> rw [List.map_append, hnotices]
    · rwa [List.append_nil]
    · exact List.nodup_append.mpr ⟨hnodup,List.nodup_singleton _,by simpa using hfree⟩
  cases h with
  | @changeStatus _ _ _ _ _ _ _ updated _ _ _ _ _ _ noticed =>
    refine hlast _ _ ?_ (by simp [Write.table]) (by simp [Write.table])
    unfold StatusNotice at noticed
    cases hnotice : notificationForStatusChange updated <;> rw [hnotice] at noticed
    · exact .inl (congrArg (List.map Write.table) noticed)
    · exact noticed.table
  | assignWorkItem _ _ _ _ _ noticed =>
    exact hlast _ _ noticed.table (by simp [Write.table]) (by simp [Write.table])
  | respondToAssignment _ _ _ _ _ _ noticed =>
    refine hlast _ _ ?_ (by simp [Write.table]) (by simp [Write.table])
    unfold ResponseNotice at noticed
    split_ifs at noticed
    · exact noticed.table
    · exact .inl (congrArg (List.map Write.table) noticed)

end Present

theorem workflow_all_or_nothing (hasNotifier hasTeamAuthority : Bool) (ctx : Context) (c : Call)
    (hc : c.Workflow) (db db' : Database) (events : List (Event Op.Res)) (x : Except Error Reply)
    (h : (c.program (.postgres hasNotifier hasTeamAuthority) ctx).Executes Answers db events x db') :
    (∀ err, x = .error err → db'.tables = db.tables) ∧
    ∀ reply, x = .ok reply → (∀ e ∈ events, ¬ Failed e.op e.res) ∧
      ∃ writes, Written hasNotifier db.tables c reply writes ∧
        db'.journal = db.journal ++ writes ∧ db'.tables = db.tables.writeAll writes ∧
        ∀ w ∈ writes, db'.tables.Holds w := by
  have hwp : (c.program (.postgres hasNotifier hasTeamAuthority) ctx).Wp Answers db
      (AllOrNothing db (Written hasNotifier db.tables c)) := by
    cases c with
    | changeStatus =>
      exact (wp_map _ _).mpr ((wp_changeStatus _ _ _ _ _ _).imp fun _ _ h => Ends.map h fun _ h => h)
    | assignWorkItem =>
      exact (wp_map _ _).mpr ((wp_assignWorkItem _ _ _ _ _).imp fun _ _ h => Ends.map h fun _ h => h)
    | respondToAssignment =>
      exact (wp_map _ _).mpr
        ((wp_respondToAssignment _ _ _ _ _).imp fun _ _ h => Ends.map h fun _ h => h)
    | _ => exact hc.elim
  have hends := h.runs.wp hwp
  constructor
  · rintro err rfl
    exact hends
  · rintro reply rfl
    obtain ⟨writes,hwritten,hjournal,htables⟩ := hends
    refine ⟨(strict_workflow hasNotifier hasTeamAuthority hc).executes h,writes,hwritten,hjournal,
      htables,?_⟩
    rw [htables]
    exact holds_writeAll hwritten.nodup

/-- A database with one work item, on which nothing has happened yet. -/
def seeded : Database where
  tables := ⟨[⟨"workitem-0001","WI-0001","Gate repaint","Repaint the gate",.created,.medium,
    "user-admin-001",none,none,none,0,0⟩],[],[],[],[]⟩
  sequences sequence := if sequence = .workItems then 1 else 0
  transactions _ := none
  begun := 0
  journal := []

def steady : Env := ⟨7000,fun t => t / 1000 * 1000,fun _ _ => .ok false,fun _ => .ok []⟩

/-- Every call works but the last one, the notification. -/
def failingNotifier : (op : Op) → Database → op.Res × Database
  | .notify _ _ _ _ _, db => (.error ⟨"simulated notification failure"⟩,db)
  | op, db => exec steady op db

lemma failingNotifier_answers (op : Op) (db : Database) :
    Answers op db (failingNotifier op db).1 (failingNotifier op db).2 := by
  cases op with
  | notify => exact .inr ⟨⟨_,rfl⟩,rfl,rfl,fun _ => .inl rfl⟩
  | _ => exact .inl ⟨steady,rfl⟩

/-- An assignment that fails at the notification, after four writes, and one that goes through. -/
theorem workflow_all_or_nothing_assign :
    let call := Call.assignWorkItem "workitem-0001" "user-admin-001" true false
      ⟨"user-assignee-001"⟩
    let failed := (call.program (.postgres true true) background).run failingNotifier seeded
    let done := (call.program (.postgres true true) background).run (exec steady) seeded
    (failed.1 = .error ⟨"simulated notification failure"⟩ ∧ failed.2.journal.length = 4 ∧
      failed.2.tables = seeded.tables) ∧
    ∃ reply, done.1 = .ok reply ∧ Written true seeded.tables call reply done.2.journal ∧
      done.2.journal.length = 5 ∧ ∀ w ∈ done.2.journal, done.2.tables.Holds w := by
  intro call failed done
  have hfailed : (call.program (.postgres true true) background).Runs Answers seeded failed.1
      failed.2 := runs_run failingNotifier_answers _ _
  have hdone : (call.program (.postgres true true) background).Runs Answers seeded done.1 done.2 :=
    runs_run (fun op db => .inl ⟨steady,rfl⟩) _ _
  have herror : failed.1 = .error ⟨"simulated notification failure"⟩ := by decide +kernel
  obtain ⟨reply,hreply⟩ : ∃ reply, done.1 = .ok reply := by
    have hok : done.1.isOk = true := by decide +kernel
    cases hresult : done.1 with
    | error err => rw [hresult] at hok; cases hok
    | ok reply => exact ⟨reply,rfl⟩
  obtain ⟨seen,hseen⟩ := hfailed.executes
  obtain ⟨events,hevents⟩ := hdone.executes
  obtain ⟨-,writes,hwritten,hjournal,-,hholds⟩ := (workflow_all_or_nothing true true background call
    trivial seeded done.2 events done.1 hevents).2 reply hreply
  obtain rfl : done.2.journal = writes := hjournal
  exact ⟨⟨herror,by decide +kernel,(workflow_all_or_nothing true true background call trivial
    seeded failed.2 seen failed.1 hseen).1 _ herror⟩,reply,hreply,hwritten,by decide +kernel,hholds⟩

end Postgres
end OpsPlatform.Workitems
