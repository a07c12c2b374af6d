import OpsPlatform.Workitems.Concurrent

/-! Whom the calls of the service name to the notifier, in any interleaving: the users they were
given, or those in the rows they were answered with. -/
namespace OpsPlatform.Workitems
open OpsPlatform.Go Interaction Program

/-- Who may stand in a stored row as its creator or assigner, who as its assignee, and who may be
notified. -/
structure Roster where
  known : String → Prop
  assignee : String → Prop
  notified : String → Prop
  assignee_notified : ∀ user, assignee user → notified user
  trimmed : ∀ user, notified user → trimSpace user = user

namespace Roster
variable (N : Roster)

def Item (item : WorkItem) : Prop :=
  N.known item.createdByUserID ∧ ∀ user, item.assignedToUserID = some user → N.assignee user

def Row (row : Assignment) : Prop := N.known row.assignedByUserID

/-- An operation that stores and notifies only such users. -/
def Issues : Op → Prop
  | .storeCreate _ item => N.Item item
  | .storeUpdate _ item => N.Item item
  | .assignmentCreate _ row => N.Row row
  | .assignmentUpdate _ row => N.Row row
  | .notify _ recipientUserID _ _ _ => N.notified recipientUserID
  | _ => True

/-- A submission is of an item whose creator may be notified, an acceptance is of an assignment
whose assigner may be. -/
def Awaits : Op → Prop
  | .storeUpdate _ item => item.status = .submittedForReview → N.notified item.createdByUserID
  | .assignmentUpdate _ row => row.status = .accepted → N.notified row.assignedByUserID
  | _ => True

/-- What a call may rely on when an operation has been answered. -/
def Answer : Event Op.Res → Prop
  | ⟨.storeGetByID _ _,.ok item⟩ => N.Item item
  | ⟨.assignmentGetByWorkItemID _ _,.ok row⟩ => N.Row row
  | ⟨.storeUpdate _ item,.ok updated⟩ => updated = item ∧ N.Awaits (.storeUpdate background item)
  | ⟨.assignmentUpdate _ row,.ok _⟩ => N.Awaits (.assignmentUpdate background row)
  | _ => True

/-- Only such users are in the stores. -/
structure Holds (st : State) : Prop where
  items : ∀ id item, st.items.byID id = some item → N.Item item
  rows : ∀ id row, st.assignments.byWorkItem id = some row → N.Row row
  notifications : ∀ id n, st.notifications.entries id = some n → N.notified n.recipientUserID

theorem empty_holds : N.Holds .empty := by
  constructor <;> intro _ _ h <;> cases h

end Roster

/-- An operation that names nobody. -/
def Op.Silent : Op → Prop
  | .storeCreate _ _ | .storeUpdate _ _ | .assignmentCreate _ _ | .assignmentUpdate _ _
  | .notify _ _ _ _ _ => False
  | _ => True

namespace Roster
section Judgements
variable {N : Roster} {s : Service} {h : List (Event Op.Res)} (ctx : Context)

/-- The program names only users of the roster, if its answers do. -/
def Keeps {α : Type} (N : Roster) (p : M α) (h : List (Event Op.Res)) : Prop :=
  p.Ensures (fun _ e => N.Answer e) (fun _ op => N.Issues op) (fun _ _ => True) h

lemma issues_of_silent {op : Op} (hop : op.Silent) : N.Issues op := by
  cases op <;> trivial

lemma silent_of_reads {α : Type} {p : M α} (hp : p.Only Op.Reads) : p.Only Op.Silent :=
  hp.imp fun op hop => by cases op <;> trivial

lemma keeps_of_silent {α : Type} {p : M α} (hp : p.Only Op.Silent) : N.Keeps p h :=
  ensures_of_only hp (fun _ hop _ => issues_of_silent hop) h

lemma keeps_of_asks {α : Type} {p : M α} (hp : p.Only (Op.Asks ctx)) : N.Keeps p h :=
  keeps_of_silent (silent_of_reads (reads_of_asks ctx hp))

lemma keeps_bind {α β : Type} {p : M α} {f : α → M β} (hp : N.Keeps p h)
    (hf : ∀ a h', N.Keeps (f a) h') : N.Keeps (p >>= f) h :=
  Ensures.andThen hp fun h' a _ _ => hf a h'

lemma keeps_ret {α : Type} (a : α) : N.Keeps (ret a) h := (ensures_ret a).mpr trivial

lemma keeps_failIf {α : Type} {c : Prop} [Decidable c] {e : Error} {f : Unit → M α}
    (hf : ¬ c → N.Keeps (f ()) h) : N.Keeps (failIf c e >>= f) h := ensures_failIf_andThen hf

/-- One operation, and the rest for every answer it may get. -/
lemma keeps_call {α β : Type} {op : Op} {read : op.Res → Except Error β} {f : β → M α}
    (hop : N.Issues op)
    (hf : ∀ r b, N.Answer ⟨op,r⟩ → read r = .ok b → N.Keeps (f b) (h ++ [⟨op,r⟩])) :
    N.Keeps (call op (fun r => fromResult (read r)) >>= f) h := by
  rw [Keeps, call_bind, ensures_call]
  refine ⟨hop,fun r hr => ?_⟩
  exact ensures_fromResult_bind fun b hb => hf r b hr hb

lemma keeps_last {α : Type} {op : Op} {read : op.Res → Except Error α} (hop : N.Issues op) :
    N.Keeps (call op fun r => fromResult (read r)) h := by
  rw [Keeps, ensures_call]
  exact ⟨hop,fun r _ => (ensures_fromResult _).mpr trivial⟩

lemma keeps_now {α : Type} {f : Time → M α} (hf : ∀ now h', N.Keeps (f now) h') :
    N.Keeps (call .now ret >>= f) h := by
  rw [Keeps, call_bind, ensures_call]
  exact ⟨trivial,fun now _ => hf now _⟩

lemma keeps_recordStatusChange (workItemID : String) (src dst : Status) (actor : String)
    (reason : Option String) (now : Time) :
    N.Keeps (s.recordStatusChange ctx workItemID src dst actor reason now) h :=
  keeps_of_silent (only_bind (only_call trivial fun r => only_fromResult r) fun _ => only_ret _)

lemma keeps_recordAssignmentEvent (workItemID : String) (action : AssignmentStatus)
    (actor assignee : String) (note : Option String) (now : Time) :
    N.Keeps (s.recordAssignmentEvent ctx workItemID action actor assignee note now) h :=
  keeps_of_silent (only_bind (only_call trivial fun r => only_fromResult r) fun _ => only_ret _)

lemma keeps_notify {recipientUserID : String} (hrecipient : N.notified recipientUserID)
    (workItemID kind message : String) :
    N.Keeps (s.notify ctx recipientUserID workItemID kind message) h := by
  unfold Service.notify
  split_ifs
  · exact keeps_last hrecipient
  · exact keeps_ret ()

lemma keeps_create {createdByUserID : String} (hknown : N.known createdByUserID)
    (input : CreateInput) : N.Keeps (s.create ctx createdByUserID input) h := by
  refine keeps_failIf fun _ => keeps_failIf fun _ => keeps_failIf fun _ => ?_
  refine keeps_now fun now h' => ?_
  exact keeps_last ⟨hknown,by rintro _ ⟨⟩⟩

lemma keeps_update (id caller : String) (admin supervisor : Bool) (input : UpdateInput) :
    N.Keeps (s.update ctx id caller admin supervisor input) h := by
  refine keeps_failIf fun _ => keeps_call trivial fun r item hitem hr => ?_
  subst hr
  refine keeps_bind (keeps_of_asks ctx
    (asks_authorizeUpdate ctx caller admin supervisor item)) fun _ _ => ?_
  refine ensures_fromResult_bind fun edited happly => keeps_now fun now h' => ?_
  have hedit := UpdateInput.apply_editOf happly
  have hedited : N.Item (editedItem edited now) := by
    unfold Roster.Item editedItem
    rw [hedit.createdByUserID, hedit.assignedToUserID]
    exact hitem
  exact keeps_last hedited

/-- The recipient of a status change: the creator at a submission, else the assignee. -/
lemma notified_of_status {item : WorkItem} (hitem : N.Item item)
    (hcreator : item.status = .submittedForReview → N.notified item.createdByUserID)
    {recipientUserID kind message : String}
    (h : notificationForStatusChange item = some (recipientUserID,kind,message)) :
    N.notified recipientUserID := by
  have hassignee {what how : String}
      (h : item.assignedToUserID.map (fun assignee => (assignee,what,item.referenceCode ++ how)) =
        some (recipientUserID,kind,message)) : N.notified recipientUserID := by
    obtain ⟨user,huser,h⟩ := Option.map_eq_some_iff.mp h
    cases h
    exact N.assignee_notified _ (hitem.2 _ huser)
  unfold notificationForStatusChange at h
  cases hstatus : item.status <;> simp only [hstatus] at h
  case submittedForReview =>
    cases h
    exact hcreator hstatus
  case flagged => exact hassignee h
  case verified => exact hassignee h
  case completed => exact hassignee h
  all_goals cases h

lemma keeps_changeStatus (hnil : s.txRunner = none) (id actor : String)
    (admin supervisor requester : Bool) (input : ChangeStatusInput) :
    N.Keeps (s.changeStatus ctx id actor admin supervisor requester input) h := by
  refine keeps_failIf fun _ => keeps_failIf fun _ => keeps_failIf fun _ => ?_
  rw [runAtomic_of_nil ctx hnil]
  refine keeps_call trivial fun r item hitem hr => ?_
  subst hr
  refine keeps_bind (keeps_of_asks ctx
    (asks_authorizeChangeStatus ctx actor admin supervisor requester item input.toStatus)) fun _ _ => ?_
  refine keeps_now fun now h' => keeps_call hitem fun r updated hupdated hr => ?_
  subst hr
  obtain ⟨rfl,hawaits⟩ := hupdated
  refine keeps_bind (keeps_recordStatusChange ctx _ _ _ _ _ _) fun _ _ => ?_
  cases hnotice : notificationForStatusChange (movedItem item input.toStatus now) with
  | none => exact keeps_ret _
  | some notice =>
    obtain ⟨recipientUserID,kind,message⟩ := notice
    have hmoved : N.Item (movedItem item input.toStatus now) := hitem
    exact keeps_bind (keeps_notify ctx (notified_of_status hmoved hawaits hnotice) _ _ _)
      fun _ _ => keeps_ret _

lemma keeps_assignWorkItem (hnil : s.txRunner = none) (id : String) {assigner : String}
    (hknown : N.known assigner) (admin supervisor : Bool) {input : AssignInput}
    (hassignee : N.assignee (trimSpace input.assignedToUserID)) :
    N.Keeps (s.assignWorkItem ctx id assigner admin supervisor input) h := by
  refine keeps_failIf fun _ => ?_
  rw [runAtomic_of_nil ctx hnil]
  refine keeps_call trivial fun r item hitem hr => ?_
  subst hr
  refine keeps_bind (keeps_of_asks ctx
    (asks_authorizeAssign ctx assigner (trimSpace input.assignedToUserID) admin supervisor item))
    fun _ _ => keeps_failIf fun _ => keeps_now fun now h' => ?_
  have hassigned : N.Item (assignedItem item (trimSpace input.assignedToUserID) now) :=
    ⟨hitem.1,by rintro _ ⟨⟩; exact hassignee⟩
  refine keeps_call hassigned fun _ _ _ _ => ?_
  refine keeps_bind (keeps_recordStatusChange ctx _ _ _ _ _ _) fun _ _ => ?_
  refine keeps_call hknown fun _ _ _ _ => ?_
  refine keeps_bind (keeps_recordAssignmentEvent ctx _ _ _ _ _ _) fun _ _ => ?_
  exact keeps_bind (keeps_notify ctx (N.assignee_notified _ hassignee) _ _ _) fun _ _ => keeps_ret _

lemma keeps_respondToAssignment (hnil : s.txRunner = none) (id user : String)
    (requester accept : Bool) (input : RespondToAssignmentInput) :
    N.Keeps (s.respondToAssignment ctx id user requester accept input) h := by
  refine keeps_failIf fun _ => keeps_failIf fun _ => ?_
  rw [runAtomic_of_nil ctx hnil]
  refine keeps_call trivial fun r item hitem hr => ?_
  subst hr
  refine keeps_call trivial fun r row hrow hr => ?_
  subst hr
  refine keeps_failIf fun _ => keeps_failIf fun _ => keeps_failIf fun _ => ?_
  refine keeps_now fun now h' => ?_
  have hresponded : N.Item (respondedItem item accept now) := by
    refine ⟨hitem.1,fun user huser => ?_⟩
    cases accept
    · cases huser
    · exact hitem.2 user huser
  refine keeps_call hresponded fun _ _ _ _ => ?_
  refine keeps_bind (keeps_recordStatusChange ctx _ _ _ _ _ _) fun _ _ => ?_
  have hanswered : N.Row (respondedAssignment row accept input.note now) := hrow
  refine keeps_call hanswered fun r updated hawaits hr => ?_
  subst hr
  refine keeps_bind (keeps_recordAssignmentEvent ctx _ _ _ _ _ _) fun _ _ => ?_
  refine keeps_bind ?_ fun _ _ => keeps_ret _
  unfold Service.notifyResponse
  cases accept with
  | false => exact keeps_ret ()
  | true => exact keeps_notify ctx (hawaits rfl) _ _ _

end Judgements

section Step
variable {N : Roster} {op : Op} {st st' : State} {r : op.Res}

/-- What the stores hold is what a call is answered. -/
lemma Holds.answer (h : N.Holds st) (hawaits : N.Awaits op) (hanswer : Answers op st r st') :
    N.Answer ⟨op,r⟩ := by
  obtain ⟨env,hanswer⟩ := hanswer
  have hres : (exec env op st).1 = r := congrArg Prod.fst hanswer
  cases op with
  | storeGetByID ctx id =>
    rcases r with e | item
    · trivial
    · exact h.items id item (MemoryStore.getByID_eq_ok.mp hres)
  | assignmentGetByWorkItemID ctx id =>
    rcases r with e | row
    · trivial
    · exact h.rows id row (MemoryAssignmentStore.getByWorkItemID_eq_ok.mp hres)
  | storeUpdate ctx item =>
    rcases r with e | updated
    · trivial
    · have hupdate : (st.items.update item).1 = .ok updated := hres
      unfold MemoryStore.update at hupdate
      split_ifs at hupdate
      exact ⟨(Except.ok.inj hupdate).symm,hawaits⟩
  | assignmentUpdate ctx row =>
    rcases r with e | updated
    · trivial
    · exact hawaits
  | _ => trivial

lemma item_row {item row : WorkItem} (h : N.Item item)
    (hcreator : row.createdByUserID = item.createdByUserID)
    (hassignee : row.assignedToUserID = item.assignedToUserID) : N.Item row := by
  unfold Roster.Item
  rwa [hcreator, hassignee]

/-- The notifier stores the recipient it was given. -/
lemma recipients_notify (now : Time) (ctx : Context) {recipientUserID : String}
    (hrecipient : N.notified recipientUserID) (workItemID kind message : String)
    {store : Notifications.MemoryStore}
    (h : ∀ id n, store.entries id = some n → N.notified n.recipientUserID) (id : String)
    (n : Notifications.Notification) (hn : (Notifications.notifyMemory now ctx recipientUserID
      workItemID kind message store).2.entries id = some n) : N.notified n.recipientUserID := by
  rw [Notifications.notifyMemory_eq] at hn
  split_ifs at hn
  · exact h id n hn
  · simp only [Notifications.MemoryStore.create, Function.update_apply] at hn
    split_ifs at hn
    · cases hn
      simpa [Notifications.newNotification, N.trimmed _ hrecipient] using hrecipient
    · exact h id n hn

/-- The step lemma: an operation that keeps to the roster leaves stores that do. -/
theorem Holds.step (h : N.Holds st) (hissues : N.Issues op) {env : Env} {now : Time}
    (hnotify : env.notify = Notifications.notifyMemory now) (hanswer : exec env op st = (r,st')) :
    N.Holds st' := by
  have hanswers : Answers op st r st' := ⟨env,hanswer⟩
  obtain rfl : (exec env op st).2 = st' := congrArg Prod.snd hanswer
  refine ⟨?_,?_,?_⟩
  · intro id item hitem
    rw [hanswers.items] at hitem
    cases op with
    | storeCreate ctx row =>
      simp only [Op.onItems, MemoryStore.create_byID] at hitem
      split_ifs at hitem
      · cases hitem
        exact item_row hissues rfl rfl
      · exact h.items id item hitem
    | storeUpdate ctx row =>
      obtain rfl | hitem := st.items.eq_or_of_update row hitem
      · exact hissues
      · exact h.items id item hitem
    | _ => exact h.items id item hitem
  · intro id row hrow
    rw [hanswers.assignments] at hrow
    cases op with
    | assignmentCreate ctx new =>
      obtain rfl | hrow := st.assignments.eq_or_of_put _ _ hrow
      · exact hissues
      · exact h.rows id row hrow
    | assignmentUpdate ctx new =>
      simp only [Op.onAssignments, MemoryAssignmentStore.update] at hrow
      split_ifs at hrow
      · obtain rfl | hrow := st.assignments.eq_or_of_put _ _ hrow
        · exact hissues
        · exact h.rows id row hrow
      · exact h.rows id row hrow
    | _ => exact h.rows id row hrow
  · intro id n hn
    cases op with
    | notify ctx recipientUserID workItemID kind message =>
      simp only [exec, hnotify] at hn
      exact recipients_notify now ctx hissues workItemID kind message h.notifications id n hn
    | _ => exact h.notifications id n hn

end Step
end Roster
end OpsPlatform.Workitems
