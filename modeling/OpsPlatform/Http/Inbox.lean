import OpsPlatform.Auth.Service
import OpsPlatform.Http.Router
import OpsPlatform.Http.Evidence
import OpsPlatform.Workitems.Recipients

/-! Who can read the notifications of a run of requests: the recipient is chosen deep inside the
workflow, the roles at the routes. -/
namespace OpsPlatform.Http
open OpsPlatform.Go OpsPlatform.Workitems Interaction Program
open OpsPlatform.Auth (Role Principal MemoryUserStore principalFromUser)

/-- The ids accounts get: from the store, or as one of the bootstrap accounts. -/
def Issued (id : String) : Prop :=
  (∃ cfg, id ∈ (Auth.bootstrapSeedsFromConfig cfg).map (·.id)) ∨ ∃ n, id = Auth.userID n

lemma Issued.eq_or {id : String} (h : Issued id) :
    id = "user-admin-001" ∨ id = "user-assignee-001" ∨ id = "user-supervisor-001" ∨
      id = "user-requester-001" ∨ ∃ n, id = Auth.userID n := by
  obtain ⟨cfg,hid⟩ | hid := h
  · change id ∈ ["user-admin-001","user-assignee-001","user-supervisor-001",
      "user-requester-001"] at hid
    simp only [List.mem_cons, List.not_mem_nil, or_false] at hid
    tauto
  · tauto

lemma Issued.trimmed {id : String} (h : Issued id) : trimSpace id = id := by
  obtain rfl | rfl | rfl | rfl | ⟨n,rfl⟩ := h.eq_or
  case inr.inr.inr.inr => exact trimSpace_sprintf04d (by decide) n
  all_goals decide +kernel

lemma Issued.not_blank {id : String} (h : Issued id) : ¬ Blank id := by
  have hu : 'u' ∈ id.toList := by
    obtain rfl | rfl | rfl | rfl | ⟨n,rfl⟩ := h.eq_or
    case inr.inr.inr.inr => simp [Auth.userID, sprintf04d]
    all_goals decide +kernel
  exact not_blank_of_mem hu rfl

/-- An active, password-cleared, verified account that holds this one role. -/
def Account (users : MemoryUserStore) (id : String) (role : Role) : Prop :=
  Issued id ∧ ∃ user, users.findByID id = some user ∧ user.isActive = true ∧
    user.requiresPasswordChange = false ∧ user.emailVerified = true ∧ user.roles = [role]

/-- The accounts of a run, by what the stores and the notifier may know them as. -/
def roster (users : MemoryUserStore) : Roster where
  known id := ∃ role, Account users id role
  assignee id := Account users id .assignee
  notified id := ∃ role ∈ NotificationHandler.allowedRoles, Account users id role
  assignee_notified _ h := ⟨.assignee,by decide,h⟩
  trimmed _ := fun ⟨_,_,h⟩ => h.1.trimmed

section Judgements
variable {users : MemoryUserStore} {s : Service} {h : List (Event Op.Res)}

def Issues (users : MemoryUserStore) : Op → Prop
  | .work op => (roster users).Issues op
  | .attachments _ => True

def Answer (users : MemoryUserStore) : Event Op.Res → Prop
  | ⟨.work op,r⟩ => (roster users).Answer ⟨op,r⟩
  | ⟨.attachments _,_⟩ => True

/-- The handler names only accounts of the run, if the stores do. -/
def Keeps {α : Type} (users : MemoryUserStore) (p : H α) (h : List (Event Op.Res)) : Prop :=
  p.Ensures (fun _ e => Answer users e) (fun _ op => Issues users op) (fun _ _ => True) h

lemma keeps_ret {α : Type} (a : α) : Keeps users (ret a) h := (ensures_ret a).mpr trivial

lemma keeps_fail {α : Type} (e : Response) : Keeps users (fail e : H α) h :=
  (ensures_fail e).mpr trivial

lemma keeps_bind {α β : Type} {p : H α} {f : α → H β} (hp : Keeps users p h)
    (hf : ∀ a h', Keeps users (f a) h') : Keeps users (p >>= f) h :=
  Ensures.andThen hp fun h' a _ _ => hf a h'

lemma keeps_failIf {c : Prop} [Decidable c] {e : Response} : Keeps users (failIf c e) h :=
  (ensures_failIf c e).mpr ⟨fun _ => trivial,fun _ => trivial⟩

lemma keeps_require {α β : Type} {value : Option α} {status : ℕ} {text : String} {f : α → H β}
    (hf : ∀ a, value = some a → Keeps users (f a) h) :
    Keeps users (require value status text >>= f) h := ensures_require hf

lemma keeps_work {α : Type} {onError : Error → Response} {p : Workitems.M α}
    (hp : ∀ h, (roster users).Keeps p h) : Keeps users (work onError p) h :=
  ensures_translate workEvent (fun _ _ => rfl) (hp _) (fun _ _ _ _ hr => hr)
    (fun _ _ _ hop => hop) fun _ _ _ _ => trivial

/-- A service call and the response made of its result. -/
lemma keeps_call {α : Type} {onError : Error → Response} {p : Workitems.M α}
    {response : α → Response} (hp : ∀ h, (roster users).Keeps p h) :
    Keeps users (work onError p >>= fun a => ret (response a)) h :=
  keeps_bind (keeps_work hp) fun _ _ => keeps_ret _

lemma keeps_attachments {α : Type} (onError : Error → Response) (p : Attachments.M α) :
    Keeps users (attachments onError p) h := ensures_attachments (fun _ _ => trivial) onError p

lemma keeps_getByID (onError : Error → Response) (ctx : Context) (id caller : String)
    (admin supervisor requester : Bool) :
    Keeps users (work onError (s.getByID ctx id caller admin supervisor requester)) h :=
  keeps_work fun _ => Roster.keeps_of_silent (Roster.silent_of_reads
    (only_getByID ctx id caller admin supervisor requester))

lemma keeps_requireEvidence (r : Req ChangeStatusInput) (principal : Principal) :
    Keeps users ((⟨s⟩ : WorkItemHandler).requireEvidence r principal) h := by
  refine keeps_bind (keeps_getByID _ _ _ _ _ _ _) fun _ _ => ?_
  exact keeps_bind (keeps_attachments _ _) fun _ _ => keeps_failIf

/-- Work is assigned only to accounts that hold the assignee role. -/
def AssignsToAssignees (users : MemoryUserStore) : Request → Prop
  | .assign r => ∀ input, r.body = some input →
    Account users (trimSpace input.assignedToUserID) .assignee
  | _ => True

lemma keeps_changeStatus {onError : Error → Response} {response : WorkItem → Response}
    (hnil : s.txRunner = none) (ctx : Context) (id actor : String)
    (admin supervisor requester : Bool) (input : ChangeStatusInput) :
    Keeps users (work onError (s.changeStatus ctx id actor admin supervisor requester input) >>=
      fun item => ret (response item)) h :=
  keeps_call fun _ => Roster.keeps_changeStatus ctx hnil _ _ _ _ _ _

lemma keeps_respondToAssignment (hnil : s.txRunner = none) (r : Req RespondToAssignmentInput)
    (accept : Bool) : Keeps users ((⟨s⟩ : WorkItemHandler).respondToAssignment r accept) h :=
  keeps_require fun _ _ => keeps_require fun _ _ =>
    keeps_call fun _ => Roster.keeps_respondToAssignment r.ctx hnil _ _ _ _ _

/-- A request by an account names only accounts. -/
lemma keeps_program (hnil : s.txRunner = none) (request : Request)
    (hassigns : AssignsToAssignees users request) (principal : Principal)
    (hknown : (roster users).known principal.userID) :
    Keeps users ((request.withPrincipal principal).program s) h := by
  cases request with
  | create r =>
    refine keeps_require fun input _ => keeps_require ?_
    rintro _ ⟨⟩
    exact keeps_call fun _ => Roster.keeps_create r.ctx hknown input
  | update r =>
    refine keeps_require fun input _ => keeps_require fun _ _ => ?_
    exact keeps_call fun _ => Roster.keeps_update r.ctx _ _ _ _ _
  | changeStatus r =>
    refine keeps_require fun input _ => keeps_require fun principal _ => ?_
    split_ifs
    · exact keeps_bind (keeps_requireEvidence _ _) fun _ _ => keeps_changeStatus hnil _ _ _ _ _ _ _
    · rw [ret_bind]
      exact keeps_changeStatus hnil _ _ _ _ _ _ _
  | verify r =>
    refine keeps_require fun input _ => keeps_require fun _ _ => ?_
    exact keeps_changeStatus hnil _ _ _ _ _ _ _
  | flag r =>
    refine keeps_require fun input _ => keeps_bind keeps_failIf fun _ _ => ?_
    exact keeps_require fun _ _ => keeps_changeStatus hnil _ _ _ _ _ _ _
  | assign r =>
    refine keeps_require fun input hinput => keeps_require ?_
    rintro _ ⟨⟩
    exact keeps_call fun _ => Roster.keeps_assignWorkItem r.ctx hnil _ hknown _ _
      (hassigns input hinput)
  | acceptAssignment r => exact keeps_respondToAssignment hnil _ true
  | declineAssignment r => exact keeps_respondToAssignment hnil _ false
  | upload r =>
    refine keeps_require fun principal _ => keeps_bind (keeps_getByID _ _ _ _ _ _ _) fun _ _ => ?_
    refine keeps_require fun form _ => keeps_require fun file _ => ?_
    exact keeps_bind (keeps_attachments _ _) fun _ _ => keeps_ret _

/-- The caller of a request is an account, where its token names anyone. -/
def ByAccount (users : MemoryUserStore) (authorization : Authorization) : Prop :=
  ∀ userID, authorization = .bearer (some userID) → ∃ role, Account users userID role

lemma keeps_requireAuth {authorization : Authorization} {f : Principal → H Response}
    (haccount : ByAccount users authorization)
    (hf : ∀ principal, (roster users).known principal.userID → Keeps users (f principal) h) :
    Keeps users (requireAuth users authorization >>= f) h := by
  rcases authorization with _ | _ | userID
  · exact keeps_fail _
  · exact keeps_fail _
  obtain ⟨role,haccount⟩ := haccount userID rfl
  obtain ⟨-,user,hfind,hactive,-⟩ := id haccount
  simp only [requireAuth, hfind, if_pos hactive, ret_bind]
  refine hf _ ⟨role,?_⟩
  change Account users user.id role
  rwa [MemoryUserStore.id_of_findByID hfind]

/-- So does the whole route. -/
theorem keeps_route (hnil : s.txRunner = none) {authorization : Authorization} {request : Request}
    (haccount : ByAccount users authorization) (hassigns : AssignsToAssignees users request) :
    Keeps users (request.route users s authorization) h := by
  refine keeps_requireAuth haccount fun principal hknown => ?_
  have hgated (h : List (Event Op.Res)) : Keeps users (do
      requireRoles principal request.allowedRoles
      (request.withPrincipal principal).program s) h :=
    keeps_bind keeps_failIf fun _ _ => keeps_program hnil request hassigns principal hknown
  refine keeps_bind keeps_failIf fun _ h' => ?_
  split_ifs
  · exact keeps_bind keeps_failIf fun _ _ => hgated _
  · exact hgated h'

end Judgements

/-- The recipient reads the notification: its own list has it, in whatever order the rows are
visited, and it may be marked as read. -/
structure Readable (users : MemoryUserStore) (store : Notifications.MemoryStore)
    (n : Notifications.Notification) : Prop where
  listed : ∀ (r : Req Unit) (now : Time),
    (∃ x t, (NotificationHandler.route users (.bearer (some n.recipientUserID)) r
      fun r => NotificationHandler.list r false).Runs (Notifications.Answers now) store x t) ∧
    ∀ x t, (NotificationHandler.route users (.bearer (some n.recipientUserID)) r
      fun r => NotificationHandler.list r false).Runs (Notifications.Answers now) store x t →
      ∃ rows, x = .ok ⟨200,.notifications rows⟩ ∧ n ∈ rows
  marked : ∀ (r : Req Unit) (now : Time), r.id = n.id →
    ∃ row, ((NotificationHandler.route users (.bearer (some n.recipientUserID)) r
      NotificationHandler.markAsRead).run (Notifications.exec now) store).1 =
        .ok ⟨200,.notification row⟩ ∧ row.id = n.id

section Inbox
variable {users : MemoryUserStore} {store : Notifications.MemoryStore}
  {n : Notifications.Notification}

/-- The routes let an account of an admitted role through to the handler. -/
lemma route_of_account {id : String} {role : Role} (haccount : Account users id role)
    (hrole : role ∈ NotificationHandler.allowedRoles) (r : Req Unit)
    (handler : Req Unit → NotificationHandler.H Response) :
    ∃ principal, principal.userID = id ∧
      NotificationHandler.route users (.bearer (some id)) r handler =
        handler { r with principal := some principal } := by
  obtain ⟨-,user,hfind,hactive,hcleared,-,hroles⟩ := haccount
  have hany : (principalFromUser user).hasAnyRole NotificationHandler.allowedRoles = true := by
    simpa [Principal.hasAnyRole, Principal.hasRole, principalFromUser, hroles] using hrole
  refine ⟨principalFromUser user,MemoryUserStore.id_of_findByID hfind,?_⟩
  have hclear : (principalFromUser user).requiresPasswordChange = false := hcleared
  simp [NotificationHandler.route, requireAuth, hfind, hactive, requirePasswordChangeCleared,
    requireRoles, failIf, hclear, hany]

/-- A list of the recipient's rows has the notification, whatever the order of the visit. -/
lemma mem_list (hn : ∃ id, store.entries id = some n) {visited : List Notifications.Notification}
    (hvisited : store.Visits visited) : n ∈ Notifications.MemoryStore.listByRecipientUserID visited
      n.recipientUserID false := by
  obtain ⟨ids,-,hids,rfl⟩ := hvisited
  obtain ⟨id,hid⟩ := hn
  unfold Notifications.MemoryStore.listByRecipientUserID
  rw [(sliceStable_perm _ _).mem_iff, List.mem_filter]
  refine ⟨List.mem_filterMap.mpr ⟨id,(hids id).mpr (by simp [hid]),hid⟩,by simp⟩

lemma run_notifications {α : Type} (onError : Error → Response) (p : Notifications.M α) (now : Time)
    (store : Notifications.MemoryStore) :
    ((NotificationHandler.notifications onError p).run (Notifications.exec now) store).1 =
      (p.run (Notifications.exec now) store).1.mapError onError :=
  (run_translate (fun store => store) (fun _ => ()) (fun _ _ => ⟨rfl,rfl⟩) p store).1

lemma list_eq {r : Req Unit} {principal : Principal} (h : r.principal = some principal)
    (hblank : ¬ Blank principal.userID) : NotificationHandler.list r false =
      call (Notifications.Op.storeListByRecipientUserID r.ctx principal.userID false) fun x =>
        (fromResult x : Notifications.M _).translate (fun op => op) (fun _ r => r)
          (fun _ => ⟨500,.message "unable to fetch notifications"⟩) >>= fun list =>
            ret ⟨200,.notifications list⟩ := by
  have hguard : ¬ trimSpace principal.userID = "" := hblank
  simp [NotificationHandler.list, principalFromContext, h, require, Notifications.list,
    failIf_false hguard, NotificationHandler.notifications, Program.translate]

lemma markAsRead_eq {r : Req Unit} {principal : Principal} (h : r.principal = some principal) :
    ∃ onError, NotificationHandler.markAsRead r = NotificationHandler.notifications onError
      (Notifications.markAsRead r.ctx r.id principal.userID) >>= fun row =>
        ret ⟨200,.notification row⟩ := by
  unfold NotificationHandler.markAsRead
  simp only [principalFromContext, h, require, ret_bind, pure_eq]
  exact ⟨_,rfl⟩

/-- Whoever has an account of an admitted role reads the notifications it received. -/
theorem readable_of_account (hnumbered : store.Numbered) {id : String}
    (hn : store.entries id = some n) {role : Role} (haccount : Account users n.recipientUserID role)
    (hrole : role ∈ NotificationHandler.allowedRoles) : Readable users store n := by
  have hrecipient : ¬ Blank n.recipientUserID := haccount.1.not_blank
  constructor
  · intro r now
    obtain ⟨principal,huser,hroute⟩ := route_of_account haccount hrole r
      fun r => NotificationHandler.list r false
    rw [hroute, list_eq rfl (huser ▸ hrecipient), huser]
    constructor
    · exact ⟨_,store,.call ⟨rfl,store.rows,hnumbered.visits,rfl⟩ (.ret _ _)⟩
    · intro x t hruns
      cases hruns with
      | call hanswer hnext =>
        obtain ⟨rfl,visited,hvisited,rfl⟩ := hanswer
        cases hnext
        exact ⟨_,rfl,mem_list ⟨id,hn⟩ hvisited⟩
  · intro r now hid
    obtain ⟨principal,huser,hroute⟩ := route_of_account haccount hrole r
      NotificationHandler.markAsRead
    obtain ⟨hkey,k,-,-,hk⟩ := hnumbered id n hn
    have hnumber : ¬ Blank n.id := by
      unfold Blank
      rw [hkey, hk, Notifications.notificationID, trimSpace_sprintf04d (by decide)]
      simp [sprintf04d]
    obtain ⟨row,hrow,hsame⟩ :=
      Notifications.markAsRead_ok now r.ctx (hkey.symm ▸ hn) hnumber hrecipient
    rw [← hid, ← huser] at hrow
    obtain ⟨onError,hmark⟩ := markAsRead_eq (r := { r with principal := some principal }) rfl
    have hanswer := run_notifications onError
      (Notifications.markAsRead r.ctx r.id principal.userID) now store
    rw [hrow] at hanswer
    refine ⟨row,?_,hsame⟩
    rw [hroute, hmark, run_bind_ok _ (Prod.ext hanswer rfl), run_ret]

end Inbox

/-- A request as it reaches its route. -/
structure Sent where
  authorization : Authorization
  request : Request

/-- All requests at their routes, on empty stores. -/
def beginRoutes {ι : Type} (users : MemoryUserStore) (s : Service) (sent : ι → Sent) :
    Requests ι :=
  Pool.start .empty fun i => (sent i).request.route users s (sent i).authorization

/-- One atomic call where the notifier is the notification service on its in-memory store. -/
def Notifying (op : Op) (st : State) (r : op.Res) (st' : State) : Prop :=
  ∃ (env : Env) (now : Time), env.work.notify = Notifications.notifyMemory now ∧
    exec env op st = (r,st')

lemma Notifying.answers {op : Op} {st st' : State} {r : op.Res} (h : Notifying op st r st') :
    Answers op st r st' := by
  obtain ⟨env,-,-,h⟩ := h
  exact ⟨env,h⟩

/-- Nobody waits for the event of this call who may not read about it: an item goes to review only
if its creator's account has a role the inbox admits, an assignment is accepted only if its
assigner's has. -/
def Awaits (users : MemoryUserStore) : Op → Prop
  | .work op => (roster users).Awaits op
  | .attachments _ => True

/-- Every request names accounts only, and so do the stores. -/
structure Deliverable {ι : Type} (users : MemoryUserStore) (p : Requests ι) : Prop where
  keeps : ∀ i, Keeps users (p.thread i) (p.seen i)
  holds : (roster users).Holds p.state.work
  numbered : p.state.work.notifications.Numbered

section Pool
variable {ι : Type} {users : MemoryUserStore} {p q : Requests ι} {l : ι × Event Op.Res}

theorem beginRoutes_deliverable (hasTeamAuthority : Bool) {sent : ι → Sent}
    (haccount : ∀ i, ByAccount users (sent i).authorization)
    (hassigns : ∀ i, AssignsToAssignees users (sent i).request) :
    Deliverable users (beginRoutes users (.inMemory true hasTeamAuthority) sent) :=
  ⟨fun i => keeps_route rfl (haccount i) (hassigns i),(roster users).empty_holds,
    Notifications.MemoryStore.new_numbered⟩

lemma numbered_of_answers {op : Workitems.Op} {st st' : Workitems.State} {r : op.Res}
    (h : st.notifications.Numbered) {env : Workitems.Env} {now : Time}
    (hnotify : env.notify = Notifications.notifyMemory now)
    (hanswer : Workitems.exec env op st = (r,st')) : st'.notifications.Numbered := by
  obtain rfl : (Workitems.exec env op st).2 = st' := congrArg Prod.snd hanswer
  cases op with
  | notify ctx recipientUserID workItemID kind message =>
    simp only [Workitems.exec, hnotify]
    exact h.notifyMemory now ctx recipientUserID workItemID kind message
  | _ => exact h

variable [DecidableEq ι]

/-- The step lemma: where the event has a reader, the next state names accounts only. -/
theorem Deliverable.step (h : Deliverable users p) (hstep : Pool.Step Notifying p l q)
    (hawaits : Awaits users l.2.op) : Deliverable users q := by
  obtain ⟨env,now,hnotify,hexec⟩ := hstep.answered
  obtain ⟨i,op | op,r⟩ := l
  · have hwork : Workitems.exec env.work op p.state.work = (r,q.state.work) :=
      Prod.ext (congrArg Prod.fst hexec :) (congrArg (fun x => x.2.work) hexec :)
    obtain ⟨hissues,hkeeps⟩ := hstep.ensures h.keeps (h.holds.answer hawaits ⟨env.work,hwork⟩)
    exact ⟨hkeeps,h.holds.step hissues hnotify hwork,numbered_of_answers h.numbered hnotify hwork⟩
  · obtain ⟨-,hkeeps⟩ := hstep.ensures h.keeps trivial
    have hsame : q.state.work = p.state.work := Answers.work_eq ⟨env,hexec⟩
    exact ⟨hkeeps,hsame ▸ h.holds,hsame ▸ h.numbered⟩

theorem notifications_readable (hasTeamAuthority : Bool) (sent : ι → Sent)
    (haccount : ∀ i, ByAccount users (sent i).authorization)
    (hassigns : ∀ i, AssignsToAssignees users (sent i).request) {ls : List (ι × Event Op.Res)}
    (h : Trace (fun p l q => Pool.Step Notifying p l q ∧ Awaits users l.2.op)
      (beginRoutes users (.inMemory true hasTeamAuthority) sent) ls p)
    (id : String) (n : Notifications.Notification)
    (hn : p.state.work.notifications.entries id = some n) :
    (∃ role ∈ NotificationHandler.allowedRoles, Account users n.recipientUserID role) ∧
      Readable users p.state.work.notifications n := by
  have hrun := h.inv (I := fun _ p => Deliverable users p)
    (beginRoutes_deliverable hasTeamAuthority haccount hassigns)
    fun _ _ _ _ hp hl => hp.step hl.1 hl.2
  obtain ⟨role,hrole,haccount⟩ := hrun.holds.notifications id n hn
  exact ⟨⟨role,hrole,haccount⟩,readable_of_account hrun.numbered hn haccount hrole⟩

end Pool

/-- The row of an account in good standing that holds one role. -/
def account (id : String) (role : Role) : Auth.User where
  id := id
  identifier := id ++ "@ops.local"
  displayName := id
  roles := [role]
  isActive := true
  authProvider := .local
  emailVerified := true

def staff : MemoryUserStore :=
  ⟨0,[account "user-admin-001" .admin,account "user-assignee-001" .assignee,
    account "user-supervisor-001" .supervisor]⟩

lemma staff_issued {id : String} (h : id ∈ ["user-admin-001","user-assignee-001",
    "user-supervisor-001","user-requester-001"]) : Issued id :=
  .inl ⟨⟨⟨"","",""⟩,⟨"","",""⟩,⟨"","",""⟩,⟨"","",""⟩⟩,h⟩

lemma staff_admin : Account staff "user-admin-001" .admin :=
  ⟨staff_issued (by simp),_,rfl,rfl,rfl,rfl,rfl⟩

lemma staff_assignee : Account staff "user-assignee-001" .assignee :=
  ⟨staff_issued (by simp),_,rfl,rfl,rfl,rfl,rfl⟩

lemma staff_supervisor : Account staff "user-supervisor-001" .supervisor :=
  ⟨staff_issued (by simp),_,rfl,rfl,rfl,rfl,rfl⟩

/-- A work item created and assigned by one account, and accepted by the assignee. -/
def acceptance (creator : String) : ℕ → Sent
  | 0 => ⟨.bearer (some creator),.create ⟨background,"",none,
      some ⟨"Repair pump","Pump 4 leaks",.high,none,none⟩⟩⟩
  | 1 => ⟨.bearer (some creator),
      .assign ⟨background,"workitem-0001",none,some ⟨"user-assignee-001"⟩⟩⟩
  | _ => ⟨.bearer (some "user-assignee-001"),
      .acceptAssignment ⟨background,"workitem-0001",none,some ⟨none⟩⟩⟩

lemma acceptance_byAccount {creator : String} {role : Role} (h : Account staff creator role)
    (i : ℕ) : ByAccount staff (acceptance creator i).authorization := by
  intro id hid
  match i with
  | 0 => cases hid; exact ⟨role,h⟩
  | 1 => cases hid; exact ⟨role,h⟩
  | n+2 => cases hid; exact ⟨.assignee,staff_assignee⟩

lemma acceptance_assigns (creator : String) (i : ℕ) :
    AssignsToAssignees staff (acceptance creator i).request := by
  match i with
  | 0 => trivial
  | 1 =>
    rintro input ⟨⟩
    exact staff_assignee
  | n+2 => trivial

/-- A world in which every assignee is supervised by every supervisor. -/
def supervised : Env :=
  { working with work := { working.work with isActiveSupervisorOf := fun _ _ => .ok true } }

lemma supervised_notifying (op : Op) (st : State) :
    Notifying op st (exec supervised op st).1 (exec supervised op st).2 := ⟨supervised,7,rfl,rfl⟩

/-- The run of an acceptance, one request after the other. -/
def accepted (creator : String) : List (ℕ × Event Op.Res) × Requests ℕ :=
  (beginRoutes staff (.inMemory true true) (acceptance creator)).play (exec supervised)
    ([0,1,2].flatMap (List.replicate 12))

lemma accepted_trace (creator : String) :
    Trace (Pool.Step Notifying) (beginRoutes staff (.inMemory true true) (acceptance creator))
      (accepted creator).1 (accepted creator).2 :=
  (Pool.trace_play supervised_notifying _ _ _ (Pool.passes_true _ _)).imp fun _ _ _ h => h.1

/-- Whoever may wait for the event of this call is the admin. -/
def adminWaits : Op → Bool
  | .work (.storeUpdate _ item) => item.createdByUserID = "user-admin-001"
  | .work (.assignmentUpdate _ row) => row.assignedByUserID = "user-admin-001"
  | _ => true

lemma awaits_of_adminWaits {op : Op} (h : adminWaits op = true) : Awaits staff op := by
  have hnotified : (roster staff).notified "user-admin-001" := ⟨.admin,by decide,staff_admin⟩
  rcases op with op | op
  · cases op with
    | storeUpdate ctx item =>
      have hcreator : item.createdByUserID = "user-admin-001" := of_decide_eq_true h
      exact fun _ => hcreator ▸ hnotified
    | assignmentUpdate ctx row =>
      have hassigner : row.assignedByUserID = "user-admin-001" := of_decide_eq_true h
      exact fun _ => hassigner ▸ hnotified
    | _ => trivial
  · trivial

theorem notifications_readable_admin :
    ∃ n, (accepted "user-admin-001").2.state.work.notifications.entries "notification-0002" =
        some n ∧ n.kind = "assignment_accepted" ∧
      Readable staff (accepted "user-admin-001").2.state.work.notifications n := by
  have hrun := Pool.trace_play supervised_notifying (fun _ l => adminWaits l.2.op)
    (beginRoutes staff (.inMemory true true) (acceptance "user-admin-001"))
    ([0,1,2].flatMap (List.replicate 12)) (by decide +kernel)
  have hkind : ((accepted "user-admin-001").2.state.work.notifications.entries
      "notification-0002").map (·.kind) = some "assignment_accepted" := by decide +kernel
  obtain ⟨n,hn,hkind⟩ := Option.map_eq_some_iff.mp hkind
  exact ⟨n,hn,hkind,(notifications_readable true (acceptance "user-admin-001")
    (acceptance_byAccount staff_admin) (acceptance_assigns _)
    (hrun.imp fun _ _ _ h => ⟨h.1,awaits_of_adminWaits h.2⟩) _ n hn).2⟩

/-- What the assignee accepted is told to a supervisor whom no inbox lets in. -/
theorem supervisor_reads_nothing :
    (∀ i, ByAccount staff (acceptance "user-supervisor-001" i).authorization) ∧
    (∀ i, AssignsToAssignees staff (acceptance "user-supervisor-001" i).request) ∧
    Trace (Pool.Step Notifying)
      (beginRoutes staff (.inMemory true true) (acceptance "user-supervisor-001"))
      (accepted "user-supervisor-001").1 (accepted "user-supervisor-001").2 ∧
    ∃ n, (accepted "user-supervisor-001").2.state.work.notifications.entries "notification-0002" =
        some n ∧ Account staff n.recipientUserID .supervisor ∧
      (∀ r handler, NotificationHandler.route staff (.bearer (some n.recipientUserID)) r handler =
        fail ⟨403,.message "insufficient permissions"⟩) ∧
      ¬ Readable staff (accepted "user-supervisor-001").2.state.work.notifications n := by
  refine ⟨acceptance_byAccount staff_supervisor,acceptance_assigns _,accepted_trace _,?_⟩
  have hrecipient : ((accepted "user-supervisor-001").2.state.work.notifications.entries
      "notification-0002").map (·.recipientUserID) = some "user-supervisor-001" := by decide +kernel
  obtain ⟨n,hn,hrecipient⟩ := Option.map_eq_some_iff.mp hrecipient
  have hroute (r : Req Unit) (handler : Req Unit → NotificationHandler.H Response) :
      NotificationHandler.route staff (.bearer (some n.recipientUserID)) r handler =
        fail ⟨403,.message "insufficient permissions"⟩ := by
    rw [hrecipient]; rfl
  refine ⟨n,hn,hrecipient ▸ staff_supervisor,hroute,fun hreadable => ?_⟩
  obtain ⟨⟨x,t,hruns⟩,hlisted⟩ := hreadable.listed ⟨background,"",none,none⟩ 0
  obtain ⟨rows,rfl,-⟩ := hlisted x t hruns
  rw [hroute] at hruns
  cases hruns

end OpsPlatform.Http
