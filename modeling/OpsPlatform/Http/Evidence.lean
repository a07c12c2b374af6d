import OpsPlatform.Http.Handlers
import OpsPlatform.Workitems.Concurrent

/-! Evidence before review, over every interleaving of the handlers. What a request has seen stays
true because attachments are never removed, so a check made long before the write still counts. -/
namespace OpsPlatform.Http
open OpsPlatform.Go OpsPlatform.Workitems Interaction Program
open OpsPlatform.Auth (Role Principal)

/-- The statuses from the submission for review on. -/
def Reviewed (status : Status) : Prop :=
  status ∈ [Status.submittedForReview,.flagged,.verified,.completed]

instance (status : Status) : Decidable (Reviewed status) := inferInstanceAs (Decidable (_ ∈ _))

/-- Every work item under or past review has an attachment. -/
def Evidence (st : State) : Prop :=
  ∀ id item, st.work.items.byID id = some item → Reviewed item.status → st.attachments.Has id

def workEvent : Event Op.Res → Option (Event Workitems.Op.Res)
  | ⟨.work op,r⟩ => some ⟨op,r⟩
  | _ => none

def attachmentEvent : Event Op.Res → Option (Event Attachments.Op.Res)
  | ⟨.attachments op,r⟩ => some ⟨op,r⟩
  | _ => none

/-- The request has read `item` under `id`. -/
def Read (h : List (Event Op.Res)) (id : String) (item : WorkItem) : Prop :=
  ∃ ctx, ⟨.work (.storeGetByID ctx id),.ok item⟩ ∈ h

/-- The request has listed attachments of `id`. -/
def Listed (h : List (Event Op.Res)) (id : String) : Prop :=
  ∃ ctx rows, rows ≠ [] ∧ ⟨.attachments (.storeListByWorkItemID ctx id),.ok rows⟩ ∈ h

/-- What a request may write, having seen `h`. -/
def May (h : List (Event Op.Res)) : Op → Prop
  | .work (.storeCreate _ row) => ¬ Reviewed row.status
  | .work (.storeUpdate _ row) => ∃ id item, Read h id item ∧ row.id = item.id ∧
    (Reviewed row.status → Reviewed item.status ∨ Listed h id)
  | _ => True

/-- Only a submission brings a work item under review. -/
lemma reviewed_of_move {src dst : Status} (hmove : isValidTransition src dst = true)
    (hdst : Reviewed dst) : Reviewed src ∨ dst = .submittedForReview := by
  simp only [Reviewed, List.mem_cons, List.not_mem_nil, or_false] at hdst
  rcases hdst with rfl | rfl | rfl | rfl
  · exact .inr rfl
  all_goals
    left
    cases src <;> first | decide | cases hmove

/-- The call submits its work item for review. -/
def Submits : Call → Prop
  | .changeStatus _ _ _ _ _ input => input.toStatus = .submittedForReview
  | _ => False

lemma reviewed_of_rewrites {c : Call} {item row : WorkItem} (h : c.Rewrites item row)
    (hreviewed : Reviewed row.status) : Reviewed item.status ∨ Submits c := by
  obtain ⟨-,hedit,hmove⟩ := h.status
  cases hkind : c.edits with
  | true => exact .inl ((hedit hkind).1 ▸ hreviewed)
  | false =>
    refine (reviewed_of_move (hmove hkind) hreviewed).imp_right fun hstatus => ?_
    cases c with
    | update => cases hkind
    | changeStatus =>
      obtain ⟨-,now,rfl⟩ := h
      exact hstatus
    | assignWorkItem =>
      obtain ⟨-,-,now,rfl⟩ := h
      cases hstatus
    | respondToAssignment _ _ _ accept =>
      obtain ⟨-,now,rfl⟩ := h
      cases accept <;> cases hstatus
    | _ => exact h.elim

section Judgements
variable {s : Service} {h : List (Event Op.Res)} {R : List (Event Op.Res) → Event Op.Res → Prop}

lemma listed_mono {h' : List (Event Op.Res)} {id : String} (hh : h <+: h')
    (hlisted : Listed h id) : Listed h' id := by
  obtain ⟨ctx,rows,hrows,hmem⟩ := hlisted
  exact ⟨ctx,rows,hrows,hh.subset hmem⟩

/-- A service call inside a handler: submitting needs attachments listed before. -/
lemma ensures_work {α : Type} {onError : Error → Response} {p : Workitems.M α} {c : Call}
    {f : α → Reply} {ctx : Context} (hnil : s.txRunner = none) (hp : c.program s ctx = f <$> p)
    (hsubmits : Submits c → ∃ id, c.target = some id ∧ Listed h id) :
    (work onError p).Ensures R May (fun h' _ => h <+: h') h := by
  have hmay := program_may (R := fun _ _ => True) (h := h.filterMap workEvent) ctx hnil c
  rw [hp, ensures_map] at hmay
  refine ensures_translate workEvent (fun _ _ => rfl) hmay (fun _ _ _ _ _ => trivial) ?_ ?_
  · intro h' op hh' hop
    cases op with
    | storeCreate ctx row =>
      obtain ⟨createdByUserID,input,now,-,-,rfl⟩ := hop
      exact (by decide : ¬ Reviewed .created)
    | storeUpdate ctx row =>
      obtain ⟨item,⟨ctx',id,hid,hread⟩,hrewrites⟩ := hop
      obtain ⟨⟨op | op,r⟩,he,heq⟩ := List.mem_filterMap.mp hread
      · cases heq
        refine ⟨id,item,⟨ctx',he⟩,hrewrites.status.1,fun hreviewed => ?_⟩
        refine (reviewed_of_rewrites hrewrites hreviewed).imp_right fun hsub => ?_
        obtain ⟨id',hid',hlisted⟩ := hsubmits hsub
        obtain rfl := Option.some.inj (hid.symm.trans hid')
        exact listed_mono hh' hlisted
      · cases heq
    | _ => trivial
  · exact fun h' x hh' _ => hh'

lemma ensures_work_bind {α β : Type} {onError : Error → Response} {p : Workitems.M α} {c : Call}
    {f : α → Reply} {ctx : Context} (hnil : s.txRunner = none) (hp : c.program s ctx = f <$> p)
    (hsubmits : Submits c → ∃ id, c.target = some id ∧ Listed h id) {k : α → H β}
    (hk : ∀ h' a, (k a).Ensures R May (fun _ _ => True) h') :
    (work onError p >>= k).Ensures R May (fun _ _ => True) h :=
  (ensures_work hnil hp hsubmits).andThen fun h' a _ _ => hk h' a

lemma ensures_require {α β : Type} {P : List (Event Op.Res) → Op → Prop} {value : Option α}
    {status : ℕ} {text : String} {k : α → H β}
    (hk : ∀ a, value = some a → (k a).Ensures R P (fun _ _ => True) h) :
    (require value status text >>= k).Ensures R P (fun _ _ => True) h := by
  cases value with
  | none => exact (ensures_fail _).mpr trivial
  | some a => exact hk a rfl

/-- The attachment service stays within limits that do not concern it. -/
lemma ensures_attachments {α : Type} {P : List (Event Op.Res) → Op → Prop}
    (hP : ∀ h op, P h (.attachments op)) (onError : Error → Response) (p : Attachments.M α) :
    (attachments onError p).Ensures R P (fun _ _ => True) h :=
  ensures_translate attachmentEvent (fun _ _ => rfl) (ensures_trivial p _)
    (R := fun _ _ => True) (fun _ _ _ _ _ => trivial) (fun h' op _ _ => hP h' op)
    fun _ _ _ _ => trivial

lemma ensures_list (onError : Error → Response) (ctx : Context) (id : String) :
    (attachments onError (Attachments.list ctx id)).Ensures R May
      (fun h' x => ∀ rows, x = .ok rows → rows ≠ [] → Listed h' id) h := by
  have hlist (h : List (Event Attachments.Op.Res)) : (Attachments.list ctx id).Ensures
      (fun _ _ => True) (fun _ _ => True)
      (fun h' x => ∀ rows, x = .ok rows → ⟨.storeListByWorkItemID ctx id,.ok rows⟩ ∈ h') h := by
    unfold Attachments.list
    rw [ensures_failIf_bind]
    refine ⟨by simp,fun _ => ?_⟩
    rw [ensures_call]
    refine ⟨trivial,fun r _ => ?_⟩
    rw [ensures_fromResult]
    rintro rows rfl
    simp
  refine ensures_translate attachmentEvent (fun _ _ => rfl) (hlist _) (fun _ _ _ _ _ => trivial)
    (fun _ _ _ _ => trivial) ?_
  intro h' x _ hx rows hrows hne
  cases x with
  | error e => cases hrows
  | ok rows' =>
    obtain ⟨⟨op | op,r⟩,he,heq⟩ := List.mem_filterMap.mp (hx rows' rfl)
    · cases heq
    · cases heq
      cases hrows
      exact ⟨ctx,rows,hne,he⟩

/-- Who gets past the check has seen an attachment. -/
lemma ensures_requireEvidence (hnil : s.txRunner = none) (r : Req ChangeStatusInput)
    (principal : Principal) :
    ((⟨s⟩ : WorkItemHandler).requireEvidence r principal).Ensures R May
      (fun h' x => x = .ok () → Listed h' r.id) h := by
  unfold WorkItemHandler.requireEvidence
  rw [ensures_bind]
  refine (ensures_work (c := .getByID r.id principal.userID (principal.hasRole .admin)
    (principal.hasRole .supervisor) false) hnil rfl False.elim).imp (fun _ _ h => h) ?_
  intro h' x _ _
  cases x with
  | error e => rintro ⟨⟩
  | ok item =>
    dsimp only
    rw [ensures_bind]
    refine (ensures_list _ r.ctx r.id).imp (fun _ _ h => h) fun h' x _ hlisted => ?_
    cases x with
    | error e => rintro ⟨⟩
    | ok rows =>
      dsimp only
      rw [ensures_failIf]
      refine ⟨by simp,fun hrows _ => hlisted rows rfl ?_⟩
      rintro rfl
      exact hrows rfl

/-- A change of status is within the limits if it submits nothing without a listing. -/
lemma ensures_changeStatus {onError : Error → Response} {response : WorkItem → Response}
    (hnil : s.txRunner = none) {ctx : Context} {id actor : String}
    {admin supervisor requester : Bool} {input : ChangeStatusInput}
    (hlisted : input.toStatus = .submittedForReview → Listed h id) :
    (work onError (s.changeStatus ctx id actor admin supervisor requester input) >>=
      fun item => ret (response item)).Ensures R May (fun _ _ => True) h :=
  ensures_work_bind (c := .changeStatus id actor admin supervisor requester input) hnil rfl
    (fun hsub => ⟨id,rfl,hlisted hsub⟩) fun _ _ => (ensures_ret _).mpr trivial

lemma ensures_respondToAssignment (hnil : s.txRunner = none) (r : Req RespondToAssignmentInput)
    (accept : Bool) : ((⟨s⟩ : WorkItemHandler).respondToAssignment r accept).Ensures R May
      (fun _ _ => True) h := by
  refine ensures_require fun input _ => ensures_require fun principal _ => ?_
  exact ensures_work_bind (c := .respondToAssignment r.id principal.userID
    (principal.hasRole .requester) accept input) hnil rfl False.elim
    fun _ _ => (ensures_ret _).mpr trivial

/-- Every request keeps within its limits, whatever it is answered. -/
theorem request_may (hnil : s.txRunner = none) (r : Request) :
    (r.program s).Ensures R May (fun _ _ => True) h := by
  have hdone {h' : List (Event Op.Res)} (response : Response) :
      (ret response : H Response).Ensures R May (fun _ _ => True) h' := (ensures_ret _).mpr trivial
  cases r with
  | create r =>
    refine ensures_require fun input _ => ensures_require fun principal _ => ?_
    exact ensures_work_bind (c := .create principal.userID input) hnil rfl False.elim
      fun _ _ => hdone _
  | update r =>
    refine ensures_require fun input _ => ensures_require fun principal _ => ?_
    exact ensures_work_bind (c := .update r.id principal.userID (principal.hasRole .admin)
      (principal.hasRole .supervisor) input) hnil rfl False.elim fun _ _ => hdone _
  | changeStatus r =>
    refine ensures_require fun input _ => ensures_require fun principal _ => ?_
    split_ifs with hsub
    · refine (ensures_requireEvidence hnil r principal).andThen fun h' _ _ hlisted => ?_
      exact ensures_changeStatus hnil fun _ => hlisted rfl
    · rw [ret_bind]
      exact ensures_changeStatus hnil fun hsub' => (hsub hsub').elim
  | verify r =>
    refine ensures_require fun input _ => ensures_require fun principal _ => ?_
    exact ensures_changeStatus hnil (by rintro ⟨⟩)
  | flag r =>
    refine ensures_require fun input _ => ?_
    refine ensures_failIf_andThen fun _ => ensures_require fun principal _ => ?_
    exact ensures_changeStatus hnil (by rintro ⟨⟩)
  | assign r =>
    refine ensures_require fun input _ => ensures_require fun principal _ => ?_
    exact ensures_work_bind (c := .assignWorkItem r.id principal.userID (principal.hasRole .admin)
      (principal.hasRole .supervisor) input) hnil rfl False.elim fun _ _ => hdone _
  | acceptAssignment r => exact ensures_respondToAssignment hnil r true
  | declineAssignment r => exact ensures_respondToAssignment hnil r false
  | upload r =>
    refine ensures_require fun principal _ => ?_
    refine ensures_work_bind (c := .getByID r.id principal.userID (principal.hasRole .admin)
      (principal.hasRole .supervisor) false) hnil rfl False.elim fun _ _ => ?_
    refine ensures_require fun form _ => ensures_require fun file _ => ?_
    exact (ensures_attachments (fun _ _ => trivial) _ _).andThen fun _ _ _ _ => hdone _

end Judgements

/-- What a request has seen is still true of the attachments. -/
def Holds (st : State) : Event Op.Res → Prop
  | ⟨.work (.storeGetByID _ id),.ok item⟩ =>
    item.id = id ∧ (Reviewed item.status → st.attachments.Has id)
  | ⟨.attachments (.storeListByWorkItemID _ id),.ok rows⟩ => rows ≠ [] → st.attachments.Has id
  | _ => True

section Step
variable {op : Op} {st st' : State} {r : op.Res}

lemma Answers.has (h : Answers op st r st') {id : String} (hid : st.attachments.Has id) :
    st'.attachments.Has id := by
  obtain ⟨env,h⟩ := h
  obtain rfl : (exec env op st).2 = st' := congrArg Prod.snd h
  rcases op with op | op
  · exact hid
  cases op with
  | storeCreate ctx attachment => exact hid.create attachment
  | _ => exact hid

lemma Answers.work {op : Workitems.Op} {r : op.Res} (h : Answers (.work op) st r st') :
    Workitems.Answers op st.work r st'.work := by
  obtain ⟨env,h⟩ := h
  have hres : (Workitems.exec env.work op st.work).1 = r := congrArg Prod.fst h
  have hstate : (Workitems.exec env.work op st.work).2 = st'.work := congrArg (fun x => x.2.work) h
  exact ⟨env.work,Prod.ext hres hstate⟩

lemma Answers.work_eq {op : Attachments.Op} {r : op.Res} (h : Answers (.attachments op) st r st') :
    st'.work = st.work := by
  obtain ⟨env,h⟩ := h
  obtain rfl : (exec env (.attachments op) st).2 = st' := congrArg Prod.snd h
  cases op <;> rfl

lemma Holds.mono {e : Event Op.Res} (he : Holds st e) (h : Answers op st r st') : Holds st' e := by
  unfold Holds at he ⊢
  split
  · exact ⟨he.1,fun hreviewed => h.has (he.2 hreviewed)⟩
  · exact fun hrows => h.has (he hrows)
  · trivial

/-- An answer holds when it is given. -/
lemma holds_of_answer (hevidence : Evidence st) (h : Answers op st r st') : Holds st ⟨op,r⟩ := by
  rcases op with op | op
  · cases op with
    | storeGetByID ctx id =>
      rcases r with e | item
      · trivial
      · obtain ⟨env,h⟩ := h
        have hget : st.work.items.getByID id = .ok item := congrArg Prod.fst h
        rw [MemoryStore.getByID_eq_ok] at hget
        exact ⟨st.work.items.keyed hget,hevidence id item hget⟩
    | _ => trivial
  · cases op with
    | storeListByWorkItemID ctx id =>
      rcases r with e | rows
      · trivial
      · obtain ⟨env,h⟩ := h
        have hlist : st.attachments.listByWorkItemID id = .ok rows := congrArg Prod.fst h
        exact Attachments.MemoryStore.has_of_listByWorkItemID hlist
    | _ => trivial

end Step

section Pool
variable {ι : Type} {p q : Requests ι} {l : ι × Event Op.Res}

/-- Evidence for every work item, and nothing in the hands of a request that would break it. -/
structure Supported (p : Requests ι) : Prop where
  limited : ∀ i, (p.thread i).Ensures (fun _ _ => True) May (fun _ _ => True) (p.seen i)
  evidence : Evidence p.state
  seen : ∀ i, ∀ e ∈ p.seen i, Holds p.state e

/-- A row a request may write has its evidence already. -/
lemma Supported.has_of_may (h : Supported p) {i : ι} {ctx : Context} {row : WorkItem}
    (hmay : May (p.seen i) (.work (.storeUpdate ctx row))) (hreviewed : Reviewed row.status) :
    p.state.attachments.Has row.id := by
  obtain ⟨id,item,⟨ctx',hread⟩,hid,hwhy⟩ := hmay
  obtain ⟨hkey,hitem⟩ := h.seen i _ hread
  rw [hid, hkey]
  rcases hwhy hreviewed with hitem' | ⟨ctx'',rows,hrows,hlisted⟩
  · exact hitem hitem'
  · exact h.seen i _ hlisted hrows

theorem begin_supported (hasNotifier hasTeamAuthority : Bool) (requests : ι → Request) :
    Supported (begin (.inMemory hasNotifier hasTeamAuthority) requests .empty) :=
  ⟨fun i => request_may rfl (requests i),fun _ _ h => (Option.some_ne_none _ h.symm).elim,
    fun _ _ => List.not_mem_nil.elim⟩

variable [DecidableEq ι]

/-- The step lemma: no step leaves a reviewed work item without an attachment. -/
theorem Supported.step (h : Supported p) (hstep : Pool.Step Answers p l q) : Supported q := by
  obtain ⟨hmay,hlimited⟩ := hstep.ensures h.limited trivial
  have hanswer := hstep.answered
  have hholds := holds_of_answer h.evidence hanswer
  refine ⟨hlimited,?_,?_⟩
  · intro id item hitem hreviewed
    apply hanswer.has
    obtain ⟨i,op | op,r⟩ := l
    · rw [hanswer.work.items] at hitem
      cases op with
      | storeCreate ctx row =>
        simp only [Op.onItems, MemoryStore.create_byID] at hitem
        split_ifs at hitem
        · cases hitem
          exact (hmay hreviewed).elim
        · exact h.evidence id item hitem hreviewed
      | storeUpdate ctx row =>
        -- the row may be stale, the evidence behind it is not
        have hkey := (p.state.work.items.update row).2.keyed hitem
        rcases p.state.work.items.eq_or_of_update row hitem with rfl | hitem
        · exact hkey ▸ h.has_of_may hmay hreviewed
        · exact h.evidence id item hitem hreviewed
      | _ => exact h.evidence id item hitem hreviewed
    · rw [hanswer.work_eq] at hitem
      exact h.evidence id item hitem hreviewed
  · intro i e he
    rw [hstep.seen, Function.update_apply] at he
    split_ifs at he with hi
    · rcases List.mem_append.mp he with he | he
      · exact (h.seen l.1 e he).mono hanswer
      · rw [List.mem_singleton.mp he]
        exact hholds.mono hanswer
    · exact (h.seen i e he).mono hanswer

theorem evidence_before_review (hasNotifier hasTeamAuthority : Bool) (requests : ι → Request)
    {ls : List (ι × Event Op.Res)} (h : Trace (Pool.Step Answers)
      (begin (.inMemory hasNotifier hasTeamAuthority) requests .empty) ls p)
    (id : String) (item : WorkItem) (hitem : p.state.work.items.byID id = some item)
    (hreviewed : item.status ∈ [Status.submittedForReview,.flagged,.verified,.completed]) :
    ∃ attachment ∈ p.state.attachments.entries, attachment.workItemID = item.id := by
  have hrun := h.inv (I := fun _ p => Supported p)
    (begin_supported hasNotifier hasTeamAuthority requests) fun _ _ _ _ hp hl => hp.step hl
  rw [p.state.work.items.keyed hitem]
  exact hrun.evidence id item hitem hreviewed

end Pool

/-- A clock that stands still, an authority over nobody, a notifier and a storage that work. -/
def working : Env where
  work := ⟨7,fun _ _ => .ok false,fun _ => .ok [],Notifications.notifyMemory 7⟩
  save _ filename content := .ok (filename,content.length)

lemma working_answers (op : Op) (st : State) :
    Answers op st (exec working op st).1 (exec working op st).2 := ⟨working,rfl⟩

/-- The principal of an account in good standing that holds one role. -/
def holder (userID : String) (role : Role) : Principal where
  userID := userID
  identifier := userID ++ "@ops.local"
  displayName := userID
  roles := [role]
  requiresPasswordChange := false
  emailVerified := true

def admin : Principal := holder "admin-1" .admin

def worker : Principal := holder "worker-1" .assignee

/-- The life of a work item up to its submission, one request for each stage. -/
def submission : ℕ → Request
  | 0 => .create ⟨background,"",some admin,
      some ⟨"Repair pump","Pump 4 leaks",.high,none,none⟩⟩
  | 1 => .assign ⟨background,"workitem-0001",some admin,some ⟨"worker-1"⟩⟩
  | 2 => .acceptAssignment ⟨background,"workitem-0001",some worker,some ⟨none⟩⟩
  | 3 => .changeStatus ⟨background,"workitem-0001",some worker,some ⟨.inProgress,none⟩⟩
  | 4 => .upload ⟨background,"workitem-0001",some worker,
      some ⟨some ⟨"image/jpeg","pump.jpg",[1,2,3]⟩,.evidencePhoto⟩⟩
  | _ => .changeStatus ⟨background,"workitem-0001",some worker,some ⟨.submittedForReview,none⟩⟩

theorem evidence_before_review_submission :
    let p := ((begin (.inMemory true true) submission .empty).play (exec working)
      ([0,1,2,3,4,5].flatMap (List.replicate 10))).2
    ∃ item, p.state.work.items.byID "workitem-0001" = some item ∧
      item.status = .submittedForReview ∧
      ∃ attachment ∈ p.state.attachments.entries, attachment.workItemID = item.id := by
  intro p
  have hrun := Pool.trace_play working_answers _ (begin (.inMemory true true) submission .empty)
    ([0,1,2,3,4,5].flatMap (List.replicate 10)) (Pool.passes_true _ _)
  have hsubmitted : (p.state.work.items.byID "workitem-0001").map (·.status) =
      some .submittedForReview := by decide +kernel
  obtain ⟨item,hitem,hstatus⟩ := Option.map_eq_some_iff.mp hsubmitted
  exact ⟨item,hitem,hstatus,evidence_before_review true true submission
    (hrun.imp fun _ _ _ h => h.1) "workitem-0001" item hitem (by rw [hstatus]; decide)⟩

end OpsPlatform.Http
