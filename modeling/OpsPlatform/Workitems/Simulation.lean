import OpsPlatform.Workitems.Lifecycle
import OpsPlatform.Workitems.Sequential

/-! The stores hold, for every work item, the life the lifecycle describes: each served request is
one of its steps for the item it is about, and none for any other. -/
namespace OpsPlatform.Workitems
open OpsPlatform.Go Interaction Program

/-- The life of one work item as the four stores tell it. -/
def State.order (st : State) (id : String) : Order where
  status := ((st.items.byID id).map (·.status)).getD .created
  holder := (st.items.byID id).bind (·.assignedToUserID)
  offer := st.assignments.byWorkItem id
  trail := st.history.ofWorkItem id
  events := st.assignmentHistory.ofWorkItem id

/-- What a call does to the work item `id` when it succeeds. -/
def Call.acts (id : String) : Call → List Act
  | .changeStatus id' _ _ _ _ input => if id' = id then [.moved input.toStatus] else []
  | .assignWorkItem id' _ _ _ _ => if id' = id then [.assigned] else []
  | .respondToAssignment id' _ _ accept _ => if id' = id then [.responded accept] else []
  | _ => []

/-- What a served request did to the work item `id`. -/
def actsOn (id : String) (exchange : Request × Except Error Reply) : List Act :=
  match exchange.2 with
  | .ok _ => exchange.1.call.acts id
  | .error _ => []

section Views
variable {st : State} {id : String} {item : WorkItem}

lemma order_status (found : st.items.byID id = some item) : (st.order id).status = item.status := by
  simp [State.order, found]

lemma order_holder (found : st.items.byID id = some item) :
    (st.order id).holder = item.assignedToUserID := by simp [State.order, found]

lemma trimmedOrNil_not_blank {raw : Option String} {text : String}
    (h : trimmedOrNil raw = some text) : ¬ Blank text := by
  obtain ⟨given,-,htext⟩ := Option.bind_eq_some_iff.mp h
  split_ifs at htext with hblank
  cases htext
  exact not_blank_trimSpace hblank

/-- The entry the service writes for an admissible move. -/
lemma link_statusEntry (workItemID entryID : String) {src dst : Status} (actorUserID : String)
    (reason : Option String) (now : Time) (h : isValidTransition src dst = true)
    (hreason : dst = .flagged → trimmedOrNil reason ≠ none) :
    Link src { statusEntry workItemID src dst actorUserID reason now with id := entryID } dst := by
  refine ⟨rfl,rfl,h,?_⟩
  intro hdst
  obtain ⟨text,htext⟩ := Option.ne_none_iff_exists'.mp (hreason hdst)
  exact ⟨text,htext,trimmedOrNil_not_blank htext⟩

end Views

section
variable {s : Service} {env : Env} {ctx : Context} {st st' : State}

lemma Call.acts_of_target {c : Call} {id : String} (h : c.target ≠ some id) : c.acts id = [] := by
  cases c with
  | changeStatus => exact if_neg fun hid => h (congrArg some hid)
  | assignWorkItem => exact if_neg fun hid => h (congrArg some hid)
  | respondToAssignment => exact if_neg fun hid => h (congrArg some hid)
  | _ => rfl

/-- A call that is not about an item changes nothing in its life. -/
lemma Effect.order_eq {c : Call} {out : Except Error Reply} (h : Effect s env ctx st c out st')
    {id : String} (hother : c.target ≠ some id) : st'.order id = st.order id := by
  cases htarget : c.target with
  | some W =>
    have hid : id ≠ W := fun hid => hother (hid ▸ htarget)
    obtain ⟨hrow,htrail,hoffer,hevents⟩ := h.sameOn htarget hid
    simp only [State.order, hrow, htrail, hoffer, hevents]
  | none =>
    cases h with
    | create =>
      simp only [State.order, MemoryStore.create_byID]
      split_ifs with hid
      · rw [hid, st.items.byID_next]; rfl
      · rfl
    | _ => cases htarget

/-- The step lemma of the simulation. -/
theorem Effect.order {c : Call} {out : Except Error Reply} (h : Effect s env ctx st c out st')
    (id : String) : Trace Order.Step (st.order id) (c.acts id) (st'.order id) := by
  by_cases hother : c.target ≠ some id
  · rw [Call.acts_of_target hother, h.order_eq hother]
    exact .nil
  rw [not_not] at hother
  cases h with
  | create => cases hother
  | @update _ _ _ _ input item edited found allowed applied =>
    cases hother
    have hedit := UpdateInput.apply_editOf applied
    have hid : (editedItem edited env.now).id = item.id := hedit.id
    have hsame : ({ st with items := (st.items.update (editedItem edited env.now)).2 } :
        State).order id = st.order id := by
      simp only [State.order, update_byID found hid, if_true]
      simp [found, editedItem, hedit.status, hedit.assignedToUserID]
    rw [hsame]
    exact .nil
  | @changeStatus _ actor _ _ _ input item _ _ found reasonGiven allowed =>
    cases hother
    have hid : (movedItem item input.toStatus env.now).id = item.id := rfl
    have hlink := link_statusEntry id
      (sprintf04d "statushistory-" (st.history.seq+1)) actor input.reason env.now
      allowed.isValidTransition reasonGiven
    rw [← order_status found] at hlink
    have hstep := Order.Step.moved _ hlink
    simp only [Call.acts, State.order, update_byID found hid, history_create, if_true]
    apply Trace.one
    simpa [State.order, found, movedItem, statusEntry] using hstep
  | @assignWorkItem _ assigner _ _ input item _ _ _ found allowed open_ =>
    cases hother
    have hid : (assignedItem item (trimSpace input.assignedToUserID) env.now).id = item.id := rfl
    have hlink := link_statusEntry id
      (sprintf04d "statushistory-" (st.history.seq+1)) assigner none env.now
      open_ (by intro h; cases h)
    rw [← order_status found] at hlink
    have hstep := Order.Step.assigned
      _ { newAssignment id assigner (trimSpace input.assignedToUserID) env.now with
        id := sprintf04d "assignment-" (st.assignments.seq+1) }
      { assignmentEvent id .assigned assigner (trimSpace input.assignedToUserID) none
        env.now with id := sprintf04d "assignmenthistory-" (st.assignmentHistory.seq+1) }
      hlink rfl rfl rfl
    simp only [Call.acts, State.order, update_byID found hid, history_create, create_byWorkItem,
      assignmentHistory_create, if_true]
    apply Trace.one
    simpa [State.order, found, assignedItem, statusEntry, assignmentEvent, newAssignment]
      using hstep
  | @respondToAssignment _ user accept input item offer _ _ found offered owned pending open_ =>
    cases hother
    have hid : (respondedItem item accept env.now).id = item.id := rfl
    have hofferID : (respondedAssignment offer accept input.note env.now).workItemID =
        offer.workItemID := rfl
    have hlink := link_statusEntry id
      (sprintf04d "statushistory-" (st.history.seq+1)) user input.note env.now
      open_ (by intro h; cases accept <;> cases h)
    rw [← order_status found] at hlink
    have hstep := Order.Step.responded
      _ (respondedAssignment offer accept input.note env.now)
      { assignmentEvent id (respondedAction accept) user offer.assignedToUserID
        input.note env.now with
          id := sprintf04d "assignmenthistory-" (st.assignmentHistory.seq+1) }
      hlink offered pending rfl rfl rfl owned.symm rfl
    simp only [Call.acts, State.order, update_byID found hid, history_create,
      update_byWorkItem offered hofferID, assignmentHistory_create, if_true]
    apply Trace.one
    simpa [State.order, found, respondedItem, statusEntry, assignmentEvent,
      respondedAssignment] using hstep

lemma Call.acts_of_reads {c : Call} (h : c.Reads) (id : String) : c.acts id = [] := by
  cases c <;> first | rfl | exact h.elim

variable (hnil : s.txRunner = none)
include hnil

theorem serves_order (id : String) (exchange : Request × Except Error Reply) (hsound : st.Sound)
    (h : Serves (serve s) st exchange st') :
    st'.Sound ∧ Trace Order.Step (st.order id) (actsOn id exchange) (st'.order id) := by
  obtain ⟨r,out⟩ := exchange
  have hout : (serve s r st).1 = out := congrArg Prod.fst h
  have hst' : (serve s r st).2 = st' := congrArg Prod.snd h
  refine ⟨hst' ▸ serve_sound hnil r st hsound,?_⟩
  rcases serve_cases hnil hsound r with ⟨hsame,hidle⟩ | ⟨reply,hreply,heffect⟩
  · have hacts : actsOn id (r,out) = [] := by
      rcases hidle with hreads | ⟨e,herror⟩
      · unfold actsOn
        split
        · exact Call.acts_of_reads hreads id
        · rfl
      · rw [← hout, herror]; rfl
    rw [hacts, ← hst', hsame]
    exact .nil
  · rw [← hout, ← hst', hreply]
    exact heffect.order id

/-- The agreement of the three records is kept by every request. -/
theorem serve_agrees (r : Request) (hsound : st.Sound) (h : ∀ id, (st.order id).Agrees)
    (id : String) : ((serve s r st).2.order id).Agrees := by
  have hserves : Serves (serve s) st (r,(serve s r st).1) (serve s r st).2 := rfl
  have htrace := (serves_order hnil id _ hsound hserves).2
  exact htrace.inv (I := fun _ o => o.Agrees) (h id) fun _ _ _ _ ho hstep => hstep.agrees ho

/-- The simulation: any run of the service is, for each work item, a run of its lifecycle. -/
theorem order_serveAll (id : String) {st : State} (hsound : st.Sound) (rs : List Request) :
    Trace Order.Step (st.order id) ((transcript (serve s) st rs).flatMap (actsOn id))
      ((serveAll (serve s) st rs).order id) :=
  ((trace_transcript (serve s) st rs).simulate (fun st => st.order id) (actsOn id)
    (fun _ _ _ hsound h => serves_order hnil id _ hsound h) hsound).2

end
end OpsPlatform.Workitems
