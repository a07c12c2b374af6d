import OpsPlatform.Workitems.Sequential

/-! What a consumer may take for granted of a stored work item and of a stored assignment: the
checks of the five writing methods, taken together, let nothing else in. -/
namespace OpsPlatform.Workitems
open OpsPlatform.Go Interaction Program

/-- A text with something in it and no white space around it. -/
def Tidy (text : String) : Prop := text ≠ "" ∧ trimSpace text = text

lemma tidy_trimSpace {text : String} (h : ¬ Blank text) : Tidy (trimSpace text) :=
  ⟨h,trimSpace_trimSpace text⟩

lemma Tidy.not_blank {text : String} (h : Tidy text) : ¬ Blank text := by
  rw [Blank, h.2]
  exact h.1

lemma tidy_trimmedOrNil (raw : Option String) : ∀ text ∈ trimmedOrNil raw, Tidy text := by
  intro text h
  obtain ⟨text',_,h⟩ := Option.bind_eq_some_iff.mp h
  split_ifs at h with hblank
  cases h
  exact tidy_trimSpace hblank

structure WorkItem.WellFormed (item : WorkItem) : Prop where
  title : Tidy item.title
  description : Tidy item.description
  status : item.status.isValid = true
  priority : item.priority.isValid = true
  creator : ¬ Blank item.createdByUserID
  location : ∀ text ∈ item.locationText, Tidy text
  assignee : ∀ user ∈ item.assignedToUserID, Tidy user
  updated : item.createdAt ≤ item.updatedAt

structure Assignment.WellFormed (assignment : Assignment) : Prop where
  assigner : ¬ Blank assignment.assignedByUserID
  assignee : ¬ Blank assignment.assignedToUserID
  responded : assignment.status = .assigned ↔ assignment.respondedAt = none
  note : ∀ note ∈ assignment.responseNote, ¬ Blank note

/-- All rows are well formed. -/
structure State.WellFormed (st : State) : Prop where
  items : ∀ id item, st.items.byID id = some item → item.WellFormed
  assignments : ∀ id assignment, st.assignments.byWorkItem id = some assignment →
    assignment.WellFormed

/-- No item is younger than this moment. -/
def State.CreatedBy (st : State) (now : Time) : Prop :=
  ∀ id item, st.items.byID id = some item → item.createdAt ≤ now

/-- Only valid statuses are ever moved to. -/
lemma isValid_of_isValidTransition {src dst : Status} (h : isValidTransition src dst = true) :
    dst.isValid = true := by
  rw [isValidTransition_iff] at h
  cases dst with
  | other text => cases src <;> simp [validStatusTransitions] at h
  | _ => rfl

section Edit
variable {item edited : WorkItem}

lemma WorkItem.WellFormed.editText {raw : Option String} {write : String → WorkItem}
    (h : Workitems.editText raw write item = .ok edited) (hitem : item.WellFormed)
    (hwrite : ∀ text, Tidy text → (write text).WellFormed) : edited.WellFormed := by
  unfold Workitems.editText at h
  split at h
  · cases h; exact hitem
  · split_ifs at h with hblank
    cases h
    exact hwrite _ (tidy_trimSpace hblank)

lemma WorkItem.WellFormed.editPriority {raw : Option Priority}
    (h : Workitems.editPriority raw item = .ok edited) (hitem : item.WellFormed) :
    edited.WellFormed := by
  unfold Workitems.editPriority at h
  split at h
  · cases h; exact hitem
  · split_ifs at h with hvalid
    cases h
    exact { hitem with priority := hvalid }

lemma WorkItem.WellFormed.editLocationText (hitem : item.WellFormed) (raw : Option String) :
    (Workitems.editLocationText raw item).WellFormed := by
  cases raw with
  | none => exact hitem
  | some location =>
    have htidy := tidy_trimmedOrNil (some location)
    rw [Workitems.editLocationText]
    generalize trimmedOrNil (some location) = trimmed at htidy
    exact { hitem with location := htidy }

lemma WorkItem.WellFormed.editDueAt (hitem : item.WellFormed) (raw : Option Time) :
    (Workitems.editDueAt raw item).WellFormed := by
  cases raw with
  | none => exact hitem
  | some dueAt => exact { hitem with }

/-- An edit that passes all checks, whichever fields it is about. -/
theorem UpdateInput.apply_wellFormed {input : UpdateInput} (h : input.apply item = .ok edited)
    (hitem : item.WellFormed) : edited.WellFormed := by
  unfold UpdateInput.apply at h
  obtain ⟨titled,htitle,h⟩ := bind_eq_ok h
  obtain ⟨described,hdescription,h⟩ := bind_eq_ok h
  obtain ⟨ranked,hpriority,h⟩ := bind_eq_ok h
  obtain rfl := Except.ok.inj h
  have htitled := hitem.editText htitle fun _ htext => { hitem with title := htext }
  have hdescribed := htitled.editText hdescription fun _ htext =>
    { htitled with description := htext }
  exact ((hdescribed.editPriority hpriority).editLocationText _).editDueAt _

end Edit
section
variable {s : Service} {st st' : State}

/-- The step lemma. -/
theorem Effect.wellFormed {env : Env} {ctx : Context} {c : Call} {out : Except Error Reply}
    (h : Effect s env ctx st c out st') (hst : st.WellFormed) (hnow : st.CreatedBy env.now) :
    st'.WellFormed := by
  cases h with
  | @create _ input hcreator htitle hdescription hpriority =>
    have hlocation := tidy_trimmedOrNil input.locationText
    refine ⟨?_,hst.assignments⟩
    intro id item hitem
    rw [MemoryStore.create_byID] at hitem
    split_ifs at hitem
    · cases hitem
      exact ⟨tidy_trimSpace htitle,tidy_trimSpace hdescription,rfl,hpriority,hcreator,hlocation,
        by simp [newItem],Int.le_refl _⟩
    · exact hst.items _ _ hitem
  | update found allowed applied =>
    have hedit := UpdateInput.apply_editOf applied
    refine ⟨forall_update hst.items found hedit.id fun hitem => ?_,hst.assignments⟩
    have hcreated := hnow _ _ found
    rw [← hedit.createdAt] at hcreated
    exact { UpdateInput.apply_wellFormed applied hitem with updated := hcreated }
  | changeStatus idGiven actorGiven found reasonGiven allowed =>
    have hcreated := hnow _ _ found
    refine ⟨forall_update hst.items found rfl fun hitem => ?_,hst.assignments⟩
    exact { hitem with
      status := isValid_of_isValidTransition allowed.isValidTransition
      updated := hcreated }
  | @assignWorkItem id assigner _ _ input _ idGiven assignerGiven assigneeGiven found =>
    have hassignee := tidy_trimSpace assigneeGiven
    have hcreated := hnow _ _ found
    refine ⟨forall_update hst.items found rfl fun hitem => ?_,?_⟩
    · exact { hitem with
        status := rfl
        assignee := by
          intro user huser
          cases huser
          exact hassignee
        updated := hcreated }
    · intro k row hrow
      rw [create_byWorkItem] at hrow
      split_ifs at hrow
      · cases hrow
        exact ⟨assignerGiven,hassignee.not_blank,by simp [newAssignment],by simp [newAssignment]⟩
      · exact hst.assignments _ _ hrow
  | @respondToAssignment _ _ accept input _ offer idGiven userGiven found offered =>
    have hid : (respondedAssignment offer accept input.note env.now).workItemID =
        offer.workItemID := rfl
    have hcreated := hnow _ _ found
    refine ⟨forall_update hst.items found rfl fun hitem => ?_,?_⟩
    · exact { hitem with
        status := by cases accept <;> rfl
        assignee := by
          intro user huser
          cases accept
          · cases huser
          · exact hitem.assignee user huser
        updated := hcreated }
    · intro k row hrow
      rw [update_byWorkItem offered hid] at hrow
      split_ifs at hrow
      · cases hrow
        have hoffer := hst.assignments _ _ offered
        exact { hoffer with
          responded := by cases accept <;> simp [respondedAssignment, respondedAction]
          note := fun note hnote => (tidy_trimmedOrNil _ note hnote).not_blank }
      · exact hst.assignments _ _ hrow

/-- What is stored was created now or before. -/
lemma Effect.createdBy {env : Env} {ctx : Context} {c : Call} {out : Except Error Reply}
    (h : Effect s env ctx st c out st') (hnow : st.CreatedBy env.now) : st'.CreatedBy env.now := by
  cases htarget : c.target with
  | some W =>
    obtain ⟨item,row,found,hitems,hsame⟩ := h.rewrites htarget
    intro id item' hitem
    rw [hitems] at hitem
    exact forall_update hnow found hsame.id.symm (fun hle => hsame.createdAt ▸ hle) id item' hitem
  | none =>
    cases h with
    | create =>
      intro id item hitem
      rw [MemoryStore.create_byID] at hitem
      split_ifs at hitem
      · cases hitem
        exact Int.le_refl _
      · exact hnow _ _ hitem
    | _ => cases htarget

variable (hnil : s.txRunner = none)
include hnil

/-- The run lemma: each call finds rows that were created before it. -/
lemma wellFormed_serveAll {rs : List Request} (hclock : rs.Pairwise fun a b => a.now ≤ b.now)
    (hst : st.WellFormed) (hpast : ∀ r ∈ rs, st.CreatedBy r.now) :
    (serveAll (serve s) st rs).WellFormed := by
  induction rs generalizing st with
  | nil => exact hst
  | cons r rs ih =>
    obtain ⟨hnext,hclock⟩ := List.pairwise_cons.mp hclock
    have hnow : st.CreatedBy r.env.now := hpast r List.mem_cons_self
    have hstep : (serve s r st).2.WellFormed ∧ (serve s r st).2.CreatedBy r.env.now := by
      rcases run_outcome (s := s) r.env r.ctx st hnil r.call with ⟨hsame,_⟩ | h
      · rw [show (serve s r st).2 = st from hsame]
        exact ⟨hst,hnow⟩
      · exact ⟨h.wellFormed hst hnow,h.createdBy hnow⟩
    refine ih hclock hstep.1 fun r' hr' id item hitem => ?_
    exact Int.le_trans (hstep.2 id item hitem) (hnext r' hr')

end

/-- Every stored row is well formed, whatever was called before. -/
theorem stored_wellFormed (hasNotifier hasTeamAuthority : Bool) (rs : List Request)
    (hclock : rs.Pairwise fun a b => a.now ≤ b.now) :
    (∀ id item, (finalState hasNotifier hasTeamAuthority rs).items.byID id = some item →
      item.WellFormed) ∧
    ∀ id assignment,
      (finalState hasNotifier hasTeamAuthority rs).assignments.byWorkItem id = some assignment →
      assignment.WellFormed := by
  have hfinal : (finalState hasNotifier hasTeamAuthority rs).WellFormed := by
    refine wellFormed_serveAll (s := .inMemory hasNotifier hasTeamAuthority) rfl hclock ?_ ?_
    · constructor <;> intro _ _ <;> simp [State.empty, MemoryStore.new, MemoryAssignmentStore.new]
    · intro r _ id item hitem
      simp [State.empty, MemoryStore.new] at hitem
  exact ⟨hfinal.items,hfinal.assignments⟩

/-- An item with a padded title and a blank location, edited and declined with a blank note. -/
theorem stored_wellFormed_declined :
    let request (now : Time) (call : Call) : Request :=
      ⟨background,now,now,fun _ _ => .ok false,fun _ => .ok [],call⟩
    let rs := [
      request 1 (.create "admin-1" ⟨" Repair pump ","Pump 4 leaks",.high,some "  ",none⟩),
      request 2 (.update "workitem-0001" "admin-1" true false ⟨none,none,none,some " Hall 2",none⟩),
      request 3 (.assignWorkItem "workitem-0001" "admin-1" true false ⟨" user-2"⟩),
      request 4 (.respondToAssignment "workitem-0001" "user-2" false false ⟨some " "⟩)]
    (∃ item, (finalState true false rs).items.byID "workitem-0001" = some item ∧
      item.title = "Repair pump" ∧ item.WellFormed) ∧
    ∃ assignment, (finalState true false rs).assignments.byWorkItem "workitem-0001" =
      some assignment ∧ assignment.status = .declined ∧ assignment.WellFormed := by
  intro request rs
  have hitem : ((finalState true false rs).items.byID "workitem-0001").map (·.title) =
      some "Repair pump" := by decide +kernel
  have hoffer : ((finalState true false rs).assignments.byWorkItem "workitem-0001").map
      (·.status) = some .declined := by decide +kernel
  obtain ⟨item,hitem,htitle⟩ := Option.map_eq_some_iff.mp hitem
  obtain ⟨assignment,hoffer,hstatus⟩ := Option.map_eq_some_iff.mp hoffer
  have hclock : rs.Pairwise fun a b => a.now ≤ b.now := by decide +kernel
  have hitems := (stored_wellFormed true false rs hclock).1 "workitem-0001" item hitem
  have hoffers := (stored_wellFormed true false rs hclock).2 "workitem-0001" assignment hoffer
  exact ⟨⟨item,hitem,htitle,hitems⟩,assignment,hoffer,hstatus,hoffers⟩

end OpsPlatform.Workitems
