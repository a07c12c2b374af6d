import OpsPlatform.Workitems.Concurrent

/-! Full-row writes under concurrency. A call writes back the whole row it has read; as long as the
row still has the status it read, the end of the lifecycle is final and edits move nothing. -/
namespace OpsPlatform.Workitems
open OpsPlatform.Go Interaction Program

/-- The row a `store.Update` writes. -/
def Op.updatedRow : Op → Option WorkItem
  | .storeUpdate _ row => some row
  | _ => none

section
variable {ι : Type} [DecidableEq ι] (calls : ι → Context × Call)

/-- A `store.Update` still finds the status its call has read; for the field edit, the assignee
too. Any other operation is fresh. -/
def Fresh (p : Calls ι) (l : ι × Event Op.Res) : Prop :=
  ∀ row ∈ l.2.op.updatedRow, ∀ item ∈ itemsRead (p.seen l.1),
    ∀ stored ∈ p.state.items.byID row.id, stored.status = item.status ∧
      ((calls l.1).2.edits = true → stored.assignedToUserID = item.assignedToUserID)

instance (p : Calls ι) (l : ι × Event Op.Res) : Decidable (Fresh calls p l) :=
  inferInstanceAs (Decidable (∀ row ∈ l.2.op.updatedRow, ∀ item ∈ itemsRead (p.seen l.1),
    ∀ stored ∈ p.state.items.byID row.id, _))

/-- One step of the interleaving that writes nothing stale. -/
def FreshStep (p : Calls ι) (l : ι × Event Op.Res) (q : Calls ι) : Prop :=
  Pool.Step Answers p l q ∧ Fresh calls p l

end

/-- What the workflow sees of a stored item. -/
def workflowOf (st : State) (id : String) : Option (Status × Option String) :=
  (st.items.byID id).map fun item => (item.status,item.assignedToUserID)

section
variable {ι : Type} [DecidableEq ι] {calls : ι → Context × Call} {p q : Calls ι}
  {l : ι × Event Op.Res}

/-- The step lemma: a fresh step takes nothing out of a terminal status, and a step of an edit
leaves the workflow alone. -/
theorem FreshStep.workflow (h : FreshStep calls p l q) (hp : Limited calls p) (id : String) :
    (∀ item, p.state.items.byID id = some item → item.status.Terminal →
      ∃ item', q.state.items.byID id = some item' ∧ item'.status = item.status) ∧
    ((calls l.1).2.edits = true → workflowOf q.state id = workflowOf p.state id) := by
  obtain ⟨hstep,hfresh⟩ := h
  obtain ⟨hmay,-⟩ := hp.step hstep
  have hitems := hstep.answered.items
  obtain ⟨i,op,r⟩ := l
  unfold workflowOf
  rw [hitems]
  cases op with
  | storeCreate ctx row =>
    obtain ⟨createdByUserID,input,now,hcall,-⟩ := hmay
    refine ⟨fun item hitem _ => ⟨item,?_,rfl⟩,fun hedits => ?_⟩
    · rw [Op.onItems, MemoryStore.create_byID, if_neg, hitem]
      rintro rfl
      rw [MemoryStore.byID_next] at hitem
      cases hitem
    · simp only at hcall hedits
      rw [hcall] at hedits
      cases hedits
  | storeUpdate ctx row =>
    obtain ⟨item,hread,hrewrites⟩ := hmay
    obtain ⟨-,hedit,hmove⟩ := hrewrites.status
    simp only [Op.onItems]
    cases hstored : p.state.items.byID row.id with
    | none =>
      have hsame : (p.state.items.update row).2 = p.state.items := by
        rw [MemoryStore.update, dif_neg (by rw [hstored]; decide)]
      rw [hsame]
      exact ⟨fun item hitem _ => ⟨item,hitem,rfl⟩,fun _ => rfl⟩
    | some stored =>
      obtain ⟨hstatus,hassignee⟩ := hfresh row rfl item hread.mem stored hstored
      rw [p.state.items.update_eq row (by rw [hstored]; rfl), MemoryStore.put_byID]
      split_ifs with hid
      · subst hid
        rw [hstored]
        refine ⟨?_,?_⟩
        · intro found hfound hterminal
          obtain rfl := Option.some.inj hfound
          refine ⟨row,rfl,?_⟩
          cases hkind : (calls i).2.edits with
          | true => rw [(hedit hkind).1, hstatus]
          | false =>
            have hvalid := hmove hkind
            rw [← hstatus, not_isValidTransition_of_terminal hterminal] at hvalid
            cases hvalid
        · intro hkind
          simp only [Option.map_some, (hedit hkind).1, (hedit hkind).2, hstatus, hassignee hkind]
      · exact ⟨fun item hitem _ => ⟨item,hitem,rfl⟩,fun _ => rfl⟩
  | _ => exact ⟨fun item hitem _ => ⟨item,hitem,rfl⟩,fun _ => rfl⟩

/-- The run lemma for the end of the lifecycle. -/
theorem terminal_of_fresh {ls : List (ι × Event Op.Res)} (h : Trace (FreshStep calls) p ls q)
    (hp : Limited calls p) {id : String} {item : WorkItem}
    (hitem : p.state.items.byID id = some item) (hterminal : item.status.Terminal) :
    ∃ item', q.state.items.byID id = some item' ∧ item'.status = item.status := by
  have hrun := h.inv (I := fun _ q => Limited calls q ∧ ∃ item',
    q.state.items.byID id = some item' ∧ item'.status = item.status) ⟨hp,item,hitem,rfl⟩ ?_
  · exact hrun.2
  rintro _ t l u ⟨ht,item',hitem',hstatus⟩ hstep
  refine ⟨(ht.step hstep.1).2,?_⟩
  obtain ⟨item'',hitem'',hstatus'⟩ :=
    (hstep.workflow ht id).1 item' hitem' (hstatus ▸ hterminal)
  exact ⟨item'',hitem'',hstatus'.trans hstatus⟩

end

theorem workflow_of_fresh (hasNotifier hasTeamAuthority : Bool) {ι : Type} [DecidableEq ι]
    (calls : ι → Context × Call) (st : State) {ls ls' : List (ι × Event Op.Res)} {p q : Calls ι}
    (hfirst : Trace (FreshStep calls)
      (begin (.inMemory hasNotifier hasTeamAuthority) calls st) ls p)
    (hnext : Trace (FreshStep calls) p ls' q) :
    (∀ id item, p.state.items.byID id = some item → item.status.Terminal →
      ∃ item', q.state.items.byID id = some item' ∧ item'.status = item.status) ∧
    ∀ l q', FreshStep calls q l q' → (calls l.1).2.edits = true →
      ∀ id, workflowOf q'.state id = workflowOf q.state id := by
  have hlimited : ∀ {p q : Calls ι} {ls}, Trace (FreshStep calls) p ls q → Limited calls p →
      Limited calls q := fun h hp => h.inv (I := fun _ q => Limited calls q) hp
    fun _ _ _ _ ht hstep => (ht.step hstep.1).2
  have hp := hlimited hfirst (begin_limited rfl st)
  refine ⟨fun id item hitem hterminal => terminal_of_fresh hnext hp hitem hterminal,?_⟩
  intro l q' hstep hedits id
  exact (hstep.workflow (hlimited hnext hp) id).2 hedits

/-- A clock that stands still, a silent notifier and an authority that supervises nobody. -/
def quiet : Env := ⟨7,fun _ _ => .ok false,fun _ => .ok [],fun _ _ _ _ _ store => (.ok (),store)⟩

lemma quiet_answers (op : Op) (st : State) :
    Answers op st (exec quiet op st).1 (exec quiet op st).2 := ⟨quiet,rfl⟩

/-- The stores after one item was created. -/
def oneItem : State :=
  finalState true true [⟨background,1,1,fun _ _ => .ok false,fun _ => .ok [],
    .create "admin-1" ⟨"Repair pump","Pump 4 leaks",.high,none,none⟩⟩]

/-- An edit of the item's title against a cancellation, both by an admin. -/
def editAndCancel (cancels : Bool) : Context × Call :=
  if cancels then
    (background,.changeStatus "workitem-0001" "admin-1" true false false ⟨.cancelled,none⟩)
  else (background,.update "workitem-0001" "admin-1" true false
    ⟨some "Repair pump 4",none,none,none,none⟩)

/-- First the cancellation, then the edit: the item stays cancelled. -/
theorem workflow_of_fresh_edit :
    let p := (begin (.inMemory true true) editAndCancel oneItem).play (exec quiet)
      [true,true,true,true]
    let q := p.2.play (exec quiet) [false,false,false]
    ∃ item, q.2.state.items.byID "workitem-0001" = some item ∧ item.status = .cancelled ∧
      item.title = "Repair pump 4" := by
  intro p q
  have hfirst := Pool.trace_play quiet_answers (fun p l => decide (Fresh editAndCancel p l))
    (begin (.inMemory true true) editAndCancel oneItem) [true,true,true,true] (by decide +kernel)
  have hnext := Pool.trace_play quiet_answers (fun p l => decide (Fresh editAndCancel p l))
    p.2 [false,false,false] (by decide +kernel)
  have hstep : ∀ (p : Calls Bool) l q, Pool.Step Answers p l q ∧
      decide (Fresh editAndCancel p l) = true → FreshStep editAndCancel p l q :=
    fun _ _ _ h => ⟨h.1,of_decide_eq_true h.2⟩
  have hcancelled : (p.2.state.items.byID "workitem-0001").map (·.status) = some .cancelled := by
    decide +kernel
  obtain ⟨item,hitem,hstatus⟩ := Option.map_eq_some_iff.mp hcancelled
  obtain ⟨item',hitem',hstatus'⟩ := (workflow_of_fresh true true editAndCancel oneItem
    (hfirst.imp hstep) (hnext.imp hstep)).1 "workitem-0001" item hitem (.inr hstatus)
  have htitle : (q.2.state.items.byID "workitem-0001").map (·.title) = some "Repair pump 4" := by
    decide +kernel
  rw [hitem'] at htitle
  exact ⟨item',hitem',hstatus'.trans hstatus,Option.some.inj htitle⟩

/-- The edit reads first and writes last: it brings the cancelled item back to created. -/
theorem stale_write_revives :
    ¬ ∀ (hasNotifier hasTeamAuthority : Bool) (ι : Type) [DecidableEq ι] (calls : ι → Context × Call)
      (st : State) (ls ls' : List (ι × Event Op.Res)) (p q : Calls ι),
      Trace (Pool.Step Answers) (begin (.inMemory hasNotifier hasTeamAuthority) calls st) ls p →
      Trace (Pool.Step Answers) p ls' q →
      (∀ id item, p.state.items.byID id = some item → item.status.Terminal →
        ∃ item', q.state.items.byID id = some item' ∧ item'.status = item.status) ∧
      ∀ l q', Pool.Step Answers q l q' → (calls l.1).2.edits = true →
        ∀ id, workflowOf q'.state id = workflowOf q.state id := by
  intro h
  let p := (begin (.inMemory true true) editAndCancel oneItem).play (exec quiet)
    [false,true,true,true]
  let q := p.2.play (exec quiet) [false,false]
  have hfirst := Pool.trace_play quiet_answers _ (begin (.inMemory true true) editAndCancel oneItem)
    [false,true,true,true] (Pool.passes_true _ _)
  have hnext := Pool.trace_play quiet_answers _ p.2 [false,false] (Pool.passes_true _ _)
  have hcancelled : (p.2.state.items.byID "workitem-0001").map (·.status) = some .cancelled := by
    decide +kernel
  have hrevived : (q.2.state.items.byID "workitem-0001").map (·.status) = some .created := by
    decide +kernel
  obtain ⟨item,hitem,hstatus⟩ := Option.map_eq_some_iff.mp hcancelled
  obtain ⟨item',hitem',hstatus'⟩ := (h true true Bool editAndCancel oneItem _ _ _ _
    (hfirst.imp fun _ _ _ h => h.1) (hnext.imp fun _ _ _ h => h.1)).1 "workitem-0001" item hitem
    (.inr hstatus)
  rw [hitem', Option.map_some, hstatus', hstatus] at hrevived
  cases hrevived

end OpsPlatform.Workitems
