import OpsPlatform.Workitems.Contest

/-! Who wins a contest, over every interleaving of the two calls. -/
namespace OpsPlatform.Workitems
open OpsPlatform.Go Interaction Program

def Op.readsItem : Op → Bool
  | .storeGetByID _ _ => true
  | _ => false

def Op.writesItem : Op → Bool
  | .storeUpdate _ _ => true
  | _ => false

def Op.readsOffer : Op → Bool
  | .assignmentGetByWorkItemID _ _ => true
  | _ => false

def Op.writesOffer : Op → Bool
  | .assignmentCreate _ _ | .assignmentUpdate _ _ => true
  | _ => false

/-- No row is read after a row of its store was written. -/
def Overlapping {ι : Type} (ls : List (ι × Event Op.Res)) : Prop :=
  ls.Pairwise fun a b => ¬ (a.2.op.writesItem = true ∧ b.2.op.readsItem = true) ∧
    ¬ (a.2.op.writesOffer = true ∧ b.2.op.readsOffer = true)

instance {ι : Type} (ls : List (ι × Event Op.Res)) : Decidable (Overlapping ls) :=
  inferInstanceAs (Decidable (ls.Pairwise _))

/-- The checks of a call, made on the stored rows. -/
def Service.AdmitsAt (s : Service) (env : Env) (st : State) (id : String) (c : Call) : Prop :=
  ∃ item, st.items.byID id = some item ∧ s.Admits env item (st.assignments.byWorkItem id) c

/-- The two cells of a contest; the offer matters only where it is answered. -/
def Cells (id : String) (item₀ : WorkItem) (row₀ : Assignment) (closed : Status → Prop)
    (answering : Prop) (st : State) : Prop :=
  ItemCell id item₀ closed st ∧ (answering → OfferCell id row₀ st)

section Cells
variable {env : Env} {id : String} {item₀ : WorkItem} {row₀ : Assignment}
  {closed : Status → Prop} {answering : Prop} {op : Op} {st st' : State} {r : op.Res}

/-- An item write of a contestant closes the contest. -/
lemma byID_of_write (hmay : MayRace id closed answering op) (h : Wired env op st r st')
    (hcell : ItemCell id item₀ closed st) (hwrites : op.writesItem = true) :
    ∃ item, st'.items.byID id = some item ∧ closed item.status := by
  rw [h.answers.items]
  obtain ⟨old,hold,-⟩ := hcell
  cases op with
  | storeUpdate ctx row =>
    obtain ⟨hid,hclosed⟩ := hmay
    refine ⟨row,?_,hclosed⟩
    rw [Op.onItems, st.items.update_eq row (by rw [hid, hold]; rfl), MemoryStore.put_byID,
      if_pos hid.symm]
  | _ => cases hwrites

lemma byID_of_no_write (hmay : MayRace id closed answering op) (h : Wired env op st r st')
    (hwrites : ¬ op.writesItem = true) : st'.items.byID id = st.items.byID id := by
  rw [h.answers.items]
  cases op with
  | storeCreate => exact hmay.elim
  | storeUpdate => exact (hwrites rfl).elim
  | _ => rfl

lemma byWorkItem_of_write (hmay : MayRace id closed True op) (h : Wired env op st r st')
    (hcell : OfferCell id row₀ st) (hwrites : op.writesOffer = true) :
    ∃ row, st'.assignments.byWorkItem id = some row ∧ row.status ≠ .assigned := by
  rw [h.answers.assignments]
  obtain ⟨old,hold,-⟩ := hcell
  cases op with
  | assignmentCreate => exact (hmay trivial).elim
  | assignmentUpdate ctx row =>
    obtain ⟨-,hid,hanswered⟩ := hmay
    refine ⟨row,?_,hanswered⟩
    rw [Op.onAssignments, st.assignments.update_eq row (by rw [hid, hold]; rfl),
      MemoryAssignmentStore.put_byWorkItem, if_pos hid.symm]
  | _ => cases hwrites

lemma byWorkItem_of_no_write (h : Wired env op st r st') (hwrites : ¬ op.writesOffer = true) :
    st'.assignments.byWorkItem id = st.assignments.byWorkItem id := by
  rw [h.answers.assignments]
  cases op with
  | assignmentCreate => exact (hwrites rfl).elim
  | assignmentUpdate => exact (hwrites rfl).elim
  | _ => rfl

theorem Cells.keep (hmay : MayRace id closed answering op)
    (hcells : Cells id item₀ row₀ closed answering st) (h : Wired env op st r st') :
    Cells id item₀ row₀ closed answering st' := by
  constructor
  · by_cases hwrites : op.writesItem = true
    · obtain ⟨item,hitem,hclosed⟩ := byID_of_write hmay h hcells.1 hwrites
      exact ⟨item,hitem,.inr hclosed⟩
    · rw [ItemCell, byID_of_no_write hmay h hwrites]
      exact hcells.1
  · intro hanswering
    have hcell := hcells.2 hanswering
    by_cases hwrites : op.writesOffer = true
    · obtain ⟨row,hrow,hanswered⟩ :=
        byWorkItem_of_write (by simpa [hanswering] using hmay) h hcell hwrites
      exact ⟨row,hrow,.inr hanswered⟩
    · rw [OfferCell, byWorkItem_of_no_write h hwrites]
      exact hcell

/-- A contestant reads the item cell. -/
lemma itemRead_of_reads (hmay : MayRace id closed answering op) (h : Wired env op st r st')
    (hcell : ItemCell id item₀ closed st) (hreads : op.readsItem = true) :
    (∀ item, itemRead ⟨op,r⟩ = some item → item = item₀) ↔ st.items.byID id = some item₀ := by
  cases op with
  | storeGetByID ctx id' =>
    obtain rfl : id' = id := hmay
    obtain ⟨item,hitem,-⟩ := hcell
    obtain ⟨now,notifiedAt,hexec⟩ := h
    have hget : st.items.getByID id' = .ok item := MemoryStore.getByID_eq_ok.mpr hitem
    obtain rfl : r = .ok item := (congrArg Prod.fst hexec).symm.trans hget
    rw [hitem]
    simp [itemRead]
  | _ => cases hreads

lemma offerRead_of_reads (hmay : MayRace id closed True op) (h : Wired env op st r st')
    (hcell : OfferCell id row₀ st) (hreads : op.readsOffer = true) :
    (∀ row, offerRead ⟨op,r⟩ = some row → row = row₀) ↔
      st.assignments.byWorkItem id = some row₀ := by
  cases op with
  | assignmentGetByWorkItemID ctx id' =>
    obtain rfl : id' = id := hmay.2
    obtain ⟨row,hrow,-⟩ := hcell
    obtain ⟨now,notifiedAt,hexec⟩ := h
    have hget : st.assignments.getByWorkItemID id' = .ok row :=
      MemoryAssignmentStore.getByWorkItemID_eq_ok.mpr hrow
    obtain rfl : r = .ok row := (congrArg Prod.fst hexec).symm.trans hget
    rw [hrow]
    simp [offerRead]
  | _ => cases hreads

lemma not_readsOffer (hanswering : ¬ answering) (hmay : MayRace id closed answering op) :
    ¬ op.readsOffer = true := by
  cases op with
  | assignmentGetByWorkItemID => exact (hanswering hmay.1).elim
  | _ => exact Bool.false_ne_true

end Cells

/-- Only the two kinds of reads can return something other than the first rows. -/
lemma first_iff {item₀ : WorkItem} {row₀ : Assignment} (e : Event Op.Res) :
    First item₀ row₀ e ↔
      (e.op.readsItem = true → ∀ item, itemRead e = some item → item = item₀) ∧
      (e.op.readsOffer = true → ∀ row, offerRead e = some row → row = row₀) := by
  obtain ⟨op,r⟩ := e
  unfold First
  cases op <;> simp [Op.readsItem, Op.readsOffer, itemRead, offerRead]

/-- What the calls of a contest read, over every interleaving: each read returned its row as it
was at the start exactly if none came after a write. -/
lemma forall_first_iff {ι : Type} [DecidableEq ι] {env : Env} {id : String} {item₀ : WorkItem}
    {row₀ : Assignment} {closed : Status → Prop} {answering : Prop} {p q : Calls ι}
    {ls : List (ι × Event Op.Res)}
    (h : Trace (fun p l q => Pool.Step (Wired env) p l q ∧
      Cells id item₀ row₀ closed answering p.state ∧ MayRace id closed answering l.2.op) p ls q)
    (hitem : p.state.items.byID id = some item₀) (hopen : ¬ closed item₀.status)
    (hoffer : answering → p.state.assignments.byWorkItem id = some row₀ ∧ row₀.status = .assigned) :
    (∀ l ∈ ls, First item₀ row₀ l.2) ↔ Overlapping ls := by
  have hitems := h.reads_first_iff (fun p => p.state.items.byID id)
    (fun c => ∃ item, c = some item ∧ closed item.status) (fun l => l.2.op.readsItem = true)
    (fun l => l.2.op.writesItem = true) (fun l => ∀ item, itemRead l.2 = some item → item = item₀)
    hitem (by rintro ⟨item,h,hclosed⟩; cases h; exact hopen hclosed)
    (fun p l q hl hreads => itemRead_of_reads hl.2.2 hl.1.answered hl.2.1.1 hreads)
    (fun p l q hl hquiet => byID_of_no_write hl.2.2 hl.1.answered hquiet)
    (fun p l q hl hwrites => byID_of_write hl.2.2 hl.1.answered hl.2.1.1 hwrites)
  have hoffers : (∀ l ∈ ls, l.2.op.readsOffer = true →
      ∀ row, offerRead l.2 = some row → row = row₀) ↔
      ls.Pairwise fun a b => ¬ (a.2.op.writesOffer = true ∧ b.2.op.readsOffer = true) := by
    by_cases hanswering : answering
    · obtain ⟨hrow,hpending⟩ := hoffer hanswering
      obtain rfl : answering = True := eq_true hanswering
      exact h.reads_first_iff (fun p => p.state.assignments.byWorkItem id)
        (fun c => ∃ row, c = some row ∧ row.status ≠ .assigned) (fun l => l.2.op.readsOffer = true)
        (fun l => l.2.op.writesOffer = true) (fun l => ∀ row, offerRead l.2 = some row → row = row₀)
        hrow (by rintro ⟨row,h,hanswered⟩; cases h; exact hanswered hpending)
        (fun p l q hl hreads => offerRead_of_reads hl.2.2 hl.1.answered (hl.2.1.2 trivial) hreads)
        (fun p l q hl hquiet => byWorkItem_of_no_write hl.1.answered hquiet)
        (fun p l q hl hwrites => byWorkItem_of_write hl.2.2 hl.1.answered (hl.2.1.2 trivial) hwrites)
    · -- a race for the assignment never reads an offer
      have hnone : ∀ l ∈ ls, ¬ l.2.op.readsOffer = true := h.forall_label fun p l q hl =>
        not_readsOffer hanswering hl.2.2
      exact ⟨fun _ => List.pairwise_of_forall_mem_list fun a _ b hb hab => hnone b hb hab.2,
        fun _ l hl hreads => (hnone l hl hreads).elim⟩
  rw [Overlapping, List.pairwise_and_iff, ← hitems, ← hoffers, ← forall₂_and]
  exact forall₂_congr fun l _ => first_iff l.2

/-- The outcome of a contest: both calls succeed exactly if both are admitted on the first rows and
neither reads after the other has written. -/
lemma contest_outcome {env : Env} {s : Service} {id : String} {item₀ : WorkItem} {row₀ : Assignment}
    (closed : Status → Prop) (answering : Prop) {calls : Bool → Context × Call} {st : State}
    (hitem : st.items.byID id = some item₀)
    (hopen : (∀ i, s.Admits env item₀ (some row₀) (calls i).2) → ¬ closed item₀.status)
    (hoffer : answering → st.assignments.byWorkItem id = some row₀ ∧ row₀.status = .assigned)
    (hverdict : ∀ i, ((calls i).2.program s (calls i).1).Ensures
      (Pool.Rely (Wired env) (Cells id item₀ row₀ closed answering))
      (fun _ => MayRace id closed answering) (Verdict s env item₀ row₀ (calls i).2) [])
    {ls : List (Bool × Event Op.Res)} {p : Calls Bool}
    (hrun : Trace (Pool.Step (Wired env)) (begin s calls st) ls p)
    {results : Bool → Except Error Reply} (hdone : ∀ i, (p.thread i).result = some (results i)) :
    (∀ i, ∃ reply, results i = .ok reply) ↔
      (∀ i, s.Admits env item₀ (some row₀) (calls i).2) ∧ Overlapping ls := by
  have hcells : Cells id item₀ row₀ closed answering st :=
    ⟨⟨item₀,hitem,.inl rfl⟩,fun h => ⟨row₀,(hoffer h).1,.inl rfl⟩⟩
  obtain ⟨⟨-,hfinal⟩,htrace⟩ := Pool.inv_of_ensures
    (fun _ _ _ _ _ _ hmay hst h => hst.keep hmay h) hrun hcells hverdict
  have hread : (∀ i, AllFirst item₀ row₀ (p.seen i)) ↔ ∀ l ∈ ls, First item₀ row₀ l.2 := by
    constructor
    · rintro hall ⟨i,e⟩ hl
      exact hall i e ((Pool.mem_seen hrun i e).mpr hl)
    · intro hall i e he
      exact hall (i,e) ((Pool.mem_seen hrun i e).mp he)
  have hsplit : (∀ i, ∃ reply, results i = .ok reply) ↔
      (∀ i, s.Admits env item₀ (some row₀) (calls i).2) ∧ ∀ l ∈ ls, First item₀ row₀ l.2 := by
    rw [← hread, ← forall_and]
    exact forall_congr' fun i => (hfinal i).result (hdone i)
  rw [hsplit]
  exact and_congr_right fun hadmits => forall_first_iff htrace hitem (hopen hadmits) hoffer

/-- Both calls of a contest are of one kind, on rows that are stored. -/
lemma Contest.both {st : State} {id : String} {calls : Bool → Context × Call}
    (h : Contest st id (calls false).2 (calls true).2) :
    (∃ item, st.items.byID id = some item ∧ item.status = .created ∧
      ∀ i, ∃ assigner admin supervisor input,
        (calls i).2 = .assignWorkItem id assigner admin supervisor input) ∨
    ∃ item row, st.items.byID id = some item ∧ st.assignments.byWorkItem id = some row ∧
      row.status = .assigned ∧ ∀ i, ∃ user requester accept input,
        (calls i).2 = .respondToAssignment id user requester accept input := by
  generalize hfirst : (calls false).2 = c at h
  generalize hsecond : (calls true).2 = c' at h
  cases h with
  | assign found created =>
    refine .inl ⟨_,found,created,fun i => ?_⟩
    cases i
    · exact ⟨_,_,_,_,hfirst⟩
    · exact ⟨_,_,_,_,hsecond⟩
  | respond found offered pending =>
    refine .inr ⟨_,_,found,offered,pending,fun i => ?_⟩
    cases i
    · exact ⟨_,_,_,_,hfirst⟩
    · exact ⟨_,_,_,_,hsecond⟩

theorem single_winner_iff (hasNotifier hasTeamAuthority : Bool) (env : Env) {st : State}
    (hreach : Reachable hasNotifier hasTeamAuthority st) {id : String}
    (calls : Bool → Context × Call) (hcontest : Contest st id (calls false).2 (calls true).2)
    {ls : List (Bool × Event Op.Res)} {p : Calls Bool}
    (hrun : Trace (Pool.Step (Wired env)) (begin (.inMemory hasNotifier hasTeamAuthority) calls st)
      ls p)
    {results : Bool → Except Error Reply} (hdone : ∀ i, (p.thread i).result = some (results i)) :
    (¬ ∀ i, ∃ reply, results i = .ok reply) ↔
      (¬ ∀ i, Service.AdmitsAt (.inMemory hasNotifier hasTeamAuthority) env st id (calls i).2) ∨
        ¬ Overlapping ls := by
  rw [← not_and_or]
  apply not_congr
  rcases hcontest.both with ⟨item,hitem,hcreated,hcalls⟩ |
      ⟨item,row,hitem,hrow,hpending,hcalls⟩
  · -- an assignment reads no offer, so any row may stand in for it
    have hadmits : ∀ i, Service.AdmitsAt (.inMemory hasNotifier hasTeamAuthority) env st id
        (calls i).2 ↔ Service.Admits (.inMemory hasNotifier hasTeamAuthority) env item
          (some (newAssignment "" "" "" 0)) (calls i).2 := by
      intro i
      obtain ⟨assigner,admin,supervisor,input,hcall⟩ := hcalls i
      simp only [Service.AdmitsAt, hitem, Option.some.injEq, exists_eq_left', hcall, Service.Admits]
    rw [forall_congr' hadmits]
    refine contest_outcome Unassignable False hitem (fun _ => ?_) False.elim (fun i => ?_) hrun hdone
    · rw [Unassignable, hcreated]; decide
    · obtain ⟨assigner,admin,supervisor,input,hcall⟩ := hcalls i
      rw [hcall]
      exact assign_verdict item _ _ rfl (fun _ h => h.1) assigner admin supervisor input
  · have hadmits : ∀ i, Service.AdmitsAt (.inMemory hasNotifier hasTeamAuthority) env st id
        (calls i).2 ↔ Service.Admits (.inMemory hasNotifier hasTeamAuthority) env item
          (some row) (calls i).2 := by
      intro i
      simp only [Service.AdmitsAt, hitem, hrow, Option.some.injEq, exists_eq_left']
    rw [forall_congr' hadmits]
    refine contest_outcome Unanswerable True hitem (fun hall hclosed => ?_)
      (fun _ => ⟨hrow,hpending⟩) (fun i => ?_) hrun hdone
    · obtain ⟨user,requester,accept,input,hcall⟩ := hcalls false
      have hfalse := hall false
      rw [hcall] at hfalse
      obtain ⟨-,-,-,-,hvalid⟩ := hfalse
      rw [hclosed accept] at hvalid
      cases hvalid
    · obtain ⟨user,requester,accept,input,hcall⟩ := hcalls i
      rw [hcall]
      exact respond_verdict item row _ rfl (fun _ h => h.1) (fun _ h => h.2 trivial)
        (hreach.sound.assignments _ _ hrow) user requester accept input

/-- A clock that stands still, an authority that supervises nobody, and a notifier that works. -/
def delivering : Env := ⟨7,fun _ _ => .ok false,fun _ => .ok [],Notifications.notifyMemory 7⟩

lemma delivering_wired (op : Op) (st : State) :
    Wired delivering op st (exec delivering op st).1 (exec delivering op st).2 := ⟨7,7,rfl⟩

/-- One admin creates an item, over and over. -/
def creations (_ : ℕ) : Context × Call :=
  (background,.create "admin-1" ⟨"Repair pump","Pump 4 leaks",.high,none,none⟩)

/-- The stores after the first item. -/
def afterCreation : State :=
  ((begin (.inMemory true true) creations .empty).play (exec delivering) [0,0]).2.state

lemma afterCreation_reachable : Reachable true true afterCreation :=
  ⟨creations,_,_,(Pool.trace_play (fun op st => (delivering_wired op st).answers) _ _ [0,0]
    (Pool.passes_true _ _)).imp fun _ _ _ h => h.1,rfl⟩

/-- Two admins assign the item to two different workers. -/
def assignTwice (second : Bool) : Context × Call :=
  if second then (background,.assignWorkItem "workitem-0001" "admin-2" true false ⟨"worker-2"⟩)
  else (background,.assignWorkItem "workitem-0001" "admin-1" true false ⟨"worker-1"⟩)

lemma assignTwice_contest :
    Contest afterCreation "workitem-0001" (assignTwice false).2 (assignTwice true).2 := by
  have hcreated : (afterCreation.items.byID "workitem-0001").map (·.status) = some .created := by
    decide +kernel
  obtain ⟨item,hitem,hstatus⟩ := Option.map_eq_some_iff.mp hcreated
  exact .assign hitem hstatus

/-- The two assignments after the steps of a schedule. -/
def assignTwiceRun (schedule : List Bool) : List (Bool × Event Op.Res) × Calls Bool :=
  (begin (.inMemory true true) assignTwice afterCreation).play (exec delivering) schedule

lemma assignTwice_run (schedule : List Bool) :
    Trace (Pool.Step (Wired delivering)) (begin (.inMemory true true) assignTwice afterCreation)
      (assignTwiceRun schedule).1 (assignTwiceRun schedule).2 :=
  (Pool.trace_play delivering_wired _ _ schedule (Pool.passes_true _ _)).imp fun _ _ _ h => h.1

/-- What a call answered, once it is done. -/
def resultOf (p : Calls Bool) (i : Bool) : Except Error Reply :=
  ((p.thread i).result).getD (.error errInvalidInput)

lemma resultOf_done {p : Calls Bool} (h : ∀ i, (p.thread i).result.isSome = true) (i : Bool) :
    (p.thread i).result = some (resultOf p i) := by
  obtain ⟨x,hx⟩ := Option.isSome_iff_exists.mp (h i)
  rw [resultOf, hx, Option.getD_some]

/-- One after the other: the second assignment is refused. -/
theorem single_winner_iff_sequential :
    ¬ ∀ i, ∃ reply, resultOf (assignTwiceRun
      [false,false,false,false,false,false,false,true]).2 i = .ok reply :=
  (single_winner_iff true true delivering afterCreation_reachable assignTwice assignTwice_contest
    (assignTwice_run _) (resultOf_done (by decide +kernel))).mpr (.inr (by decide +kernel))

/-- Both read the created item, then both assign it. -/
theorem two_winners :
    ¬ ∀ (hasNotifier hasTeamAuthority : Bool) (env : Env) (st : State),
      Reachable hasNotifier hasTeamAuthority st → ∀ (id : String) (calls : Bool → Context × Call),
      Contest st id (calls false).2 (calls true).2 →
      ∀ (ls : List (Bool × Event Op.Res)) (p : Calls Bool),
      Trace (Pool.Step (Wired env)) (begin (.inMemory hasNotifier hasTeamAuthority) calls st) ls p →
      ∀ results : Bool → Except Error Reply, (∀ i, (p.thread i).result = some (results i)) →
      ¬ ∀ i, ∃ reply, results i = .ok reply := by
  intro h
  let p := (assignTwiceRun ([false,true] ++ List.replicate 6 false ++ List.replicate 6 true)).2
  have hboth : ∀ i, (resultOf p i).toOption.isSome = true := by decide +kernel
  refine h true true delivering afterCreation afterCreation_reachable "workitem-0001" assignTwice
    assignTwice_contest _ p (assignTwice_run _) (resultOf p) (resultOf_done (by decide +kernel)) ?_
  intro i
  have hi := hboth i
  cases hx : resultOf p i with
  | error e => rw [hx] at hi; cases hi
  | ok reply => exact ⟨reply,rfl⟩

end OpsPlatform.Workitems
