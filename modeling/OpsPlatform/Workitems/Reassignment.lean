import OpsPlatform.Db.Sql
import OpsPlatform.Interaction.Interchange
import OpsPlatform.Workitems.Store

/-! The in-memory and the Postgres store of assignments. A work item that is assigned again gets a
new row in memory, with a new id, and keeps the id of its first row in Postgres; apart from that
the two stores answer alike. -/
namespace OpsPlatform.Workitems
open OpsPlatform.Go OpsPlatform.Db Interaction

/-- The calls of the `AssignmentStore` interface. -/
inductive AssignmentOp
  | create (assignment : Assignment)
  | getByWorkItemID (workItemID : String)
  | update (assignment : Assignment)

abbrev AssignmentOp.Res : AssignmentOp → Type := fun _ => Except Error Assignment

def MemoryAssignmentStore.exec : (op : AssignmentOp) → MemoryAssignmentStore →
    op.Res × MemoryAssignmentStore
  | .create assignment, s => s.create assignment
  | .getByWorkItemID workItemID, s => (s.getByWorkItemID workItemID,s)
  | .update assignment, s => s.update assignment

def MemoryAssignmentStore.Answers (op : AssignmentOp) (s : MemoryAssignmentStore) (r : op.Res)
    (t : MemoryAssignmentStore) : Prop :=
  s.exec op = (r,t)

/-- The table `assignments`, in no particular order, and the last value of its sequence. -/
structure PostgresAssignmentStore where
  seq : ℕ
  rows : List Assignment

namespace PostgresAssignmentStore

def empty : PostgresAssignmentStore := ⟨0,[]⟩

def findByWorkItem (s : PostgresAssignmentStore) (workItemID : String) : Option Assignment :=
  s.rows.find? fun row => row.workItemID = workItemID

/-- The columns that `ON CONFLICT (work_item_id) DO UPDATE` sets. -/
def overwrite (assignment row : Assignment) : Assignment :=
  { row with
    assignedByUserID := assignment.assignedByUserID, assignedToUserID := assignment.assignedToUserID
    status := assignment.status, assignedAt := assignment.assignedAt
    respondedAt := assignment.respondedAt, responseNote := assignment.responseNote }

/-- The number is taken from the sequence in any case. `workItems` are the ids the foreign key
may refer to. -/
def create (s : PostgresAssignmentStore) (workItems : List String) (assignment : Assignment) :
    Except Error Assignment × PostgresAssignmentStore :=
  let n := s.seq + 1
  let row := { assignment with id := Sql.numbered "assignment-" n }
  match s.findByWorkItem assignment.workItemID with
  | some old => (.ok (overwrite assignment old),⟨n,s.rows.map fun row =>
      if row.workItemID = assignment.workItemID then overwrite assignment row else row⟩)
  | none =>
    if s.rows.any fun old => old.id = row.id then
      (.error ⟨"workitems: scan assignment: " ++ (Sql.uniqueViolation "assignments_pkey").text⟩,
        ⟨n,s.rows⟩)
    else if assignment.workItemID ∉ workItems then
      (.error ⟨"workitems: scan assignment: ERROR: insert or update on table \"assignments\" " ++
        "violates foreign key constraint \"assignments_work_item_id_fkey\" (SQLSTATE 23503)"⟩,
        ⟨n,s.rows⟩)
    else (.ok row,⟨n,s.rows ++ [row]⟩)

def getByWorkItemID (s : PostgresAssignmentStore) (workItemID : String) :
    Except Error Assignment :=
  match s.findByWorkItem workItemID with
  | none => .error errAssignmentNotFound
  | some row => .ok row

/-- The columns that `UPDATE` sets. -/
def set (assignment row : Assignment) : Assignment :=
  { row with
    status := assignment.status, respondedAt := assignment.respondedAt
    responseNote := assignment.responseNote }

def update (s : PostgresAssignmentStore) (assignment : Assignment) :
    Except Error Assignment × PostgresAssignmentStore :=
  match s.findByWorkItem assignment.workItemID with
  | none => (.error errAssignmentNotFound,s)
  | some old => (.ok (set assignment old),⟨s.seq,s.rows.map fun row =>
      if row.workItemID = assignment.workItemID then set assignment row else row⟩)

/-- The work item of a new row is in its table: the service has read it before. -/
def Answers : (op : AssignmentOp) → PostgresAssignmentStore → op.Res → PostgresAssignmentStore → Prop
  | .create assignment, s, r, t => ∃ workItems, assignment.workItemID ∈ workItems ∧
    s.create workItems assignment = (r,t)
  | .getByWorkItemID workItemID, s, r, t => (s.getByWorkItemID workItemID,s) = (r,t)
  | .update assignment, s, r, t => s.update assignment = (r,t)

end PostgresAssignmentStore

/-- Two rows differ at most in the response. -/
structure SameOffer (a b : Assignment) : Prop where
  id : a.id = b.id
  workItemID : a.workItemID = b.workItemID
  assignedByUserID : a.assignedByUserID = b.assignedByUserID
  assignedToUserID : a.assignedToUserID = b.assignedToUserID
  assignedAt : a.assignedAt = b.assignedAt

lemma SameOffer.refl (a : Assignment) : SameOffer a a := ⟨rfl,rfl,rfl,rfl,rfl⟩

lemma SameOffer.symm {a b : Assignment} (h : SameOffer a b) : SameOffer b a :=
  ⟨h.id.symm,h.workItemID.symm,h.assignedByUserID.symm,h.assignedToUserID.symm,h.assignedAt.symm⟩

lemma SameOffer.trans {a b c : Assignment} (h : SameOffer a b) (h' : SameOffer b c) :
    SameOffer a c :=
  ⟨h.id.trans h'.id,h.workItemID.trans h'.workItemID,h.assignedByUserID.trans h'.assignedByUserID,
    h.assignedToUserID.trans h'.assignedToUserID,h.assignedAt.trans h'.assignedAt⟩

lemma SameOffer.set_eq {assignment row : Assignment} (h : SameOffer row assignment) :
    PostgresAssignmentStore.set assignment row = assignment := by
  obtain ⟨hid,hitem,hby,hto,hat⟩ := h
  cases assignment
  simp only at hid hitem hby hto hat
  simp [PostgresAssignmentStore.set, hid, hitem, hby, hto, hat]

/-- A call as the service issues it: an answered row is one `GetByWorkItemID` has returned. -/
def AssignmentIssued (es : List (Event AssignmentOp.Res)) : AssignmentOp → Prop
  | .update assignment => ∃ workItemID old, ⟨.getByWorkItemID workItemID,.ok old⟩ ∈ es ∧
    SameOffer old assignment
  | _ => True

/-- The work item that a call assigns. -/
def AssignmentOp.assigns : AssignmentOp → Option String
  | .create assignment => some assignment.workItemID
  | _ => none

/-- The work items that were assigned so far. -/
def assignedItems (es : List (Event AssignmentOp.Res)) : List String :=
  es.filterMap fun e => e.op.assigns

lemma assignedItems_concat (es : List (Event AssignmentOp.Res)) (e : Event AssignmentOp.Res) :
    assignedItems (es ++ [e]) = assignedItems es ++ e.op.assigns.toList := by
  rw [assignedItems, List.filterMap_append]
  cases h : e.op.assigns <;> simp [h, assignedItems]

lemma assignedItems_quiet (es : List (Event AssignmentOp.Res)) {e : Event AssignmentOp.Res}
    (h : e.op.assigns = none) : assignedItems (es ++ [e]) = assignedItems es := by
  rw [assignedItems_concat, h, Option.toList_none, List.append_nil]

/-- No work item is assigned that was assigned before. -/
def FirstAssignment (es : List (Event AssignmentOp.Res)) (op : AssignmentOp) : Prop :=
  ∀ id ∈ op.assigns, id ∉ assignedItems es

/-- The table and the map hold the same rows, under numbers already given, for the work items that
were assigned; a row that was read is of the offer of the stored one. -/
structure Matches (es : List (Event AssignmentOp.Res)) (m : MemoryAssignmentStore)
    (p : PostgresAssignmentStore) : Prop where
  seq : p.seq = m.seq
  found : ∀ id, p.findByWorkItem id = m.byWorkItem id
  numbered : ∀ row ∈ p.rows, ∃ n ≤ m.seq, row.id = sprintf04d "assignment-" n
  created : ∀ id, (m.byWorkItem id).isSome ↔ id ∈ assignedItems es
  read : ∀ id old, ⟨.getByWorkItemID id,.ok old⟩ ∈ es →
    ∃ row, m.byWorkItem old.workItemID = some row ∧ SameOffer row old

section Matches
variable {es : List (Event AssignmentOp.Res)} {m m' : MemoryAssignmentStore}
  {p p' : PostgresAssignmentStore} {assignment : Assignment}

lemma matches_new : Matches [] .new .empty where
  seq := rfl
  found _ := rfl
  numbered := by simp [PostgresAssignmentStore.empty]
  created := by simp [MemoryAssignmentStore.new, assignedItems]
  read := by simp

/-- The first assignment of a work item has just read `none` in both stores. -/
lemma Matches.free (h : Matches es m p) (hfirst : FirstAssignment es (.create assignment)) :
    m.byWorkItem assignment.workItemID = none := by
  rw [← Option.not_isSome_iff_eq_none, h.created]
  exact hfirst _ rfl

lemma Matches.create (h : Matches es m p) (hfirst : FirstAssignment es (.create assignment))
    {workItems : List String} (hmem : assignment.workItemID ∈ workItems) :
    (p.create workItems assignment).1 = (m.create assignment).1 ∧
      Matches (es ++ [⟨.create assignment,(m.create assignment).1⟩]) (m.create assignment).2
        (p.create workItems assignment).2 := by
  have hfree := h.free hfirst
  have hid : ∀ old ∈ p.rows, old.id ≠ sprintf04d "assignment-" (m.seq+1) := by
    intro old hold hid
    obtain ⟨n,hn,heq⟩ := h.numbered old hold
    have := sprintf04d_injective _ (heq.symm.trans hid)
    omega
  obtain ⟨row,hrow⟩ : ∃ row, row = { assignment with id := sprintf04d "assignment-" (m.seq+1) } :=
    ⟨_,rfl⟩
  have hitem : row.workItemID = assignment.workItemID := by rw [hrow]
  have hmemory : m.create assignment = (.ok row,m.put (m.seq+1) row) := by rw [hrow]; rfl
  have hpg : p.create workItems assignment = (.ok row,⟨m.seq+1,p.rows ++ [row]⟩) := by
    simp only [PostgresAssignmentStore.create, h.found, hfree, Sql.numbered_eq, h.seq, hrow]
    rw [if_neg (by simpa using hid), if_neg (by simpa using hmem)]
  rw [hpg, hmemory]
  refine ⟨rfl,rfl,fun id => ?_,?_,fun id => ?_,fun id old hold => ?_⟩
  · have hfound := h.found id
    unfold PostgresAssignmentStore.findByWorkItem at hfound
    rw [m.put_byWorkItem, PostgresAssignmentStore.findByWorkItem, List.find?_append, hfound]
    split_ifs with heq
    · rw [heq, hitem, hfree]
      simp [hitem]
    · simp [Ne.symm heq]
  · intro old hold
    rw [List.mem_append, List.mem_singleton] at hold
    obtain hold | rfl := hold
    · obtain ⟨n,hn,heq⟩ := h.numbered old hold
      exact ⟨n,hn.trans (Nat.le_succ _),heq⟩
    · exact ⟨m.seq+1,le_rfl,by rw [hrow]⟩
  · rw [m.put_byWorkItem, hitem, assignedItems_concat]
    split_ifs with heq
    · simp [AssignmentOp.assigns, heq]
    · rw [h.created]
      simp [AssignmentOp.assigns, heq]
  · obtain hold | hold := List.mem_append.mp hold
    · obtain ⟨row',hrow',hsame⟩ := h.read id old hold
      refine ⟨row',?_,hsame⟩
      rw [m.put_byWorkItem, if_neg, hrow']
      intro heq
      rw [heq, hitem, hfree] at hrow'
      cases hrow'
    · cases List.mem_singleton.mp hold

/-- A repeated assignment has a new id in memory and the first one in Postgres. -/
lemma Matches.recreate (h : Matches es m p) (hagain : ¬ FirstAssignment es (.create assignment))
    (workItems : List String) :
    (p.create workItems assignment).1 ≠ (m.create assignment).1 := by
  have hsome : (m.byWorkItem assignment.workItemID).isSome := by
    rw [h.created]
    simpa [FirstAssignment, AssignmentOp.assigns] using hagain
  obtain ⟨old,hold⟩ := Option.isSome_iff_exists.mp hsome
  rw [← h.found] at hold
  obtain ⟨n,hn,hid⟩ := h.numbered old (List.mem_of_find?_eq_some hold)
  rw [m.create_fst, PostgresAssignmentStore.create]
  simp only [hold]
  intro hsame
  have hids := congrArg Assignment.id (Except.ok.inj hsame)
  have := sprintf04d_injective _ (hid.symm.trans hids)
  omega

lemma Matches.update (h : Matches es m p) (hissued : AssignmentIssued es (.update assignment)) :
    (p.update assignment).1 = (m.update assignment).1 ∧
      Matches (es ++ [⟨.update assignment,(m.update assignment).1⟩]) (m.update assignment).2
        (p.update assignment).2 := by
  obtain ⟨id,old,hold,hedit⟩ := hissued
  obtain ⟨row,hrow,hread⟩ := h.read id old hold
  rw [hedit.workItemID] at hrow
  have hsame : SameOffer row assignment := hread.trans hedit
  have hmemory : m.update assignment = (.ok assignment,m.put m.seq assignment) :=
    m.update_eq assignment (by rw [hrow]; rfl)
  have hfound := h.found assignment.workItemID
  rw [hrow] at hfound
  have hkey : ∀ row, (PostgresAssignmentStore.set assignment row).workItemID = row.workItemID :=
    fun _ => rfl
  rw [hmemory, PostgresAssignmentStore.update]
  simp only [hfound, hsame.set_eq]
  refine ⟨trivial,h.seq,fun id' => ?_,?_,fun id' => ?_,fun id' old' hold' => ?_⟩
  · have hupdated := Sql.find?_update Assignment.workItemID hkey p.rows assignment.workItemID id'
    rw [m.put_byWorkItem, PostgresAssignmentStore.findByWorkItem, hupdated,
      ← PostgresAssignmentStore.findByWorkItem, h.found]
    split_ifs with heq
    · rw [heq, hrow, Option.map_some, hsame.set_eq]
    · rfl
  · rw [List.forall_mem_map]
    intro old hold
    obtain ⟨n,hn,heq⟩ := h.numbered old hold
    refine ⟨n,hn,?_⟩
    split_ifs <;> exact heq
  · rw [m.put_byWorkItem, assignedItems_quiet _ rfl, ← h.created]
    split_ifs with heq
    · simp [heq, hrow]
    · rfl
  · obtain hold' | hold' := List.mem_append.mp hold'
    · obtain ⟨row',hrow',hsame'⟩ := h.read id' old' hold'
      rw [m.put_byWorkItem]
      split_ifs with heq
      · rw [heq, hrow] at hrow'
        cases hrow'
        exact ⟨assignment,rfl,hsame.symm.trans hsame'⟩
      · exact ⟨row',hrow',hsame'⟩
    · cases List.mem_singleton.mp hold'

/-- The step lemma: a call other than a repeated assignment is answered alike. -/
lemma Matches.step (h : Matches es m p) {op : AssignmentOp} {r r' : op.Res}
    (hissued : AssignmentIssued es op) (hfirst : FirstAssignment es op) (hm : m.Answers op r m')
    (hp : p.Answers op r' p') : r' = r ∧ Matches (es ++ [⟨op,r⟩]) m' p' := by
  cases op with
  | create assignment =>
    obtain ⟨workItems,hmem,hp⟩ := hp
    obtain ⟨rfl,rfl⟩ := Prod.mk.inj hm
    obtain ⟨rfl,rfl⟩ := Prod.mk.inj hp
    exact h.create hfirst hmem
  | update assignment =>
    obtain ⟨rfl,rfl⟩ := Prod.mk.inj hm
    obtain ⟨rfl,rfl⟩ := Prod.mk.inj hp
    exact h.update hissued
  | getByWorkItemID id =>
    obtain ⟨rfl,rfl⟩ := Prod.mk.inj hm
    obtain ⟨rfl,rfl⟩ := Prod.mk.inj hp
    have hsame : p.getByWorkItemID id = m.getByWorkItemID id := by
      rw [PostgresAssignmentStore.getByWorkItemID, h.found, MemoryAssignmentStore.getByWorkItemID]
      cases m.byWorkItem id <;> rfl
    refine ⟨hsame,{ h with created := fun id' => ?_, read := fun id' old hold => ?_ }⟩
    · rw [assignedItems_quiet _ rfl]
      exact h.created id'
    · obtain hold | hold := List.mem_append.mp hold
      · exact h.read id' old hold
      · obtain ⟨hop,hfound⟩ := Event.mk.inj (List.mem_singleton.mp hold)
        obtain rfl := AssignmentOp.getByWorkItemID.inj hop
        have hfound := MemoryAssignmentStore.getByWorkItemID_eq_ok.mp (eq_of_heq hfound).symm
        exact ⟨old,by rw [m.keyed hfound, hfound],.refl old⟩

/-- And a repeated assignment is not. -/
lemma Matches.apart (h : Matches es m p) {op : AssignmentOp} {r r' : op.Res}
    (hagain : ¬ FirstAssignment es op) (hm : m.Answers op r m') (hp : p.Answers op r' p') :
    r' ≠ r := by
  cases op with
  | create assignment =>
    obtain ⟨workItems,_,hp⟩ := hp
    obtain ⟨rfl,rfl⟩ := Prod.mk.inj hm
    obtain ⟨rfl,rfl⟩ := Prod.mk.inj hp
    exact h.recreate hagain workItems
  | _ => exact (hagain (by intro id hid; cases hid)).elim

end Matches

/-- The stores answer the calls of the service alike exactly if no work item is assigned twice. -/
theorem assignment_stores_interchangeable_iff {es es' : List (Event AssignmentOp.Res)}
    {m : MemoryAssignmentStore} {p : PostgresAssignmentStore}
    (hm : Trace (Answered MemoryAssignmentStore.Answers) .new es m)
    (hp : Trace (Answered PostgresAssignmentStore.Answers) .empty es' p)
    (hops : es'.map (·.op) = es.map (·.op)) (hissued : Admissible AssignmentIssued es) :
    es' = es ↔ Admissible FirstAssignment es :=
  transcripts_eq_iff matches_new
    (fun _ _ _ _ _ _ _ _ h hissued hfirst hm hp => h.step hissued hfirst hm hp)
    (fun _ _ _ _ _ _ _ _ h _ hagain hm hp => h.apart hagain hm hp) hm hp hops hissued

def sampleOffer (assignedToUserID : String) : Assignment :=
  ⟨"","workitem-0001","admin-1",assignedToUserID,.assigned,1,none,none⟩

/-- The row of an offer under a number, and what it becomes when it is declined. -/
def numberedOffer (n : ℕ) (assignedToUserID : String) : Assignment :=
  { sampleOffer assignedToUserID with id := sprintf04d "assignment-" n }

def declinedOffer : Assignment :=
  { numberedOffer 1 "ada" with status := .declined, respondedAt := some 2 }

/-- An offer is made, read and declined. -/
def sampleDecline : List (Event AssignmentOp.Res) :=
  [⟨.create (sampleOffer "ada"),.ok (numberedOffer 1 "ada")⟩,
    ⟨.getByWorkItemID "workitem-0001",.ok (numberedOffer 1 "ada")⟩,
    ⟨.update declinedOffer,.ok declinedOffer⟩]

lemma sampleDecline_issued : Admissible AssignmentIssued sampleDecline := by
  refine ((Admissible.nil.snoc trivial).snoc trivial).snoc ?_
  exact ⟨"workitem-0001",numberedOffer 1 "ada",by simp,⟨rfl,rfl,rfl,rfl,rfl⟩⟩

lemma memory_sampleDecline :
    ∃ m, m.seq = 1 ∧ Trace (Answered MemoryAssignmentStore.Answers) .new sampleDecline m := by
  let m := (MemoryAssignmentStore.new.create (sampleOffer "ada")).2
  have hstored : m.byWorkItem "workitem-0001" = some (numberedOffer 1 "ada") :=
    (MemoryAssignmentStore.put_byWorkItem _ _ _ _).trans (if_pos rfl)
  have hcreate : Answered MemoryAssignmentStore.Answers .new
      (⟨.create (sampleOffer "ada"),.ok (numberedOffer 1 "ada")⟩ : Event AssignmentOp.Res) m := rfl
  have hget : Answered MemoryAssignmentStore.Answers m (⟨.getByWorkItemID "workitem-0001",
      .ok (numberedOffer 1 "ada")⟩ : Event AssignmentOp.Res) m :=
    Prod.ext (MemoryAssignmentStore.getByWorkItemID_eq_ok.mpr hstored) rfl
  have hsome : (m.byWorkItem declinedOffer.workItemID).isSome := by
    rw [show declinedOffer.workItemID = "workitem-0001" from rfl, hstored]
    rfl
  have hupdate : Answered MemoryAssignmentStore.Answers m
      (⟨.update declinedOffer,.ok declinedOffer⟩ : Event AssignmentOp.Res)
      (m.put m.seq declinedOffer) := m.update_eq declinedOffer hsome
  exact ⟨_,rfl,((Trace.nil.snoc hcreate).snoc hget).snoc hupdate⟩

lemma postgres_sampleDecline : Trace (Answered PostgresAssignmentStore.Answers) .empty sampleDecline
    ⟨1,[declinedOffer]⟩ := by
  let p : PostgresAssignmentStore := ⟨1,[numberedOffer 1 "ada"]⟩
  have hcreate : Answered PostgresAssignmentStore.Answers .empty
      (⟨.create (sampleOffer "ada"),.ok (numberedOffer 1 "ada")⟩ : Event AssignmentOp.Res) p := by
    refine ⟨["workitem-0001"],by simp [sampleOffer],?_⟩
    simp [PostgresAssignmentStore.create, PostgresAssignmentStore.empty, Sql.numbered_eq,
      PostgresAssignmentStore.findByWorkItem, p, numberedOffer, sampleOffer]
  have hget : Answered PostgresAssignmentStore.Answers p (⟨.getByWorkItemID "workitem-0001",
      .ok (numberedOffer 1 "ada")⟩ : Event AssignmentOp.Res) p := rfl
  have hupdate : Answered PostgresAssignmentStore.Answers p
      (⟨.update declinedOffer,.ok declinedOffer⟩ : Event AssignmentOp.Res) ⟨1,[declinedOffer]⟩ := rfl
  exact ((Trace.nil.snoc hcreate).snoc hget).snoc hupdate

theorem assignment_stores_interchangeable_decline : Admissible FirstAssignment sampleDecline := by
  obtain ⟨m,_,hm⟩ := memory_sampleDecline
  exact (assignment_stores_interchangeable_iff hm postgres_sampleDecline rfl
    sampleDecline_issued).mp rfl

/-- The second row of the work item has number 2 in memory and number 1 in Postgres. -/
theorem reassignment_ids_differ :
    ¬ ∀ (es es' : List (Event AssignmentOp.Res)) (m : MemoryAssignmentStore)
      (p : PostgresAssignmentStore), Trace (Answered MemoryAssignmentStore.Answers) .new es m →
      Trace (Answered PostgresAssignmentStore.Answers) .empty es' p →
      es'.map (·.op) = es.map (·.op) → Admissible AssignmentIssued es → es' = es := by
  intro h
  obtain ⟨m,hseq,hm⟩ := memory_sampleDecline
  have hmemory : Answered MemoryAssignmentStore.Answers m (⟨.create (sampleOffer "bob"),
      .ok (numberedOffer 2 "bob")⟩ : Event AssignmentOp.Res) (m.create (sampleOffer "bob")).2 :=
    Prod.ext (by rw [MemoryAssignmentStore.exec, m.create_fst, hseq]; rfl) rfl
  have hpostgres : Answered PostgresAssignmentStore.Answers ⟨1,[declinedOffer]⟩
      (⟨.create (sampleOffer "bob"),.ok (numberedOffer 1 "bob")⟩ : Event AssignmentOp.Res)
      ⟨2,[numberedOffer 1 "bob"]⟩ :=
    ⟨["workitem-0001"],by simp [sampleOffer],rfl⟩
  have hsame := h _ _ _ _ (hm.snoc hmemory) (postgres_sampleDecline.snoc hpostgres) rfl
    (sampleDecline_issued.snoc trivial)
  rw [List.append_cancel_left_eq, List.cons.injEq, Event.mk.injEq] at hsame
  have hids := congrArg Assignment.id (Except.ok.inj (eq_of_heq hsame.1.2))
  have := sprintf04d_injective _ hids
  omega

end OpsPlatform.Workitems
