import OpsPlatform.Db.Sql
import OpsPlatform.Interaction.Interchange
import OpsPlatform.Workitems.Visibility

/-! The in-memory and the Postgres store of work items answer the same calls alike: the table holds
the rows of the map in the order of their numbers, and a call cannot tell them apart. -/
namespace OpsPlatform.Workitems
open OpsPlatform.Go OpsPlatform.Db Interaction

/-- The calls of the `Store` interface. -/
inductive StoreOp
  | create (item : WorkItem)
  | list
  | listByAssignedToUserID (userID : String)
  | listByCreatedByUserID (userID : String)
  | getByID (id : String)
  | update (item : WorkItem)

abbrev StoreOp.Res : StoreOp → Type
  | .create _ | .getByID _ | .update _ => Except Error WorkItem
  | .list | .listByAssignedToUserID _ | .listByCreatedByUserID _ => Except Error (List WorkItem)

def MemoryStore.exec : (op : StoreOp) → MemoryStore → op.Res × MemoryStore
  | .create item, s => s.create item
  | .list, s => (s.list,s)
  | .listByAssignedToUserID userID, s => (s.listByAssignedToUserID userID,s)
  | .listByCreatedByUserID userID, s => (s.listByCreatedByUserID userID,s)
  | .getByID id, s => (s.getByID id,s)
  | .update item, s => s.update item

def MemoryStore.Answers (op : StoreOp) (s : MemoryStore) (r : op.Res) (t : MemoryStore) : Prop :=
  s.exec op = (r,t)

/-- The table `work_items`, in no particular order, and the last value of its sequence. -/
structure PostgresStore where
  seq : ℕ
  rows : List WorkItem

namespace PostgresStore

def empty : PostgresStore := ⟨0,[]⟩

/-- The row `INSERT` makes of a number. -/
def inserted (item : WorkItem) (n : ℕ) : WorkItem :=
  { item with id := Sql.numbered "workitem-" n, referenceCode := Sql.numbered "WI-" n }

/-- The number is taken from the sequence even where a constraint refuses the row. -/
def create (s : PostgresStore) (item : WorkItem) : Except Error WorkItem × PostgresStore :=
  let n := s.seq + 1
  let row := inserted item n
  if s.rows.any fun old => old.id = row.id then
    (.error ⟨"workitems: scan: " ++ (Sql.uniqueViolation "work_items_pkey").text⟩,⟨n,s.rows⟩)
  else if s.rows.any fun old => old.referenceCode = row.referenceCode then
    (.error ⟨"workitems: scan: " ++ (Sql.uniqueViolation "work_items_reference_code_key").text⟩,
      ⟨n,s.rows⟩)
  else (.ok row,⟨n,s.rows ++ [row]⟩)

/-- `created_at DESC`. -/
def Newer (a b : WorkItem) : Prop := b.createdAt < a.createdAt

/-- A listing may return the chosen rows in any order the instants of creation allow. -/
def Lists (s : PostgresStore) (test : WorkItem → Bool) (r : Except Error (List WorkItem)) : Prop :=
  ∃ items, r = .ok items ∧ Sql.OrderedBy Newer (s.rows.filter test) items

def getByID (s : PostgresStore) (id : String) : Except Error WorkItem :=
  match s.rows.find? fun row => row.id = id with
  | none => .error errNotFound
  | some row => .ok row

/-- The columns that `UPDATE` sets. -/
def set (item row : WorkItem) : WorkItem :=
  { row with
    title := item.title, description := item.description, status := item.status
    priority := item.priority, assignedToUserID := item.assignedToUserID
    locationText := item.locationText, dueAt := item.dueAt, updatedAt := item.updatedAt }

def update (s : PostgresStore) (item : WorkItem) : Except Error WorkItem × PostgresStore :=
  let rows := s.rows.map fun row => if row.id = item.id then set item row else row
  match (s.rows.filter fun row => row.id = item.id).map (set item) with
  | [] => (.error errNotFound,s)
  | row :: _ => (.ok row,⟨s.seq,rows⟩)

def Answers : (op : StoreOp) → PostgresStore → op.Res → PostgresStore → Prop
  | .create item, s, r, t => s.create item = (r,t)
  | .list, s, r, t => s.Lists (fun _ => true) r ∧ t = s
  | .listByAssignedToUserID userID, s, r, t =>
    s.Lists (fun row => row.assignedToUserID = some userID) r ∧ t = s
  | .listByCreatedByUserID userID, s, r, t =>
    s.Lists (fun row => row.createdByUserID = userID) r ∧ t = s
  | .getByID id, s, r, t => (s.getByID id,s) = (r,t)
  | .update item, s, r, t => s.update item = (r,t)

end PostgresStore

/-- Setting the columns of a row of the same origin makes it the given one. -/
lemma set_eq {item row : WorkItem} (h : SameOrigin row item) : PostgresStore.set item row = item := by
  obtain ⟨hid,hreference,hcreator,hcreated⟩ := h
  cases item
  simp only at hid hreference hcreator hcreated
  simp [PostgresStore.set, hid, hreference, hcreator, hcreated]

/-- A call as the service issues it: an edited row is one `GetByID` has returned, and no two items
are created at the same instant. -/
def Issued (es : List (Event StoreOp.Res)) : StoreOp → Prop
  | .update item => ∃ id old, ⟨.getByID id,.ok old⟩ ∈ es ∧ SameOrigin old item
  | .create item => ∀ e ∈ es, ∀ earlier, e.op = .create earlier → earlier.createdAt ≠ item.createdAt
  | _ => True

namespace MemoryStore
variable (s : MemoryStore)

lemma find?_rows (id : String) : (s.rows.find? fun row => row.id = id) = s.byID id := by
  rw [← List.head?_filter]
  cases hfound : s.byID id with
  | some item => rw [s.rows_filter_id hfound, List.head?_cons]
  | none =>
    rw [List.head?_eq_none_iff, List.filter_eq_nil_iff]
    intro row hrow hid
    have hstored := (s.mem_rows row).mp hrow
    rw [of_decide_eq_true hid, hfound] at hstored
    cases hstored

end MemoryStore

/-- The table holds the rows of the memory, whose numbers and instants tell them apart; a row that
was read is of the origin of the stored one. -/
structure Mirrors (es : List (Event StoreOp.Res)) (m : MemoryStore) (p : PostgresStore) : Prop where
  seq : p.seq = m.seq
  rows : p.rows = m.rows
  references : m.rows.map (·.referenceCode) = (List.range' 1 m.seq).map (sprintf04d "WI-")
  instants : (m.rows.map (·.createdAt)).Nodup
  created : ∀ row ∈ m.rows, ∃ e ∈ es, ∃ item, e.op = .create item ∧ item.createdAt = row.createdAt
  read : ∀ id old, ⟨.getByID id,.ok old⟩ ∈ es → ∃ row, m.byID old.id = some row ∧ SameOrigin row old

section Mirrors
variable {es : List (Event StoreOp.Res)} {m m' : MemoryStore} {p p' : PostgresStore}

lemma mirrors_new : Mirrors [] .new .empty where
  seq := rfl
  rows := rfl
  references := rfl
  instants := List.nodup_nil
  created := by simp [MemoryStore.rows, MemoryStore.new]
  read := by simp

/-- An event that neither creates nor edits changes nothing about the agreement, except that it may
have read a row. -/
lemma Mirrors.concat (h : Mirrors es m p) (e : Event StoreOp.Res)
    (hread : ∀ id old, e = ⟨.getByID id,.ok old⟩ → m.byID old.id = some old) :
    Mirrors (es ++ [e]) m p := by
  refine { h with created := fun row hrow => ?_, read := fun id old hold => ?_ }
  · obtain ⟨e',he',hcreated⟩ := h.created row hrow
    exact ⟨e',List.mem_append_left _ he',hcreated⟩
  · obtain hold | hold := List.mem_append.mp hold
    · exact h.read id old hold
    · exact ⟨old,hread id old (List.mem_singleton.mp hold).symm,.refl old⟩

lemma orderedBy_newestFirst (items : List WorkItem) :
    Sql.OrderedBy PostgresStore.Newer items (MemoryStore.newestFirst items) := by
  have hsorted := Sql.orderedBy_sliceStable
    (fun a b : WorkItem => decide (b.createdAt < a.createdAt)) ?_ ?_ items
  · simp only [decide_eq_true_eq] at hsorted
    exact hsorted
  · intro a b c hab hbc
    rw [decide_eq_false_iff_not, Int.not_lt] at *
    exact Int.le_trans hbc hab
  · intro a b
    simp only [decide_eq_false_iff_not, Int.not_lt]
    exact Int.le_total _ _

/-- A listing has one answer, the one the memory gives. -/
lemma Mirrors.lists (h : Mirrors es m p) {test : WorkItem → Bool}
    {r : Except Error (List WorkItem)} (hlists : p.Lists test r) :
    r = .ok (MemoryStore.newestFirst (m.rows.filter test)) := by
  obtain ⟨items,rfl,hitems⟩ := hlists
  rw [h.rows] at hitems
  rw [hitems.eq (orderedBy_newestFirst _)]
  intro a ha b hb hab hba
  refine List.inj_on_of_nodup_map h.instants (List.mem_of_mem_filter ha) (List.mem_of_mem_filter hb) ?_
  exact Int.le_antisymm (Int.not_lt.mp hab) (Int.not_lt.mp hba)

/-- The constraints never refuse a row: the number is new. -/
lemma Mirrors.create_eq (h : Mirrors es m p) (item : WorkItem) :
    p.create item = ((m.create item).1,⟨m.seq+1,(m.create item).2.rows⟩) := by
  have hid : ∀ old ∈ p.rows, old.id ≠ workItemID (m.seq+1) := by
    rw [h.rows]
    intro old hold hid
    have hstored := (m.mem_rows old).mp hold
    rw [hid, m.byID_next] at hstored
    cases hstored
  have hreference : ∀ old ∈ p.rows, old.referenceCode ≠ sprintf04d "WI-" (m.seq+1) := by
    rw [h.rows]
    intro old hold hreference
    have hmem := List.mem_map_of_mem (f := WorkItem.referenceCode) hold
    rw [h.references, List.mem_map] at hmem
    obtain ⟨n,hn,heq⟩ := hmem
    have := sprintf04d_injective _ (heq.trans hreference)
    rw [List.mem_range'_1] at hn
    omega
  unfold PostgresStore.create PostgresStore.inserted
  simp only [Sql.numbered_eq, h.seq]
  rw [if_neg (by simpa [workItemID] using hid), if_neg (by simpa using hreference), h.rows, m.rows_create]
  rfl

lemma Mirrors.create (h : Mirrors es m p) {item : WorkItem} (hissued : Issued es (.create item)) :
    (p.create item).1 = (m.create item).1 ∧
      Mirrors (es ++ [⟨.create item,(m.create item).1⟩]) (m.create item).2 (p.create item).2 := by
  rw [h.create_eq item]
  refine ⟨rfl,rfl,rfl,?_,?_,?_,?_⟩
  · rw [m.rows_create, List.map_append, h.references]
    change _ = (List.range' 1 (m.seq+1)).map _
    rw [List.range'_1_concat, List.map_append]
    simp [Nat.add_comm]
  · rw [m.rows_create, List.map_append, List.nodup_append]
    refine ⟨h.instants,by simp,?_⟩
    rintro t ht t' ht' rfl
    obtain ⟨row,hrow,rfl⟩ := List.mem_map.mp ht
    obtain ⟨e,he,earlier,hop,hcreated⟩ := h.created row hrow
    exact hissued e he earlier hop (hcreated.trans (by simpa using ht'))
  · intro row hrow
    rw [m.rows_create, List.mem_append, List.mem_singleton] at hrow
    obtain hrow | rfl := hrow
    · obtain ⟨e,he,hcreated⟩ := h.created row hrow
      exact ⟨e,List.mem_append_left _ he,hcreated⟩
    · exact ⟨⟨.create item,(m.create item).1⟩,by simp,item,rfl,rfl⟩
  · intro id old hold
    obtain hold | hold := List.mem_append.mp hold
    · obtain ⟨row,hrow,hsame⟩ := h.read id old hold
      refine ⟨row,?_,hsame⟩
      rw [m.create_byID, if_neg, hrow]
      intro hid
      rw [hid, m.byID_next] at hrow
      cases hrow
    · cases List.mem_singleton.mp hold

/-- Setting the columns of the stored row makes it the edited one. -/
lemma Mirrors.update_eq (h : Mirrors es m p) {item row : WorkItem}
    (hrow : m.byID item.id = some row) (hsame : SameOrigin row item) :
    p.update item = (.ok item,⟨m.seq,m.rows.map fun row => if row.id = item.id then item else row⟩) := by
  have hone := m.rows_filter_id hrow
  simp only [PostgresStore.update, h.rows, h.seq, hone, List.map_cons, set_eq hsame]
  congr 2
  apply List.map_congr_left
  intro old hold
  split_ifs with hid
  · have hstored := (m.mem_rows old).mp hold
    rw [hid, hrow] at hstored
    cases hstored
    exact set_eq hsame
  · rfl

lemma Mirrors.update (h : Mirrors es m p) {item : WorkItem} (hissued : Issued es (.update item)) :
    (p.update item).1 = (m.update item).1 ∧
      Mirrors (es ++ [⟨.update item,(m.update item).1⟩]) (m.update item).2 (p.update item).2 := by
  obtain ⟨id,old,hold,hedit⟩ := hissued
  obtain ⟨row,hrow,hread⟩ := h.read id old hold
  rw [hedit.id] at hrow
  have hsame : SameOrigin row item := hread.trans hedit
  have hsome : (m.byID item.id).isSome := by rw [hrow]; rfl
  rw [h.update_eq hrow hsame, m.update_eq item hsome]
  have hmap : ∀ {β : Type} (f : WorkItem → β), f row = f item →
      (m.put item hsome).rows.map f = m.rows.map f := by
    intro β f hf
    rw [m.rows_put, List.map_map]
    apply List.map_congr_left
    intro old hold
    rw [Function.comp_apply]
    split_ifs with hid
    · have hstored := (m.mem_rows old).mp hold
      rw [hid, hrow] at hstored
      cases hstored
      exact hf.symm
    · rfl
  refine ⟨rfl,rfl,(m.rows_put item hsome).symm,?_,?_,?_,?_⟩
  · rw [hmap (·.referenceCode) hsame.referenceCode]
    exact h.references
  · rw [hmap (·.createdAt) hsame.createdAt]
    exact h.instants
  · intro new hnew
    have hinstant : new.createdAt ∈ m.rows.map (·.createdAt) := by
      rw [← hmap (·.createdAt) hsame.createdAt]
      exact List.mem_map_of_mem hnew
    obtain ⟨old,hold,hinstant⟩ := List.mem_map.mp hinstant
    obtain ⟨e,he,item',hop,hcreated⟩ := h.created old hold
    exact ⟨e,List.mem_append_left _ he,item',hop,hcreated.trans hinstant⟩
  · intro id' old' hold'
    obtain hold' | hold' := List.mem_append.mp hold'
    · obtain ⟨row',hrow',hsame'⟩ := h.read id' old' hold'
      rw [m.put_byID]
      split_ifs with hid
      · rw [hid, hrow] at hrow'
        cases hrow'
        exact ⟨item,rfl,hsame.symm.trans hsame'⟩
      · exact ⟨row',hrow',hsame'⟩
    · cases List.mem_singleton.mp hold'

/-- The step lemma: agreeing stores answer alike, and still agree. -/
lemma Mirrors.step (h : Mirrors es m p) {op : StoreOp} {r r' : op.Res} (hissued : Issued es op)
    (hm : m.Answers op r m') (hp : p.Answers op r' p') :
    r' = r ∧ Mirrors (es ++ [⟨op,r⟩]) m' p' := by
  cases op with
  | create item =>
    obtain ⟨rfl,rfl⟩ := Prod.mk.inj hm
    obtain ⟨rfl,rfl⟩ := Prod.mk.inj hp
    exact h.create hissued
  | update item =>
    obtain ⟨rfl,rfl⟩ := Prod.mk.inj hm
    obtain ⟨rfl,rfl⟩ := Prod.mk.inj hp
    exact h.update hissued
  | getByID id =>
    obtain ⟨rfl,rfl⟩ := Prod.mk.inj hm
    obtain ⟨rfl,rfl⟩ := Prod.mk.inj hp
    have hsame : p.getByID id = m.getByID id := by
      rw [PostgresStore.getByID, h.rows, m.find?_rows, MemoryStore.getByID]
      cases m.byID id <;> rfl
    refine ⟨hsame,h.concat _ fun id' old heq => ?_⟩
    obtain ⟨hop,hfound⟩ := Event.mk.inj heq
    obtain rfl := StoreOp.getByID.inj hop
    have hfound := MemoryStore.getByID_eq_ok.mp (eq_of_heq hfound)
    rw [m.keyed hfound, hfound]
  | list =>
    obtain ⟨rfl,rfl⟩ := Prod.mk.inj hm
    obtain ⟨hlists,rfl⟩ := hp
    refine ⟨?_,h.concat _ (by intro _ _ heq; cases heq)⟩
    rw [h.lists hlists, List.filter_true]
    rfl
  | listByAssignedToUserID userID =>
    obtain ⟨rfl,rfl⟩ := Prod.mk.inj hm
    obtain ⟨hlists,rfl⟩ := hp
    exact ⟨h.lists hlists,h.concat _ (by intro _ _ heq; cases heq)⟩
  | listByCreatedByUserID userID =>
    obtain ⟨rfl,rfl⟩ := Prod.mk.inj hm
    obtain ⟨hlists,rfl⟩ := hp
    exact ⟨h.lists hlists,h.concat _ (by intro _ _ heq; cases heq)⟩

end Mirrors

lemma PostgresStore.lists_newestFirst (p : PostgresStore) (test : WorkItem → Bool) :
    p.Lists test (.ok (MemoryStore.newestFirst (p.rows.filter test))) :=
  ⟨_,rfl,orderedBy_newestFirst _⟩

/-- Postgres always has an answer. -/
lemma PostgresStore.answers_total (op : StoreOp) (p : PostgresStore) :
    ∃ r p', p.Answers op r p' := by
  cases op with
  | create item => exact ⟨_,_,rfl⟩
  | list => exact ⟨_,p,p.lists_newestFirst _,rfl⟩
  | listByAssignedToUserID userID => exact ⟨_,p,p.lists_newestFirst _,rfl⟩
  | listByCreatedByUserID userID => exact ⟨_,p,p.lists_newestFirst _,rfl⟩
  | getByID id => exact ⟨_,_,rfl⟩
  | update item => exact ⟨_,_,rfl⟩

/-- Whatever calls the service issues, Postgres answers them, and exactly as the memory does. -/
theorem work_item_stores_interchangeable {es : List (Event StoreOp.Res)} {m : MemoryStore}
    (hm : Trace (Answered MemoryStore.Answers) .new es m) (hissued : Admissible Issued es) :
    (∃ p, Trace (Answered PostgresStore.Answers) .empty es p) ∧
    ∀ es' p, Trace (Answered PostgresStore.Answers) .empty es' p →
      es'.map (·.op) = es.map (·.op) → es' = es := by
  have hsame : ∀ es' p, Trace (Answered PostgresStore.Answers) .empty es' p →
      es'.map (·.op) = es.map (·.op) → es' = es := fun es' p hp hops =>
    transcripts_eq mirrors_new
      (fun _ _ _ _ _ _ _ _ h hissued hm hp => h.step hissued hm hp) hm hp hops hissued
  obtain ⟨es',p,hp,hops⟩ := exists_transcript PostgresStore.answers_total .empty (es.map (·.op))
  exact ⟨⟨p,hsame es' p hp hops ▸ hp⟩,hsame⟩

def samplePump : WorkItem :=
  { WorkItem.zero with title := "Repair pump", status := .created, priority := .high, createdAt := 1 }

def storedPump : WorkItem :=
  { samplePump with id := workItemID 1, referenceCode := sprintf04d "WI-" 1 }

/-- An item is created, read and edited. -/
def sampleEdit : List (Event StoreOp.Res) :=
  [⟨.create samplePump,.ok storedPump⟩,⟨.getByID (workItemID 1),.ok storedPump⟩,
    ⟨.update { storedPump with title := "Repair pump 4" },
      .ok { storedPump with title := "Repair pump 4" }⟩]

theorem work_item_stores_interchangeable_edit :
    ∃ p, Trace (Answered PostgresStore.Answers) .empty sampleEdit p := by
  let m := (MemoryStore.new.create samplePump).2
  let edited : WorkItem := { storedPump with title := "Repair pump 4" }
  have hstored : m.byID (workItemID 1) = some storedPump := by
    have hseq : workItemID 1 = workItemID (MemoryStore.new.seq+1) := rfl
    rw [MemoryStore.create_byID, if_pos hseq]
    rfl
  have hcreate : Answered MemoryStore.Answers .new
      (⟨.create samplePump,.ok storedPump⟩ : Event StoreOp.Res) m := rfl
  have hget : Answered MemoryStore.Answers m
      (⟨.getByID (workItemID 1),.ok storedPump⟩ : Event StoreOp.Res) m :=
    Prod.ext (MemoryStore.getByID_eq_ok.mpr hstored) rfl
  have hsome : (m.byID edited.id).isSome := by
    rw [show edited.id = workItemID 1 from rfl, hstored]
    rfl
  have hupdate : Answered MemoryStore.Answers m
      (⟨.update edited,.ok edited⟩ : Event StoreOp.Res) (m.put edited hsome) :=
    MemoryStore.update_eq m edited hsome
  refine (work_item_stores_interchangeable (((Trace.nil.snoc hcreate).snoc hget).snoc hupdate) ?_).1
  refine ((Admissible.nil.snoc ?_).snoc trivial).snoc ?_
  · simp [Issued]
  · exact ⟨workItemID 1,storedPump,by simp,rfl,rfl,rfl,rfl⟩

end OpsPlatform.Workitems
