import Mathlib.Data.List.Range
import Mathlib.Data.List.Nodup
import OpsPlatform.Workitems.Types

/-! The four in-memory stores of the work item package. A map is a partial function; what links
the keys, the order list and the row ids is a field of the store, so every store value has it. -/
namespace OpsPlatform.Workitems
open OpsPlatform.Go

/-- The id `Create` gives to the work item numbered `n`. -/
def workItemID (n : ℕ) : String := sprintf04d "workitem-" n

theorem workItemID_injective : Function.Injective workItemID := sprintf04d_injective _

lemma not_blank_workItemID (n : ℕ) : ¬ Blank (workItemID n) := by
  apply not_blank_of_mem (c := 'w')
  · simp [workItemID, sprintf04d]
  · rfl

structure MemoryStore where
  seq : ℕ
  byID : String → Option WorkItem
  ordered : List String
  /-- The key of a row is its id. -/
  keyed : ∀ {id item}, byID id = some item → item.id = id
  /-- The order list names exactly the rows, each once, in the order of their numbers. -/
  ordered_eq : ordered = (List.range' 1 seq).map workItemID
  mem_ordered : ∀ id, id ∈ ordered ↔ (byID id).isSome

namespace MemoryStore

def new : MemoryStore where
  seq := 0
  byID _ := none
  ordered := []
  keyed h := by simp at h
  ordered_eq := rfl
  mem_ordered := by simp

theorem ordered_nodup (s : MemoryStore) : s.ordered.Nodup := by
  rw [s.ordered_eq]
  exact (List.nodup_range' ).map workItemID_injective

theorem exists_number (s : MemoryStore) {id : String} {item : WorkItem}
    (h : s.byID id = some item) : ∃ n, 1 ≤ n ∧ n ≤ s.seq ∧ id = workItemID n := by
  have hmem : id ∈ s.ordered := (s.mem_ordered id).mpr (by simp [h])
  rw [s.ordered_eq, List.mem_map] at hmem
  obtain ⟨n,hn,rfl⟩ := hmem
  rw [List.mem_range'_1] at hn
  exact ⟨n,by omega,by omega,rfl⟩

/-- The next id is free: numbers are never reused. -/
theorem byID_next (s : MemoryStore) : s.byID (workItemID (s.seq+1)) = none := by
  cases h : s.byID (workItemID (s.seq+1)) with
  | none => rfl
  | some item =>
    obtain ⟨n,_,hle,heq⟩ := s.exists_number h
    have := workItemID_injective heq
    omega

def create (s : MemoryStore) (item : WorkItem) : Except Error WorkItem × MemoryStore :=
  let row := { item with
    id := workItemID (s.seq+1), referenceCode := sprintf04d "WI-" (s.seq+1) }
  (.ok row, {
    seq := s.seq+1
    byID := Function.update s.byID row.id (some row)
    ordered := s.ordered ++ [row.id]
    keyed := by
      intro id old h
      rw [Function.update_apply] at h
      split_ifs at h with hid
      · cases h; exact hid.symm
      · exact s.keyed h
    ordered_eq := by
      rw [List.range'_1_concat, List.map_append, ← s.ordered_eq]
      simp [row, Nat.add_comm]
    mem_ordered := by
      intro id
      rw [Function.update_apply, List.mem_append, List.mem_singleton, s.mem_ordered]
      split_ifs with hid <;> simp [hid] })

def rows (s : MemoryStore) : List WorkItem :=
  s.ordered.map fun id => (s.byID id).getD WorkItem.zero

/-- Newest first, the order every listing returns. -/
def newestFirst (items : List WorkItem) : List WorkItem :=
  sliceStable (fun a b => decide (b.createdAt < a.createdAt)) items

def list (s : MemoryStore) : Except Error (List WorkItem) := .ok (newestFirst s.rows)

def listByAssignedToUserID (s : MemoryStore) (userID : String) :
    Except Error (List WorkItem) :=
  .ok (newestFirst (s.rows.filter fun item => item.assignedToUserID = some userID))

def listByCreatedByUserID (s : MemoryStore) (userID : String) :
    Except Error (List WorkItem) :=
  .ok (newestFirst (s.rows.filter fun item => item.createdByUserID = userID))

def getByID (s : MemoryStore) (id : String) : Except Error WorkItem :=
  match s.byID id with
  | some item => .ok item
  | none => .error errNotFound

/-- Overwrite the row that has the id of `item`. -/
def put (s : MemoryStore) (item : WorkItem) (h : (s.byID item.id).isSome) : MemoryStore where
  seq := s.seq
  byID := Function.update s.byID item.id (some item)
  ordered := s.ordered
  keyed := by
    intro id old hold
    rw [Function.update_apply] at hold
    split_ifs at hold with hid
    · cases hold; exact hid.symm
    · exact s.keyed hold
  ordered_eq := s.ordered_eq
  mem_ordered := by
    intro id
    rw [Function.update_apply, s.mem_ordered]
    split_ifs with hid
    · simpa [hid] using h
    · rfl

def update (s : MemoryStore) (item : WorkItem) : Except Error WorkItem × MemoryStore :=
  if h : (s.byID item.id).isSome then (.ok item, s.put item h) else (.error errNotFound, s)

theorem put_byID (s : MemoryStore) (item : WorkItem) (h : (s.byID item.id).isSome) (id : String) :
    (s.put item h).byID id = if id = item.id then some item else s.byID id :=
  Function.update_apply _ _ _ _

theorem update_eq (s : MemoryStore) (item : WorkItem) (h : (s.byID item.id).isSome) :
    s.update item = (.ok item, s.put item h) := dif_pos h

theorem ordered_update (s : MemoryStore) (item : WorkItem) :
    (s.update item).2.ordered = s.ordered := by
  unfold update
  split_ifs <;> rfl

/-- A row found after an overwrite was there before or is the new one. -/
theorem eq_or_of_update (s : MemoryStore) (item : WorkItem) {id : String} {row : WorkItem}
    (h : (s.update item).2.byID id = some row) : row = item ∨ s.byID id = some row := by
  unfold update at h
  split_ifs at h
  · rw [put_byID] at h
    split_ifs at h
    · exact .inl (Option.some.inj h).symm
    · exact .inr h
  · exact .inr h

theorem create_byID (s : MemoryStore) (item : WorkItem) (id : String) :
    (s.create item).2.byID id = if id = workItemID (s.seq+1) then
      some { item with id := workItemID (s.seq+1), referenceCode := sprintf04d "WI-" (s.seq+1) }
      else s.byID id :=
  Function.update_apply _ _ _ _

theorem getByID_eq_ok {s : MemoryStore} {id : String} {item : WorkItem} :
    s.getByID id = .ok item ↔ s.byID id = some item := by
  unfold getByID
  cases s.byID id <;> simp

theorem mem_rows (s : MemoryStore) (item : WorkItem) :
    item ∈ s.rows ↔ s.byID item.id = some item := by
  simp only [rows, List.mem_map, s.mem_ordered]
  constructor
  · rintro ⟨id,hid,rfl⟩
    obtain ⟨row,hrow⟩ := Option.isSome_iff_exists.mp hid
    simp [hrow, s.keyed hrow]
  · intro h
    exact ⟨item.id,by simp [h],by simp [h]⟩

theorem map_id_rows (s : MemoryStore) : s.rows.map (·.id) = s.ordered := by
  unfold rows
  rw [List.map_map]
  conv_rhs => rw [← List.map_id s.ordered]
  apply List.map_congr_left
  intro id hid
  obtain ⟨row,hrow⟩ := Option.isSome_iff_exists.mp ((s.mem_ordered id).mp hid)
  simp [hrow, s.keyed hrow]

theorem rows_create (s : MemoryStore) (item : WorkItem) : (s.create item).2.rows = s.rows ++ [{ item with
    id := workItemID (s.seq+1), referenceCode := sprintf04d "WI-" (s.seq+1) }] := by
  have hfree : workItemID (s.seq+1) ∉ s.ordered := by
    rw [s.mem_ordered, s.byID_next]
    exact Bool.false_ne_true
  rw [rows, show (s.create item).2.ordered = s.ordered ++ [workItemID (s.seq+1)] from rfl,
    List.map_append]
  congr 1
  · apply List.map_congr_left
    intro id hid
    rw [create_byID, if_neg (by rintro rfl; exact hfree hid)]
  · simp [create_byID]

theorem rows_put (s : MemoryStore) (item : WorkItem) (h : (s.byID item.id).isSome) :
    (s.put item h).rows = s.rows.map fun row => if row.id = item.id then item else row := by
  rw [rows, show (s.put item h).ordered = s.ordered from rfl, rows, List.map_map]
  apply List.map_congr_left
  intro id hid
  obtain ⟨row,hrow⟩ := Option.isSome_iff_exists.mp ((s.mem_ordered id).mp hid)
  rw [put_byID, Function.comp_apply, hrow, Option.getD_some, s.keyed hrow]
  split_ifs <;> rfl

end MemoryStore

structure MemoryStatusHistoryStore where
  seq : ℕ
  entries : List StatusHistory

namespace MemoryStatusHistoryStore

def new : MemoryStatusHistoryStore := ⟨0,[]⟩

def create (s : MemoryStatusHistoryStore) (entry : StatusHistory) :
    Except Error StatusHistory × MemoryStatusHistoryStore :=
  let row := { entry with id := sprintf04d "statushistory-" (s.seq+1) }
  (.ok row, ⟨s.seq+1,s.entries ++ [row]⟩)

theorem create_fst (s : MemoryStatusHistoryStore) (entry : StatusHistory) :
    (s.create entry).1 = .ok { entry with id := sprintf04d "statushistory-" (s.seq+1) } := rfl

def ofWorkItem (s : MemoryStatusHistoryStore) (workItemID : String) : List StatusHistory :=
  s.entries.filter fun entry => entry.workItemID = workItemID

def listByWorkItemID (s : MemoryStatusHistoryStore) (workItemID : String) :
    Except Error (List StatusHistory) :=
  .ok (sliceStable (fun a b => decide (a.createdAt < b.createdAt)) (s.ofWorkItem workItemID))

end MemoryStatusHistoryStore

structure MemoryAssignmentStore where
  seq : ℕ
  byWorkItem : String → Option Assignment
  keyed : ∀ {workItemID assignment},
    byWorkItem workItemID = some assignment → assignment.workItemID = workItemID

namespace MemoryAssignmentStore

def new : MemoryAssignmentStore where
  seq := 0
  byWorkItem _ := none
  keyed h := by simp at h

/-- Overwrite the row of the work item `assignment` is about. -/
def put (s : MemoryAssignmentStore) (seq : ℕ) (assignment : Assignment) :
    MemoryAssignmentStore where
  seq := seq
  byWorkItem := Function.update s.byWorkItem assignment.workItemID (some assignment)
  keyed := by
    intro id old h
    rw [Function.update_apply] at h
    split_ifs at h with hid
    · cases h; exact hid.symm
    · exact s.keyed h

def create (s : MemoryAssignmentStore) (assignment : Assignment) :
    Except Error Assignment × MemoryAssignmentStore :=
  let row := { assignment with id := sprintf04d "assignment-" (s.seq+1) }
  (.ok row, s.put (s.seq+1) row)

def getByWorkItemID (s : MemoryAssignmentStore) (workItemID : String) :
    Except Error Assignment :=
  match s.byWorkItem workItemID with
  | some assignment => .ok assignment
  | none => .error errAssignmentNotFound

def update (s : MemoryAssignmentStore) (assignment : Assignment) :
    Except Error Assignment × MemoryAssignmentStore :=
  if (s.byWorkItem assignment.workItemID).isSome then (.ok assignment, s.put s.seq assignment)
  else (.error errAssignmentNotFound, s)

theorem create_fst (s : MemoryAssignmentStore) (assignment : Assignment) :
    (s.create assignment).1 = .ok { assignment with id := sprintf04d "assignment-" (s.seq+1) } := rfl

theorem update_eq (s : MemoryAssignmentStore) (assignment : Assignment)
    (h : (s.byWorkItem assignment.workItemID).isSome) :
    s.update assignment = (.ok assignment,s.put s.seq assignment) := if_pos h

theorem eq_or_of_put (s : MemoryAssignmentStore) (seq : ℕ) (assignment : Assignment)
    {workItemID : String} {row : Assignment}
    (h : (s.put seq assignment).byWorkItem workItemID = some row) :
    row = assignment ∨ s.byWorkItem workItemID = some row := by
  change Function.update s.byWorkItem _ _ _ = _ at h
  rw [Function.update_apply] at h
  split_ifs at h
  · exact .inl (Option.some.inj h).symm
  · exact .inr h

theorem put_byWorkItem (s : MemoryAssignmentStore) (seq : ℕ) (assignment : Assignment)
    (workItemID : String) :
    (s.put seq assignment).byWorkItem workItemID =
      if workItemID = assignment.workItemID then some assignment else s.byWorkItem workItemID :=
  Function.update_apply _ _ _ _

theorem getByWorkItemID_eq_ok {s : MemoryAssignmentStore} {workItemID : String}
    {assignment : Assignment} :
    s.getByWorkItemID workItemID = .ok assignment ↔ s.byWorkItem workItemID = some assignment := by
  unfold getByWorkItemID
  cases s.byWorkItem workItemID <;> simp

end MemoryAssignmentStore

structure MemoryAssignmentHistoryStore where
  seq : ℕ
  entries : List AssignmentHistory

namespace MemoryAssignmentHistoryStore

def new : MemoryAssignmentHistoryStore := ⟨0,[]⟩

def create (s : MemoryAssignmentHistoryStore) (entry : AssignmentHistory) :
    Except Error AssignmentHistory × MemoryAssignmentHistoryStore :=
  let row := { entry with id := sprintf04d "assignmenthistory-" (s.seq+1) }
  (.ok row, ⟨s.seq+1,s.entries ++ [row]⟩)

theorem create_fst (s : MemoryAssignmentHistoryStore) (entry : AssignmentHistory) :
    (s.create entry).1 = .ok { entry with id := sprintf04d "assignmenthistory-" (s.seq+1) } := rfl

def ofWorkItem (s : MemoryAssignmentHistoryStore) (workItemID : String) :
    List AssignmentHistory :=
  s.entries.filter fun entry => entry.workItemID = workItemID

def listByWorkItemID (s : MemoryAssignmentHistoryStore) (workItemID : String) :
    Except Error (List AssignmentHistory) :=
  .ok (sliceStable (fun a b => decide (a.createdAt < b.createdAt)) (s.ofWorkItem workItemID))

end MemoryAssignmentHistoryStore
end OpsPlatform.Workitems
