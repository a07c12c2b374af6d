import OpsPlatform.Workitems.Interchange
import OpsPlatform.Workitems.Postgres
import OpsPlatform.Workitems.Reassignment

/-! The database of the whole service, seen through the store of work items and through that of
assignments. Outside a transaction, and where a column keeps every instant, it answers the calls of
a store as the table of that store alone does. -/
namespace OpsPlatform.Workitems
open OpsPlatform.Go OpsPlatform.Db Interaction

namespace Postgres

section Put
variable {Row : Type} (key : Row → String) {rows : List Row}

lemma put_new {row : Row} (h : ∀ old ∈ rows, key old ≠ key row) : put key row rows = rows ++ [row] := by
  rw [put, if_neg]
  simpa using h

/-- Writing a changed row back is an `UPDATE` of the rows with its key, which is its own. -/
lemma put_set (set : Row → Row) (hset : ∀ row, key (set row) = key row)
    (hkeys : (rows.map key).Nodup) {old : Row} (hold : old ∈ rows) : put key (set old) rows =
      rows.map fun row => if key row = key old then set row else row := by
  rw [put, if_pos]
  · apply List.map_congr_left
    intro row hrow
    rw [hset]
    split_ifs with hkey
    · rw [List.inj_on_of_nodup_map hkeys hrow hold hkey]
    · rfl
  · rw [List.any_eq_true]
    exact ⟨old,hold,by simp [hset]⟩

end Put
section Pool
variable {α : Type} {db : Database} {ctx : Context} {statement : Statement α} {a : α} {err : Error}
  {writes : List Write}

lemma write_nil (db : Database) : db.write [] .pool = db := by
  simp [Database.write, Tables.writeAll]

lemma query_ok (hctx : querier ctx = .pool) (h : statement db.tables = .ok (a,writes)) :
    db.query ctx statement = (.ok a,db.write writes .pool) := by
  simp only [Database.query, hctx, Database.view, h]

lemma query_error (hctx : querier ctx = .pool) (h : statement db.tables = .error err) :
    db.query ctx statement = (.error err,db) := by
  simp only [Database.query, hctx, Database.view, h]

lemma insert_ok (hctx : querier ctx = .pool) {sequence : Sequence} {statement : ℕ → Statement α}
    (h : statement (db.sequences sequence+1) db.tables = .ok (a,writes)) :
    db.insert ctx sequence statement = (.ok a,{ db.write writes .pool with
      sequences := Function.update db.sequences sequence (db.sequences sequence+1) }) := by
  simp only [Database.insert, query_ok hctx h]
  rfl

end Pool

/-- A database just migrated. -/
def Database.empty : Database := ⟨⟨[],[],[],[],[]⟩,fun _ => 0,fun _ => none,0,[]⟩

/-- The table `work_items` with its sequence. -/
def Database.workItems (db : Database) : PostgresStore :=
  ⟨db.sequences .workItems,db.tables.workItems⟩

/-- The table `assignments` with its sequence. -/
def Database.assignments (db : Database) : PostgresAssignmentStore :=
  ⟨db.sequences .assignments,db.tables.assignments⟩

/-- A call outside a transaction, where a column keeps every instant. -/
structure Direct (env : Env) (ctx : Context) : Prop where
  pool : querier ctx = .pool
  instants : ∀ t, env.timestamptz t = t

lemma Direct.due {env : Env} {ctx : Context} (h : Direct env ctx) (t : Option Time) :
    t.map env.timestamptz = t := by
  cases t <;> simp [h.instants]

end Postgres

/-- A call of the `Store` interface on the database. -/
def StoreOp.exec (env : Postgres.Env) (ctx : Context) :
    (op : StoreOp) → Postgres.Database → op.Res × Postgres.Database
  | .create item, db => Postgres.exec env (.storeCreate ctx item) db
  | .list, db => Postgres.exec env (.storeList ctx) db
  | .listByAssignedToUserID userID, db =>
    Postgres.exec env (.storeListByAssignedToUserID ctx userID) db
  | .listByCreatedByUserID userID, db => Postgres.exec env (.storeListByCreatedByUserID ctx userID) db
  | .getByID id, db => Postgres.exec env (.storeGetByID ctx id) db
  | .update item, db => Postgres.exec env (.storeUpdate ctx item) db

def StoreOp.Answers (op : StoreOp) (db : Postgres.Database) (r : op.Res) (db' : Postgres.Database) :
    Prop :=
  ∃ env ctx, Postgres.Direct env ctx ∧ op.exec env ctx db = (r,db')

/-- A call of the `AssignmentStore` interface on the database. -/
def AssignmentOp.exec (env : Postgres.Env) (ctx : Context) :
    (op : AssignmentOp) → Postgres.Database → op.Res × Postgres.Database
  | .create assignment, db => Postgres.exec env (.assignmentCreate ctx assignment) db
  | .getByWorkItemID workItemID, db =>
    Postgres.exec env (.assignmentGetByWorkItemID ctx workItemID) db
  | .update assignment, db => Postgres.exec env (.assignmentUpdate ctx assignment) db

def AssignmentOp.Answers (op : AssignmentOp) (db : Postgres.Database) (r : op.Res)
    (db' : Postgres.Database) : Prop :=
  ∃ env ctx, Postgres.Direct env ctx ∧ op.exec env ctx db = (r,db')

namespace PostgresStore
variable {s : PostgresStore}

/-- No two rows have one id, and the sequence has given the numbers of all of them. -/
structure Keyed (s : PostgresStore) : Prop where
  ids : (s.rows.map (·.id)).Nodup
  numbered : ∀ row ∈ s.rows, ∃ n ≤ s.seq,
    row.id = Sql.numbered "workitem-" n ∧ row.referenceCode = Sql.numbered "WI-" n

lemma keyed_empty : Keyed .empty := ⟨List.nodup_nil,fun row hrow => (by cases hrow)⟩

/-- The next number is new. -/
lemma Keyed.new (h : s.Keyed) (item : WorkItem) {old : WorkItem} (hold : old ∈ s.rows) :
    old.id ≠ (inserted item (s.seq+1)).id ∧
      old.referenceCode ≠ (inserted item (s.seq+1)).referenceCode := by
  obtain ⟨n,hn,hid,hreference⟩ := h.numbered old hold
  simp only [inserted, hid, hreference, Sql.numbered_eq]
  constructor
  all_goals
    intro heq
    have := sprintf04d_injective _ heq
    omega

lemma Keyed.create_eq (h : s.Keyed) (item : WorkItem) :
    s.create item = (.ok (inserted item (s.seq+1)),⟨s.seq+1,s.rows ++ [inserted item (s.seq+1)]⟩) := by
  simp only [create]
  rw [if_neg, if_neg]
  · simpa using fun old hold => (h.new item hold).2
  · simpa using fun old hold => (h.new item hold).1

lemma Keyed.create (h : s.Keyed) (item : WorkItem) : (s.create item).2.Keyed := by
  rw [h.create_eq]
  constructor
  · rw [List.map_append, List.nodup_append]
    refine ⟨h.ids,by simp,?_⟩
    rintro id hid id' hid' rfl
    obtain ⟨old,hold,rfl⟩ := List.mem_map.mp hid
    exact (h.new item hold).1 (by simpa using hid')
  · intro row hrow
    obtain hrow | hrow := List.mem_append.mp hrow
    · obtain ⟨n,hn,hnumbers⟩ := h.numbered row hrow
      exact ⟨n,Nat.le_succ_of_le hn,hnumbers⟩
    · rw [List.mem_singleton.mp hrow]
      exact ⟨s.seq+1,le_rfl,rfl,rfl⟩

lemma update_missing {item : WorkItem} (h : (s.rows.find? fun row => row.id = item.id) = none) :
    s.update item = (.error errNotFound,s) := by
  rw [← List.head?_filter, List.head?_eq_none_iff] at h
  simp only [update, h, List.map_nil]

lemma update_found {item old : WorkItem}
    (h : (s.rows.find? fun row => row.id = item.id) = some old) : s.update item =
      (.ok (set item old),⟨s.seq,s.rows.map fun row => if row.id = item.id then set item row else row⟩) := by
  rw [← List.head?_filter] at h
  obtain ⟨rest,hrest⟩ := List.head?_eq_some_iff.mp h
  simp only [update, hrest, List.map_cons]

lemma Keyed.update (h : s.Keyed) (item : WorkItem) : (s.update item).2.Keyed := by
  cases hfound : s.rows.find? fun row => row.id = item.id with
  | none => rwa [update_missing hfound]
  | some old =>
    rw [update_found hfound]
    constructor
    · rw [List.map_map]
      convert h.ids using 2
      funext row
      rw [Function.comp_apply]
      split_ifs <;> rfl
    · intro new hnew
      obtain ⟨row,hrow,rfl⟩ := List.mem_map.mp hnew
      split_ifs
      · exact h.numbered row hrow
      · exact h.numbered row hrow

lemma Keyed.answers (h : s.Keyed) {op : StoreOp} {r : op.Res} {t : PostgresStore}
    (hop : Answers op s r t) : t.Keyed := by
  cases op with
  | create item =>
    obtain ⟨_,rfl⟩ := Prod.mk.inj hop
    exact h.create item
  | update item =>
    obtain ⟨_,rfl⟩ := Prod.mk.inj hop
    exact h.update item
  | getByID id =>
    obtain ⟨_,rfl⟩ := Prod.mk.inj hop
    exact h
  | list => exact hop.2 ▸ h
  | listByAssignedToUserID userID => exact hop.2 ▸ h
  | listByCreatedByUserID userID => exact hop.2 ▸ h

end PostgresStore
namespace PostgresAssignmentStore
variable {s : PostgresAssignmentStore}

/-- A work item has one row, and the sequence has given the numbers of all rows. -/
structure Keyed (s : PostgresAssignmentStore) : Prop where
  workItems : (s.rows.map (·.workItemID)).Nodup
  numbered : ∀ row ∈ s.rows, ∃ n ≤ s.seq, row.id = Sql.numbered "assignment-" n

lemma keyed_empty : Keyed .empty := ⟨List.nodup_nil,fun row hrow => (by cases hrow)⟩

lemma Keyed.new (h : s.Keyed) {old : Assignment} (hold : old ∈ s.rows) :
    old.id ≠ Sql.numbered "assignment-" (s.seq+1) := by
  obtain ⟨n,hn,hid⟩ := h.numbered old hold
  rw [hid, Sql.numbered_eq, Sql.numbered_eq]
  intro heq
  have := sprintf04d_injective _ heq
  omega

lemma Keyed.create_new (h : s.Keyed) {assignment : Assignment} {workItems : List String}
    (hnone : s.findByWorkItem assignment.workItemID = none)
    (hitem : assignment.workItemID ∈ workItems) :
    s.create workItems assignment = (.ok { assignment with id := Sql.numbered "assignment-" (s.seq+1) },
      ⟨s.seq+1,s.rows ++ [{ assignment with id := Sql.numbered "assignment-" (s.seq+1) }]⟩) := by
  simp only [create, hnone]
  rw [if_neg, if_neg]
  · exact not_not_intro hitem
  · simpa using fun old hold => h.new hold

lemma create_again {assignment old : Assignment} (workItems : List String)
    (hold : s.findByWorkItem assignment.workItemID = some old) :
    s.create workItems assignment = (.ok (overwrite assignment old),⟨s.seq+1,s.rows.map fun row =>
      if row.workItemID = assignment.workItemID then overwrite assignment row else row⟩) := by
  simp only [create, hold]

/-- Changing columns that are no keys keeps the rows keyed. -/
lemma Keyed.map (h : s.Keyed) (set : Assignment → Assignment)
    (hset : ∀ row, (set row).id = row.id ∧ (set row).workItemID = row.workItemID) {n : ℕ}
    (hn : s.seq ≤ n) (workItemID : String) : Keyed ⟨n,s.rows.map fun row =>
      if row.workItemID = workItemID then set row else row⟩ := by
  constructor
  · rw [List.map_map]
    convert h.workItems using 2
    funext row
    rw [Function.comp_apply]
    split_ifs
    · exact (hset row).2
    · rfl
  · intro new hnew
    obtain ⟨row,hrow,rfl⟩ := List.mem_map.mp hnew
    obtain ⟨m,hm,hid⟩ := h.numbered row hrow
    refine ⟨m,hm.trans hn,?_⟩
    split_ifs
    · exact (hset row).1.trans hid
    · exact hid

lemma Keyed.answers (h : s.Keyed) {op : AssignmentOp} {r : op.Res} {t : PostgresAssignmentStore}
    (hop : Answers op s r t) : t.Keyed := by
  cases op with
  | create assignment =>
    obtain ⟨workItems,hitem,hop⟩ := hop
    cases hfound : s.findByWorkItem assignment.workItemID with
    | none =>
      rw [h.create_new hfound hitem] at hop
      obtain ⟨_,rfl⟩ := Prod.mk.inj hop
      constructor
      · rw [List.map_append, List.nodup_append]
        refine ⟨h.workItems,by simp,?_⟩
        rintro id hid id' hid' rfl
        obtain ⟨old,hold,rfl⟩ := List.mem_map.mp hid
        exact List.find?_eq_none.mp hfound old hold (by simpa using hid')
      · intro row hrow
        obtain hrow | hrow := List.mem_append.mp hrow
        · obtain ⟨n,hn,hid⟩ := h.numbered row hrow
          exact ⟨n,Nat.le_succ_of_le hn,hid⟩
        · rw [List.mem_singleton.mp hrow]
          exact ⟨s.seq+1,le_rfl,rfl⟩
    | some old =>
      rw [create_again workItems hfound] at hop
      obtain ⟨_,rfl⟩ := Prod.mk.inj hop
      exact h.map (overwrite assignment) (fun _ => ⟨rfl,rfl⟩) s.seq.le_succ _
  | getByWorkItemID workItemID =>
    obtain ⟨_,rfl⟩ := Prod.mk.inj hop
    exact h
  | update assignment =>
    cases hfound : s.findByWorkItem assignment.workItemID with
    | none =>
      simp only [Answers, update, hfound] at hop
      obtain ⟨_,rfl⟩ := Prod.mk.inj hop
      exact h
    | some old =>
      simp only [Answers, update, hfound] at hop
      obtain ⟨_,rfl⟩ := Prod.mk.inj hop
      exact h.map (set assignment) (fun _ => ⟨rfl,rfl⟩) le_rfl _

end PostgresAssignmentStore
namespace Postgres
variable {env : Env} {ctx : Context} {db : Database}

lemma insertWorkItem_eq (h : Direct env ctx) (item : WorkItem) (n : ℕ) (t : Tables) :
    insertWorkItem env item n t =
      .ok (PostgresStore.inserted item n,[.workItem (PostgresStore.inserted item n)]) := by
  simp only [insertWorkItem, PostgresStore.inserted, Sql.numbered_eq, h.instants, h.due]

lemma updateWorkItem_eq (h : Direct env ctx) (item : WorkItem) {t : Tables} {old : WorkItem}
    (hold : (t.workItems.find? fun row => row.id = item.id) = some old) :
    updateWorkItem env item t =
      .ok (PostgresStore.set item old,[.workItem (PostgresStore.set item old)]) := by
  simp only [updateWorkItem, hold, PostgresStore.set, h.instants, h.due]

/-- A statement that writes nothing leaves the database as it was. -/
lemma query_read {α : Type} {statement : Statement α} {a : α} (hctx : querier ctx = .pool)
    (h : statement db.tables = .ok (a,[])) : db.query ctx statement = (.ok a,db) := by
  rw [query_ok hctx h, write_nil]

lemma select_lists {test : WorkItem → Bool} {r : Except Error (List WorkItem)} {db' : Database}
    (hctx : querier ctx = .pool) (h : db.query ctx (selectWorkItems test) = (r,db')) :
    db.workItems.Lists test r ∧ db'.workItems = db.workItems := by
  rw [query_read hctx rfl] at h
  obtain ⟨rfl,rfl⟩ := Prod.mk.inj h
  exact ⟨db.workItems.lists_newestFirst test,rfl⟩

lemma create_answers (h : db.workItems.Keyed) (hdirect : Direct env ctx) (item : WorkItem) :
    db.workItems.create item = ((exec env (.storeCreate ctx item) db).1,
      (exec env (.storeCreate ctx item) db).2.workItems) := by
  have hinsert := insertWorkItem_eq hdirect item (db.sequences .workItems+1) db.tables
  have hput := put_new WorkItem.id fun old hold => (h.new item hold).1
  rw [h.create_eq, exec, insert_ok hdirect.pool hinsert, ← hput, Database.workItems]
  simp only [Database.workItems, Function.update_self]
  rfl

lemma update_answers (h : db.workItems.Keyed) (hdirect : Direct env ctx) (item : WorkItem) :
    db.workItems.update item = ((exec env (.storeUpdate ctx item) db).1,
      (exec env (.storeUpdate ctx item) db).2.workItems) := by
  cases hfound : db.workItems.rows.find? fun row => row.id = item.id with
  | none =>
    have hstatement : updateWorkItem env item db.tables = .error errNotFound := by
      rw [updateWorkItem, show db.tables.workItems = db.workItems.rows from rfl, hfound]
    rw [PostgresStore.update_missing hfound, exec, query_error hdirect.pool hstatement]
  | some old =>
    have hid : old.id = item.id := by simpa using List.find?_some hfound
    have hput := put_set WorkItem.id (PostgresStore.set item) (fun _ => rfl) h.ids
      (List.mem_of_find?_eq_some hfound)
    rw [hid] at hput
    rw [PostgresStore.update_found hfound, exec,
      query_ok hdirect.pool (updateWorkItem_eq hdirect item hfound)]
    exact congrArg₂ _ rfl (congrArg₂ _ rfl hput.symm)

lemma getByID_answers (env : Env) (db : Database) (hctx : querier ctx = .pool) (id : String) :
    db.workItems.getByID id = (exec env (.storeGetByID ctx id) db).1 ∧
      (exec env (.storeGetByID ctx id) db).2 = db := by
  cases hfound : db.tables.workItems.find? fun row => row.id = id with
  | none =>
    have hstatement : selectWorkItem id db.tables = .error errNotFound := by
      rw [selectWorkItem, hfound]
    rw [exec, query_error hctx hstatement, PostgresStore.getByID, Database.workItems, hfound]
    exact ⟨rfl,rfl⟩
  | some row =>
    have hstatement : selectWorkItem id db.tables = .ok (row,[]) := by
      rw [selectWorkItem, hfound]
    rw [exec, query_read hctx hstatement, PostgresStore.getByID, Database.workItems, hfound]
    exact ⟨rfl,rfl⟩

/-- The step lemma for the store of work items. -/
lemma storeOp_answers {op : StoreOp} {r : op.Res} {db' : Database} (hkeyed : db.workItems.Keyed)
    (h : op.Answers db r db') : PostgresStore.Answers op db.workItems r db'.workItems := by
  obtain ⟨env,ctx,hdirect,hexec⟩ := h
  cases op with
  | create item =>
    obtain ⟨rfl,rfl⟩ := Prod.mk.inj hexec
    exact create_answers hkeyed hdirect item
  | update item =>
    obtain ⟨rfl,rfl⟩ := Prod.mk.inj hexec
    exact update_answers hkeyed hdirect item
  | getByID id =>
    obtain ⟨rfl,rfl⟩ := Prod.mk.inj hexec
    obtain ⟨hresult,hsame⟩ := getByID_answers env db hdirect.pool id
    exact Prod.ext hresult (congrArg Database.workItems hsame.symm)
  | list => exact select_lists hdirect.pool hexec
  | listByAssignedToUserID userID => exact select_lists hdirect.pool hexec
  | listByCreatedByUserID userID => exact select_lists hdirect.pool hexec

lemma upsertAssignment_eq (h : Direct env ctx) (assignment : Assignment) (n : ℕ) {t : Tables}
    {old : Assignment}
    (hold : (t.assignments.find? fun row => row.workItemID = assignment.workItemID) = some old) :
    upsertAssignment env assignment n t = .ok (PostgresAssignmentStore.overwrite assignment old,
      [.assignment (PostgresAssignmentStore.overwrite assignment old)]) := by
  have hid : old.workItemID = assignment.workItemID := by simpa using List.find?_some hold
  simp only [upsertAssignment, hold, PostgresAssignmentStore.overwrite, h.instants, h.due, hid,
    Option.map_some, Option.getD_some]

lemma insertAssignment_eq (h : Direct env ctx) (assignment : Assignment) (n : ℕ) {t : Tables}
    (hnone : (t.assignments.find? fun row => row.workItemID = assignment.workItemID) = none) :
    upsertAssignment env assignment n t = .ok ({ assignment with id := Sql.numbered "assignment-" n },
      [.assignment { assignment with id := Sql.numbered "assignment-" n }]) := by
  simp only [upsertAssignment, hnone, h.instants, h.due, Option.map_none, Option.getD_none,
    Sql.numbered_eq]

lemma updateAssignment_eq (h : Direct env ctx) (assignment : Assignment) {t : Tables}
    {old : Assignment}
    (hold : (t.assignments.find? fun row => row.workItemID = assignment.workItemID) = some old) :
    updateAssignment env assignment t = .ok (PostgresAssignmentStore.set assignment old,
      [.assignment (PostgresAssignmentStore.set assignment old)]) := by
  simp only [updateAssignment, hold, PostgresAssignmentStore.set, h.due]

lemma upsert_answers (h : db.assignments.Keyed) (hdirect : Direct env ctx) (assignment : Assignment) :
    db.assignments.create [assignment.workItemID] assignment =
      ((exec env (.assignmentCreate ctx assignment) db).1,
        (exec env (.assignmentCreate ctx assignment) db).2.assignments) := by
  cases hfound : db.assignments.findByWorkItem assignment.workItemID with
  | none =>
    have hinsert := insertAssignment_eq hdirect assignment (db.sequences .assignments+1) hfound
    have hother : ∀ old ∈ db.assignments.rows, old.workItemID ≠ assignment.workItemID := by
      intro old hold
      simpa using List.find?_eq_none.mp hfound old hold
    have hput : put (·.workItemID)
        { assignment with id := Sql.numbered "assignment-" (db.assignments.seq+1) }
        db.assignments.rows = _ := put_new Assignment.workItemID hother
    rw [h.create_new hfound (List.mem_singleton_self _), exec, insert_ok hdirect.pool hinsert, ← hput,
      Database.assignments]
    simp only [Database.assignments, Function.update_self]
    rfl
  | some old =>
    have hid : old.workItemID = assignment.workItemID := by simpa using List.find?_some hfound
    have hinsert := upsertAssignment_eq hdirect assignment (db.sequences .assignments+1) hfound
    have hput := put_set Assignment.workItemID (PostgresAssignmentStore.overwrite assignment)
      (fun _ => rfl) h.workItems (List.mem_of_find?_eq_some hfound)
    rw [hid] at hput
    rw [PostgresAssignmentStore.create_again _ hfound, exec, insert_ok hdirect.pool hinsert, ← hput,
      Database.assignments]
    simp only [Database.assignments, Function.update_self]
    rfl

lemma answer_answers (h : db.assignments.Keyed) (hdirect : Direct env ctx) (assignment : Assignment) :
    db.assignments.update assignment = ((exec env (.assignmentUpdate ctx assignment) db).1,
      (exec env (.assignmentUpdate ctx assignment) db).2.assignments) := by
  cases hfound : db.assignments.findByWorkItem assignment.workItemID with
  | none =>
    have hstatement : updateAssignment env assignment db.tables = .error errAssignmentNotFound := by
      simp only [PostgresAssignmentStore.findByWorkItem, Database.assignments] at hfound
      rw [updateAssignment, hfound]
    rw [PostgresAssignmentStore.update, hfound, exec, query_error hdirect.pool hstatement]
  | some old =>
    have hid : old.workItemID = assignment.workItemID := by simpa using List.find?_some hfound
    have hput := put_set Assignment.workItemID (PostgresAssignmentStore.set assignment)
      (fun _ => rfl) h.workItems (List.mem_of_find?_eq_some hfound)
    rw [hid] at hput
    rw [PostgresAssignmentStore.update, hfound, exec,
      query_ok hdirect.pool (updateAssignment_eq hdirect assignment hfound)]
    exact congrArg₂ _ rfl (congrArg₂ _ rfl hput.symm)

lemma getByWorkItemID_answers (env : Env) (db : Database) (hctx : querier ctx = .pool)
    (workItemID : String) :
    db.assignments.getByWorkItemID workItemID =
        (exec env (.assignmentGetByWorkItemID ctx workItemID) db).1 ∧
      (exec env (.assignmentGetByWorkItemID ctx workItemID) db).2 = db := by
  cases hfound : db.tables.assignments.find? fun row => row.workItemID = workItemID with
  | none =>
    have hstatement : selectAssignment workItemID db.tables = .error errAssignmentNotFound := by
      rw [selectAssignment, hfound]
    rw [exec, query_error hctx hstatement, PostgresAssignmentStore.getByWorkItemID,
      PostgresAssignmentStore.findByWorkItem, Database.assignments, hfound]
    exact ⟨rfl,rfl⟩
  | some row =>
    have hstatement : selectAssignment workItemID db.tables = .ok (row,[]) := by
      rw [selectAssignment, hfound]
    rw [exec, query_read hctx hstatement, PostgresAssignmentStore.getByWorkItemID,
      PostgresAssignmentStore.findByWorkItem, Database.assignments, hfound]
    exact ⟨rfl,rfl⟩

/-- The step lemma for the store of assignments. -/
lemma assignmentOp_answers {op : AssignmentOp} {r : op.Res} {db' : Database}
    (hkeyed : db.assignments.Keyed) (h : op.Answers db r db') :
    PostgresAssignmentStore.Answers op db.assignments r db'.assignments := by
  obtain ⟨env,ctx,hdirect,hexec⟩ := h
  cases op with
  | create assignment =>
    obtain ⟨rfl,rfl⟩ := Prod.mk.inj hexec
    exact ⟨_,List.mem_singleton_self _,upsert_answers hkeyed hdirect assignment⟩
  | getByWorkItemID workItemID =>
    obtain ⟨rfl,rfl⟩ := Prod.mk.inj hexec
    obtain ⟨hresult,hsame⟩ := getByWorkItemID_answers env db hdirect.pool workItemID
    exact Prod.ext hresult (congrArg Database.assignments hsame.symm)
  | update assignment =>
    obtain ⟨rfl,rfl⟩ := Prod.mk.inj hexec
    exact answer_answers hkeyed hdirect assignment

/-- The run lemma: the calls and answers of the database are calls and answers of its table. -/
theorem workItems_transcript {es : List (Event StoreOp.Res)} {db : Database}
    (h : Trace (Answered StoreOp.Answers) .empty es db) :
    Trace (Answered PostgresStore.Answers) .empty es db.workItems := by
  refine transcript_of_view (fun db => db.workItems.Keyed) Database.workItems
    (fun op db r db' hkeyed hanswered => ?_) h PostgresStore.keyed_empty
  have hanswer := storeOp_answers hkeyed hanswered
  exact ⟨hkeyed.answers hanswer,hanswer⟩

theorem assignments_transcript {es : List (Event AssignmentOp.Res)} {db : Database}
    (h : Trace (Answered AssignmentOp.Answers) .empty es db) :
    Trace (Answered PostgresAssignmentStore.Answers) .empty es db.assignments := by
  refine transcript_of_view (fun db => db.assignments.Keyed) Database.assignments
    (fun op db r db' hkeyed hanswered => ?_) h PostgresAssignmentStore.keyed_empty
  have hanswer := assignmentOp_answers hkeyed hanswered
  exact ⟨hkeyed.answers hanswer,hanswer⟩

end Postgres
end OpsPlatform.Workitems
