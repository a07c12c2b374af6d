import OpsPlatform.Workitems.Outcome
import OpsPlatform.Workitems.Postgres

/-! Calls of the service on Postgres inside one transaction: the writes they leave pending, what the
transaction makes of them at its end, and that no result follows a call that has failed. -/
namespace OpsPlatform.Workitems
open OpsPlatform.Go OpsPlatform.Db Interaction Program

namespace Postgres

/-- What the notifier writes, where there is one. -/
inductive Notice (hasNotifier : Bool) (recipientUserID workItemID kind message : String) :
    List Write → Prop
  | written {row : Notifications.Notification} (notifier : hasNotifier = true)
      (notification : row = { Notifications.newNotification recipientUserID workItemID kind message
        row.createdAt with id := row.id }) :
      Notice hasNotifier recipientUserID workItemID kind message [.notification row]
  | none (notifier : hasNotifier = false) :
      Notice hasNotifier recipientUserID workItemID kind message []

/-- The stored row of a work item that a method has changed at `now`: a column keeps of each instant
what its type does. -/
def StoredItem (row : WorkItem) (now : Time) (updated : WorkItem) : Prop :=
  ∃ timestamptz : Time → Time, updated = { row with
    updatedAt := timestamptz now, dueAt := row.dueAt.map timestamptz }

/-- The tables have all writes of the call if it returns a result, and none if it reports an
error. -/
def AllOrNothing {α : Type} (db : Database) (D : α → List Write → Prop) :
    Except Error α → Database → Prop :=
  Ends (fun a db' => ∃ writes, D a writes ∧ db'.journal = db.journal ++ writes ∧
    db'.tables = db.tables.writeAll writes) fun db' => db'.tables = db.tables

/-- Since `db` the transaction has made these writes, if it is still there; the tables are as they
were. -/
structure Pending (db : Database) (tx : ℕ) (writes : List Write) (db' : Database) : Prop where
  tables : db'.tables = db.tables
  open_ : ∀ kept, db'.transactions tx = some kept →
    kept = writes ∧ db'.journal = db.journal ++ writes

/-- A result comes with the writes pending that belong to it. -/
def Leaves {α : Type} (db : Database) (tx : ℕ) (D : α → List Write → Prop) :
    Except Error α → Database → Prop :=
  Ends (fun a db' => ∃ writes, D a writes ∧ Pending db tx writes db') fun db' =>
    db'.tables = db.tables

section Pending
variable {db db' : Database} {tx : ℕ} {writes : List Write} {α : Type}

lemma Pending.write {new : List Write} (h : Pending db tx writes db') :
    Pending db tx (writes ++ new) (db'.write new (.tx tx)) := by
  refine ⟨h.tables,fun kept hkept => ?_⟩
  simp only [Database.write, Function.update_self, Option.map_eq_some_iff] at hkept
  obtain ⟨earlier,hearlier,rfl⟩ := hkept
  obtain ⟨rfl,hjournal⟩ := h.open_ earlier hearlier
  exact ⟨rfl,by rw [Database.write, hjournal, List.append_assoc]⟩

/-- A statement sees the tables with the pending writes, and adds its own. -/
lemma Pending.query (h : Pending db tx writes db') (statement : Statement α) :
    Ends (fun a db'' => ∃ new, statement (db.tables.writeAll writes) = .ok (a,new) ∧
        Pending db tx (writes ++ new) db'') (fun db'' => db''.tables = db.tables)
      (db'.query ⟨some tx⟩ statement).1 (db'.query ⟨some tx⟩ statement).2 := by
  simp only [Database.query, querier, Database.view]
  cases htx : db'.transactions tx with
  | none => exact h.tables
  | some kept =>
    obtain ⟨rfl,-⟩ := h.open_ kept htx
    simp only [Option.map_some, h.tables]
    cases hstatement : statement (db.tables.writeAll kept) with
    | error err => exact h.tables
    | ok row => exact ⟨row.2,rfl,h.write⟩

lemma Pending.insert (h : Pending db tx writes db') (sequence : Sequence)
    (statement : ℕ → Statement α) :
    Ends (fun a db'' => ∃ n new, statement n (db.tables.writeAll writes) = .ok (a,new) ∧
        Pending db tx (writes ++ new) db'') (fun db'' => db''.tables = db.tables)
      (db'.insert ⟨some tx⟩ sequence statement).1 (db'.insert ⟨some tx⟩ sequence statement).2 := by
  have hquery := h.query (statement (db'.sequences sequence + 1))
  simp only [Database.insert]
  rcases hresult : db'.query ⟨some tx⟩ (statement (db'.sequences sequence + 1)) with
    ⟨err | a,db''⟩ <;> rw [hresult] at hquery
  · exact hquery
  · obtain ⟨new,hnew,hpending⟩ := hquery
    exact ⟨_,new,hnew,hpending.tables,hpending.open_⟩

lemma Pending.fails {db'' : Database} (h : Pending db tx writes db') (hfails : Fails db' db'') :
    Pending db tx writes db'' := by
  refine ⟨hfails.tables.trans h.tables,fun kept hkept => ?_⟩
  rw [hfails.journal]
  obtain hsame | hlost := hfails.transactions tx
  · exact h.open_ kept (hsame ▸ hkept)
  · rw [hlost] at hkept
    cases hkept

lemma Pending.begin (db : Database) : Pending db db.begun [] db.begin.2 := by
  refine ⟨rfl,fun kept hkept => ?_⟩
  obtain rfl : [] = kept := by simpa [Database.begin] using hkept
  simp [Database.begin]

/-- A transaction that commits writes all that was pending. -/
lemma Pending.commit (h : Pending db tx writes db') :
    Ends (fun _ db'' => db''.journal = db.journal ++ writes ∧
        db''.tables = db.tables.writeAll writes) (fun db'' => db''.tables = db.tables)
      (db'.commit tx).1 (db'.commit tx).2 := by
  unfold Database.commit
  cases htx : db'.transactions tx with
  | none => exact h.tables
  | some kept =>
    obtain ⟨rfl,hjournal⟩ := h.open_ kept htx
    exact ⟨hjournal,by rw [h.tables]⟩

lemma rollback_tables (db : Database) (tx : ℕ) : (db.rollback tx).2.tables = db.tables := by
  unfold Database.rollback
  cases db.transactions tx <;> rfl

end Pending

section Rules
variable {db db' : Database} {tx : ℕ} {writes : List Write} {α β : Type}
  {D : α → List Write → Prop}

/-- An error inside a transaction leaves the tables. -/
lemma Leaves.error {err : Error} (h : Pending db tx writes db') :
    Leaves db tx D (.error err) db' := h.tables

/-- One call in a transaction: what it establishes where it works, the rest may rely on. -/
lemma wp_step {op : Op} {read : op.Res → Except Error β} {f : β → M α}
    {K : β → Database → Prop} (h : Pending db tx writes db')
    (hexec : ∀ env, Ends K (fun db'' => db''.tables = db.tables) (read (exec env op db').1)
      (exec env op db').2)
    (hfailed : ∀ r, Failed op r → ∃ err, read r = .error err)
    (hnext : ∀ b db'', K b db'' → (f b).Wp Answers db'' (Leaves db tx D)) :
    (call op (fun r => fromResult (read r)) >>= f).Wp Answers db' (Leaves db tx D) := by
  rw [call_bind, wp_call]
  rintro r db'' (⟨env,hanswer⟩ | ⟨hfails,hdb⟩)
  · have hends := hexec env
    rw [hanswer] at hends
    dsimp only at hends
    cases hr : read r with
    | error err =>
      rw [hr] at hends
      exact (wp_fail _).mpr hends
    | ok b =>
      rw [hr] at hends
      exact hnext b db'' hends
  · obtain ⟨err,herr⟩ := hfailed r hfails
    rw [herr]
    exact (wp_fail _).mpr (Leaves.error (h.fails hdb))

lemma wp_now {f : Time → M α} (h : Pending db tx writes db')
    (hnext : ∀ now db'', Pending db tx writes db'' →
      (f now).Wp Answers db'' (Leaves db tx D)) :
    ((call .now ret : M Time) >>= f).Wp Answers db' (Leaves db tx D) := by
  rw [call_bind, wp_call]
  rintro now db'' (⟨env,hanswer⟩ | ⟨hfails,_⟩)
  · obtain rfl : db' = db'' := congrArg Prod.snd hanswer
    exact hnext now db' h
  · exact hfails.elim

/-- Questions to the team authority leave everything pending. -/
lemma wp_asks {p : M β} {f : β → M α} {ctx : Context} (hp : p.Only (Op.Asks ctx))
    (h : Pending db tx writes db')
    (hnext : ∀ b db'', Pending db tx writes db'' → (f b).Wp Answers db'' (Leaves db tx D)) :
    (p >>= f).Wp Answers db' (Leaves db tx D) := by
  have hkeep : p.Wp Answers db' fun _ db'' => Pending db tx writes db'' := by
    refine wp_of_only hp (fun op s r t hop hs hanswer => ?_) h
    obtain ⟨env,hexec⟩ | ⟨-,hfails⟩ := hanswer
    · cases op with
      | isActiveSupervisorOf =>
        obtain rfl : s = t := congrArg Prod.snd hexec
        exact hs
      | _ => exact hop.elim
    · exact hs.fails hfails
  exact hkeep.andThen hnext fun err db'' hdb => Leaves.error hdb

lemma wp_refuse {c : Prop} [Decidable c] {err : Error} {f : Unit → M α}
    (h : Pending db tx writes db')
    (hnext : ¬ c → (f ()).Wp Answers db' (Leaves db tx D)) :
    (failIf c err >>= f).Wp Answers db' (Leaves db tx D) :=
  (wp_failIf_bind c err f).mpr ⟨fun _ => Leaves.error h,hnext⟩

lemma wp_storeGetByID {id : String} {f : WorkItem → M α} (h : Pending db tx [] db')
    (hnext : ∀ item db'', (db.tables.workItems.find? fun row => row.id = id) = some item →
      Pending db tx [] db'' → (f item).Wp Answers db'' (Leaves db tx D)) :
    (call (.storeGetByID ⟨some tx⟩ id) fromResult >>= f).Wp Answers db' (Leaves db tx D) := by
  refine wp_step h (fun _ => h.query _) (fun _ h => h) ?_
  rintro item db'' ⟨new,hnew,hpending⟩
  simp only [selectWorkItem, Tables.writeAll, List.foldl_nil] at hnew
  split at hnew
  · cases hnew
  · rename_i hfound
    obtain ⟨rfl,rfl⟩ := Prod.mk.inj (Except.ok.inj hnew)
    exact hnext _ db'' hfound hpending

lemma wp_assignmentGetByWorkItemID {id : String} {f : Assignment → M α} (h : Pending db tx [] db')
    (hnext : ∀ assignment db'',
      (db.tables.assignments.find? fun row => row.workItemID = id) = some assignment →
      Pending db tx [] db'' → (f assignment).Wp Answers db'' (Leaves db tx D)) :
    (call (.assignmentGetByWorkItemID ⟨some tx⟩ id) fromResult >>= f).Wp Answers db'
      (Leaves db tx D) := by
  refine wp_step h (fun _ => h.query _) (fun _ h => h) ?_
  rintro item db'' ⟨new,hnew,hpending⟩
  simp only [selectAssignment, Tables.writeAll, List.foldl_nil] at hnew
  split at hnew
  · cases hnew
  · rename_i hfound
    obtain ⟨rfl,rfl⟩ := Prod.mk.inj (Except.ok.inj hnew)
    exact hnext _ db'' hfound hpending

/-- The row found before is the one the update writes over. -/
lemma wp_storeUpdate {id : String} {item row : WorkItem} {f : WorkItem → M α}
    (h : Pending db tx [] db')
    (hfound : (db.tables.workItems.find? fun old => old.id = id) = some item)
    (horigin : SameOrigin row item)
    (hnext : ∀ updated db'', StoredItem row row.updatedAt updated →
      Pending db tx [.workItem updated] db'' → (f updated).Wp Answers db'' (Leaves db tx D)) :
    (call (.storeUpdate ⟨some tx⟩ row) fromResult >>= f).Wp Answers db' (Leaves db tx D) := by
  refine wp_step h (K := fun updated db'' => StoredItem row row.updatedAt updated ∧
    Pending db tx [.workItem updated] db'') (fun env => ?_) (fun _ h => h) ?_
  · refine Ends.imp (h.query (updateWorkItem env row)) ?_
    rintro updated ⟨new,hnew,hpending⟩
    have hid : row.id = id := horigin.id.trans (by simpa using List.find?_some hfound)
    simp only [updateWorkItem, Tables.writeAll, List.foldl_nil, hid, hfound] at hnew
    obtain ⟨rfl,rfl⟩ := Prod.mk.inj (Except.ok.inj hnew)
    refine ⟨⟨env.timestamptz,?_⟩,hpending⟩
    rw [horigin.id, horigin.referenceCode, horigin.createdByUserID, horigin.createdAt]
  · exact fun updated db'' hdone => hnext updated db'' hdone.1 hdone.2

/-- A call that inserts one row. -/
lemma wp_insert {op : Op} {Row : Type} {read : op.Res → Except Error Row} {f : Row → M α}
    {sequence : Sequence} {statement : Env → ℕ → Statement Row} (made : Row → Write)
    {Q : Row → Prop} (h : Pending db tx writes db')
    (hexec : ∀ env, (read (exec env op db').1,(exec env op db').2) =
      db'.insert ⟨some tx⟩ sequence (statement env))
    (hfailed : ∀ r, Failed op r → ∃ err, read r = .error err)
    (hstatement : ∀ env n row new, statement env n (db.tables.writeAll writes) = .ok (row,new) →
      Q row ∧ new = [made row])
    (hnext : ∀ row db'', Q row → Pending db tx (writes ++ [made row]) db'' →
      (f row).Wp Answers db'' (Leaves db tx D)) :
    (call op (fun r => fromResult (read r)) >>= f).Wp Answers db' (Leaves db tx D) := by
  refine wp_step h (K := fun row db'' => Q row ∧ Pending db tx (writes ++ [made row]) db'')
    (fun env => ?_) hfailed fun row db'' hdone => hnext row db'' hdone.1 hdone.2
  have hinsert := h.insert sequence (statement env)
  rw [← hexec env] at hinsert
  refine Ends.imp hinsert ?_
  rintro row ⟨n,new,hnew,hpending⟩
  obtain ⟨hrow,rfl⟩ := hstatement env n row new hnew
  exact ⟨hrow,hpending⟩

lemma wp_recordStatusChange {s : Service} {id actor : String} {src dst : Status}
    {reason : Option String} {now : Time} {f : Unit → M α} (h : Pending db tx writes db')
    (hnext : ∀ entry db'', entry = { statusEntry id src dst actor reason entry.createdAt with
        id := entry.id } → Pending db tx (writes ++ [.statusHistory entry]) db'' →
      (f ()).Wp Answers db'' (Leaves db tx D)) :
    (s.recordStatusChange ⟨some tx⟩ id src dst actor reason now >>= f).Wp Answers db'
      (Leaves db tx D) := by
  unfold Service.recordStatusChange
  rw [bind_assoc]
  refine wp_insert .statusHistory (Q := fun entry => entry = { statusEntry id src dst actor
    reason entry.createdAt with id := entry.id }) h (fun _ => rfl) (fun _ h => h) ?_ fun entry db'' =>
      hnext entry db''
  intro env n row new hnew
  obtain ⟨rfl,rfl⟩ := Prod.mk.inj (Except.ok.inj hnew)
  exact ⟨rfl,rfl⟩

lemma wp_recordAssignmentEvent {s : Service} {id actor assignee : String}
    {action : AssignmentStatus} {note : Option String} {now : Time} {f : Unit → M α}
    (h : Pending db tx writes db')
    (hnext : ∀ event db'', event = { assignmentEvent id action actor assignee note event.createdAt with
        id := event.id } → Pending db tx (writes ++ [.assignmentHistory event]) db'' →
      (f ()).Wp Answers db'' (Leaves db tx D)) :
    (s.recordAssignmentEvent ⟨some tx⟩ id action actor assignee note now >>= f).Wp Answers db'
      (Leaves db tx D) := by
  unfold Service.recordAssignmentEvent
  rw [bind_assoc]
  refine wp_insert .assignmentHistory (Q := fun event => event = { assignmentEvent id action
    actor assignee note event.createdAt with id := event.id }) h (fun _ => rfl) (fun _ h => h) ?_
      fun event db'' => hnext event db''
  intro env n row new hnew
  obtain ⟨rfl,rfl⟩ := Prod.mk.inj (Except.ok.inj hnew)
  exact ⟨rfl,rfl⟩

lemma wp_assignmentCreate {id assigner assignee : String} {now : Time} {f : Assignment → M α}
    (h : Pending db tx writes db')
    (hnext : ∀ assignment db'', assignment = { newAssignment id assigner assignee
        assignment.assignedAt with id := assignment.id } →
      Pending db tx (writes ++ [.assignment assignment]) db'' →
      (f assignment).Wp Answers db'' (Leaves db tx D)) :
    (call (.assignmentCreate ⟨some tx⟩ (newAssignment id assigner assignee now)) fromResult >>=
      f).Wp Answers db' (Leaves db tx D) := by
  refine wp_insert .assignment (Q := fun assignment => assignment = { newAssignment id
    assigner assignee assignment.assignedAt with id := assignment.id }) h (fun _ => rfl)
      (fun _ h => h) ?_ hnext
  intro env n row new hnew
  obtain ⟨rfl,rfl⟩ := Prod.mk.inj (Except.ok.inj hnew)
  exact ⟨rfl,rfl⟩

lemma wp_assignmentUpdate {assignment : Assignment} {accept : Bool} {note : Option String}
    {now : Time} {f : Assignment → M α} (h : Pending db tx writes db')
    (hfound : ((db.tables.writeAll writes).assignments.find? fun row =>
      row.workItemID = assignment.workItemID) = some assignment)
    (hnext : ∀ at_ db'', Pending db tx
        (writes ++ [.assignment (respondedAssignment assignment accept note at_)]) db'' →
      (f (respondedAssignment assignment accept note at_)).Wp Answers db'' (Leaves db tx D)) :
    (call (.assignmentUpdate ⟨some tx⟩ (respondedAssignment assignment accept note now)) fromResult >>=
      f).Wp Answers db' (Leaves db tx D) := by
  refine wp_step h (fun env => ?_) (fun _ h => h) (K := fun answered db'' => ∃ at_,
    answered = respondedAssignment assignment accept note at_ ∧
      Pending db tx (writes ++ [.assignment answered]) db'') ?_
  · refine Ends.imp (h.query (updateAssignment env _)) ?_
    rintro answered ⟨new,hnew,hpending⟩
    unfold updateAssignment at hnew
    rw [show ((db.tables.writeAll writes).assignments.find? fun row => row.workItemID =
      (respondedAssignment assignment accept note now).workItemID) = some assignment from hfound] at hnew
    obtain ⟨rfl,rfl⟩ := Prod.mk.inj (Except.ok.inj hnew)
    exact ⟨env.timestamptz now,rfl,hpending⟩
  · rintro _ db'' ⟨at_,rfl,hpending⟩
    exact hnext at_ db'' hpending

/-- `Notify` hands the context it was given to its store. -/
lemma Pending.notify (h : Pending db tx writes db') (env : Env)
    (recipientUserID workItemID kind message : String) :
    Ends (fun _ db'' => ∃ new, Notice true recipientUserID workItemID kind message new ∧
        Pending db tx (writes ++ new) db'') (fun db'' => db''.tables = db.tables)
      ((Notifications.notify ⟨some tx⟩ recipientUserID workItemID kind message).run
        (notificationExec env) db').1
      ((Notifications.notify ⟨some tx⟩ recipientUserID workItemID kind message).run
        (notificationExec env) db').2 := by
  have hdone (x : Except Error Notifications.Notification) (t : Database) :
      ((do let _ ← fromResult x; return () : Notifications.M Unit).run (notificationExec env) t) =
        (x.map fun _ => (),t) := by cases x <;> simp [Except.map]
  unfold Notifications.notify
  rw [run_failIf_bind]
  split_ifs
  · exact h.tables
  rw [call_bind, run_call, ret_bind, call_bind, run_call, hdone]
  refine Ends.map (h.insert .notifications (insertNotification env
    (Notifications.newNotification recipientUserID workItemID kind message env.now))) ?_
  rintro row ⟨n,new,hnew,hpending⟩
  obtain ⟨rfl,rfl⟩ := Prod.mk.inj (Except.ok.inj hnew)
  exact ⟨_,.written rfl rfl,hpending⟩

lemma wp_notify {hasNotifier hasTeamAuthority : Bool} {recipientUserID id kind message : String}
    {f : Unit → M α} (h : Pending db tx writes db')
    (hnext : ∀ new db'', Notice hasNotifier recipientUserID id kind message new →
      Pending db tx (writes ++ new) db'' → (f ()).Wp Answers db'' (Leaves db tx D)) :
    ((Service.postgres hasNotifier hasTeamAuthority).notify ⟨some tx⟩ recipientUserID id kind message
      >>= f).Wp Answers db' (Leaves db tx D) := by
  unfold Service.notify
  cases hasNotifier with
  | false =>
    rw [if_pos (by simp [Service.postgres])]
    exact hnext [] db' (.none rfl) (by rwa [List.append_nil])
  | true =>
    rw [if_neg (by simp [Service.postgres])]
    refine wp_step h (fun env => h.notify env recipientUserID id kind message) (fun _ h => h) ?_
    rintro _ db'' ⟨new,hnotice,hpending⟩
    exact hnext new db'' hnotice hpending

lemma wp_done {a : α} (h : Pending db tx writes db') (hdone : D a writes) :
    (return a : M α).Wp Answers db' (Leaves db tx D) := (wp_ret a).mpr ⟨writes,hdone,h⟩

end Rules

section Runner
variable {db : Database} {α : Type}

/-- What a function does in a transaction, the transaction does or does not do. -/
theorem wp_poolTxRunner (ctx : Context) {fn : Context → M α} {D : α → List Write → Prop}
    (hfn : ∀ tx db', Pending db tx [] db' → (fn ⟨some tx⟩).Wp Answers db' (Leaves db tx D)) :
    (poolTxRunner.withTx ctx fn).Wp Answers db (AllOrNothing db D) := by
  refine wp_withTx (J := fun tx => Leaves db tx D) ?_ ?_ ?_
  · refine (wp_call _ _).mpr ?_
    rintro r db' (⟨env,hexec⟩ | ⟨⟨err,rfl⟩,hfails⟩)
    · cases hexec
      exact (wp_fromResult _).mpr (hfn _ _ (Pending.begin db))
    · exact (wp_fromResult _).mpr hfails.tables
  · rintro tx a db' ⟨writes,hdone,hpending⟩
    refine (wp_call _ _).mpr ?_
    rintro r db'' (⟨env,hexec⟩ | ⟨⟨err,rfl⟩,hfails⟩)
    · obtain rfl : (db'.commit tx).1 = r := congrArg Prod.fst hexec
      obtain rfl : (db'.commit tx).2 = db'' := congrArg Prod.snd hexec
      exact (wp_fromResult _).mpr (Ends.imp hpending.commit fun _ hcommit => ⟨writes,hdone,hcommit⟩)
    · exact (wp_fromResult _).mpr (hfails.tables.trans hpending.tables)
  · intro tx err db' h
    refine (wp_call _ _).mpr ?_
    rintro r db'' (⟨env,hexec⟩ | ⟨⟨err,rfl⟩,hfails⟩)
    · obtain rfl : (db'.rollback tx).2 = db'' := congrArg Prod.snd hexec
      exact (wp_fromResult _).mpr ((rollback_tables db' tx).trans h)
    · exact (wp_fromResult _).mpr (hfails.tables.trans h)

/-- An early return before the transaction has written nothing. -/
lemma wp_guard {c : Prop} [Decidable c] {e : Error} {f : Unit → M α} {D : α → List Write → Prop}
    (hf : (f ()).Wp Answers db (AllOrNothing db D)) :
    (failIf c e >>= f).Wp Answers db (AllOrNothing db D) :=
  (wp_failIf_bind c e f).mpr ⟨fun _ => rfl,fun _ => hf⟩

end Runner

section Strict
variable {s : Service} {ctx : Context} {α β : Type}

lemma strict_op {op : Op} {read : op.Res → Except Error β} {f : β → M α}
    (hfailed : ∀ r, Failed op r → ∃ err, read r = .error err) (hf : ∀ b, (f b).Strict Failed) :
    (call op (fun r => fromResult (read r)) >>= f).Strict Failed := by
  refine strict_bind (strict_call fun r b hr hfail => ?_) hf
  obtain ⟨err,herr⟩ := hfailed r hfail
  rw [hr] at herr
  cases herr

lemma strict_now {f : Time → M α} (hf : ∀ now, (f now).Strict Failed) :
    ((call .now ret : M Time) >>= f).Strict Failed :=
  strict_bind (show (call .now fun now => fromResult (.ok now) : M Time).Strict Failed from
    strict_call fun _ _ _ h => h) hf

lemma strict_refuse {c : Prop} [Decidable c] {err : Error} {f : Unit → M α}
    (hf : (f ()).Strict Failed) : (failIf c err >>= f).Strict Failed :=
  strict_bind (strict_failIf c err) fun _ => hf

lemma strict_last {op : Op} {read : op.Res → Except Error β}
    (hfailed : ∀ r, Failed op r → ∃ err, read r = .error err) :
    (call op fun r => fromResult (read r) : M β).Strict Failed := by
  rw [← bind_ret (call op fun r => fromResult (read r))]
  exact strict_op hfailed strict_ret

lemma strict_supervisorMayActOn (actor : String) (item : WorkItem) :
    (s.supervisorMayActOn ctx actor item).Strict Failed := by
  unfold Service.supervisorMayActOn
  split
  · exact strict_ret _
  · split_ifs
    · exact strict_last fun _ h => h
    · exact strict_ret _

lemma strict_authorizeChangeStatus (actor : String) (admin supervisor requester : Bool)
    (item : WorkItem) (toStatus : Status) :
    (s.authorizeChangeStatus ctx actor admin supervisor requester item toStatus).Strict Failed := by
  unfold Service.authorizeChangeStatus
  split_ifs
  · exact strict_failIf _ _
  · exact strict_bind (strict_supervisorMayActOn _ _) fun _ => strict_refuse (strict_failIf _ _)
  · exact strict_fail _
  · exact strict_refuse (strict_failIf _ _)

lemma strict_authorizeAssign (assigner assignee : String) (admin supervisor : Bool)
    (item : WorkItem) :
    (s.authorizeAssign ctx assigner assignee admin supervisor item).Strict Failed := by
  unfold Service.authorizeAssign
  split_ifs
  · exact strict_ret _
  · exact strict_bind (strict_supervisorMayActOn _ _) fun _ => strict_refuse (strict_refuse
      (strict_op (fun _ h => h) fun _ => strict_failIf _ _))
  · exact strict_fail _

lemma strict_recordStatusChange (id actor : String) (src dst : Status) (reason : Option String)
    (now : Time) : (s.recordStatusChange ctx id src dst actor reason now).Strict Failed :=
  strict_op (fun _ h => h) fun _ => strict_ret _

lemma strict_recordAssignmentEvent (id actor assignee : String) (action : AssignmentStatus)
    (note : Option String) (now : Time) :
    (s.recordAssignmentEvent ctx id action actor assignee note now).Strict Failed :=
  strict_op (fun _ h => h) fun _ => strict_ret _

lemma strict_notify (recipientUserID id kind message : String) :
    (s.notify ctx recipientUserID id kind message).Strict Failed := by
  unfold Service.notify
  split_ifs
  · exact strict_last fun _ h => h
  · exact strict_ret _

lemma strict_notifyResponse (id : String) (item : WorkItem) (assignment : Assignment)
    (accept : Bool) : (s.notifyResponse ctx id item assignment accept).Strict Failed := by
  unfold Service.notifyResponse
  split_ifs
  · exact strict_notify _ _ _ _
  · exact strict_ret _

lemma strict_poolTxRunner {fn : Context → M α} (hfn : ∀ ctx, (fn ctx).Strict Failed) :
    (poolTxRunner.withTx ctx fn).Strict Failed :=
  strict_withTx (strict_last fun _ h => h) hfn fun _ => strict_last fun _ h => h

end Strict
end Postgres
end OpsPlatform.Workitems
