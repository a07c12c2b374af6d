import OpsPlatform.Workitems.Notices

/-! A call about one work item leaves all others alone. What the stores keep about an item lies
under ids made of numbers and in lists that all items share; no two items meet there. -/
namespace OpsPlatform.Workitems
open OpsPlatform.Go Interaction Program

/-- What the stores keep about one work item, its notifications by their ids. -/
@[ext] structure Records where
  row : Option WorkItem
  statusHistory : List StatusHistory
  assignment : Option Assignment
  assignmentHistory : List AssignmentHistory
  notifications : String → Option Notifications.Notification

def State.records (st : State) (id : String) : Records where
  row := st.items.byID id
  statusHistory := st.history.ofWorkItem id
  assignment := st.assignments.byWorkItem id
  assignmentHistory := st.assignmentHistory.ofWorkItem id
  notifications k := (st.notifications.entries k).filter fun row => row.workItemID = id

/-- One item more, with a number that no other item has. -/
structure Adds (st st' : State) (item : WorkItem) : Prop where
  rows : st'.items.rows = st.items.rows ++ [item]
  stored : st'.items.byID item.id = some item
  number : ∃ n, item.id = workItemID n ∧ item.referenceCode = sprintf04d "WI-" n
  fresh : ∀ k old, st.items.byID k = some old →
    old.id ≠ item.id ∧ old.referenceCode ≠ item.referenceCode
  others : ∀ k, k ≠ item.id → st'.records k = st.records k

/-- The records of one item at most have changed, and not where the item comes from. -/
structure Touches (id : String) (st st' : State) : Prop where
  ids : st'.items.ordered = st.items.ordered
  others : ∀ k, k ≠ id → st'.records k = st.records k
  origin : ∀ item, st.items.byID id = some item →
    ∃ row, st'.items.byID id = some row ∧ SameOrigin item row

/-- What a call may do to the records of the items. -/
def Isolated (st : State) : Call → Except Error Reply × State → Prop
  | .create _ _, out => (∃ e, out = (.error e,st)) ∨
    ∃ item, out.1 = .ok (.item item) ∧ Adds st out.2 item
  | .update id _ _ _ _, out | .changeStatus id _ _ _ _ _, out | .assignWorkItem id _ _ _ _, out
  | .respondToAssignment id _ _ _ _, out => Touches id st out.2
  | _, out => out.2 = st

lemma Touches.refl (id : String) (st : State) : Touches id st st :=
  ⟨rfl,fun _ _ => rfl,fun item h => ⟨item,h,.refl item⟩⟩

/-- A call that changed nothing. -/
lemma isolated_of_unchanged {st : State} {c : Call} {out : Except Error Reply × State}
    (hsame : out.2 = st) (hidle : c.Reads ∨ ∃ e, out.1 = .error e) : Isolated st c out := by
  obtain ⟨reply,st'⟩ := out
  obtain rfl : st' = st := hsame
  cases c with
  | create =>
    obtain ⟨e,rfl⟩ := hidle.resolve_left id
    exact .inl ⟨e,rfl⟩
  | update id => exact .refl id _
  | changeStatus id => exact .refl id _
  | assignWorkItem id => exact .refl id _
  | respondToAssignment id => exact .refl id _
  | _ => rfl

/-- The code of an item has the number of its id. -/
def WorkItem.Coded (item : WorkItem) : Prop :=
  ∀ n, item.id = workItemID n → item.referenceCode = sprintf04d "WI-" n

/-- What the isolation of items rests on. -/
structure State.Filed (st : State) : Prop where
  sound : st.Sound
  coded : ∀ k item, st.items.byID k = some item → item.Coded
  numbered : st.notifications.Numbered

theorem State.empty_filed : State.empty.Filed :=
  ⟨State.empty_sound,fun _ _ h => (Option.some_ne_none _ h.symm).elim,
    Notifications.MemoryStore.new_numbered⟩

section Effect
variable {s : Service} {r : Request} {st st' : State} {c : Call} {out : Except Error Reply}
  {W k : String}

/-- A notification about one item, under a new id, is none about another. -/
lemma notifications_notified {recipientUserID kind message : String} {n : ℕ}
    {store : Notifications.MemoryStore} (hnumbered : store.Numbered) (hk : k ≠ workItemID n)
    (id : String) :
    ((s.notified r.env r.ctx recipientUserID (workItemID n) kind message store).2.entries
      id).filter (fun row => row.workItemID = k) =
      (store.entries id).filter fun row => row.workItemID = k := by
  unfold Service.notified
  split_ifs
  · change ((Notifications.notifyMemory _ _ _ _ _ _ _).2.entries id).filter _ = _
    rw [Notifications.notifyMemory_eq]
    split_ifs
    · rfl
    · rw [Notifications.MemoryStore.entries_create, Function.update_apply]
      split_ifs with hid
      · have hfree : store.entries id = none := by
          rw [Option.eq_none_iff_forall_ne_some]
          intro row hrow
          obtain ⟨-,m,-,hm,hid'⟩ := hnumbered id row hrow
          have := sprintf04d_injective _ (hid.symm.trans hid')
          omega
        rw [hfree]
        simp [Notifications.newNotification, trimSpace_workItemID, Ne.symm hk]
      · rfl
  · rfl

/-- The step lemma of the isolation: a call about an item leaves the records of the others. -/
lemma Effect.others (h : Effect s r.env r.ctx st c out st') (hnumbered : st.notifications.Numbered)
    (htarget : c.target = some W) (hk : k ≠ W) : st'.records k = st.records k := by
  obtain ⟨hrow,htrail,hoffer,hevents⟩ := h.sameOn htarget hk
  refine Records.ext hrow htrail hoffer hevents (funext fun id => ?_)
  obtain ⟨item,row,found,-⟩ := h.rewrites htarget
  obtain ⟨n,-,-,rfl⟩ := st.items.exists_number found
  cases h with
  | create => cases htarget
  | update => rfl
  | changeStatus =>
    cases htarget
    simp only [State.records, Service.statusNotice]
    split
    · rfl
    · exact notifications_notified hnumbered hk id
  | assignWorkItem =>
    cases htarget
    exact notifications_notified hnumbered hk id
  | respondToAssignment =>
    cases htarget
    simp only [State.records, Service.responseNotice]
    split_ifs
    · exact notifications_notified hnumbered hk id
    · rfl

lemma Effect.touches (h : Effect s r.env r.ctx st c out st') (hfiled : st.Filed)
    (htarget : c.target = some W) : Touches W st st' := by
  obtain ⟨item,row,found,hitems,hsame⟩ := h.rewrites htarget
  refine ⟨?_,fun k hk => h.others hfiled.numbered htarget hk,fun old hold => h.origin hold⟩
  rw [hitems, st.items.ordered_update]

/-- A new item has the next number, which no coded item can have. -/
lemma adds_create (hfiled : st.Filed) (item : WorkItem) :
    Adds st { st with items := (st.items.create item).2 } { item with
      id := workItemID (st.items.seq+1), referenceCode := sprintf04d "WI-" (st.items.seq+1) } where
  rows := st.items.rows_create item
  stored := (st.items.create_byID item _).trans (if_pos rfl)
  number := ⟨_,rfl,rfl⟩
  fresh k old hold := by
    obtain ⟨n,-,hn,rfl⟩ := st.items.exists_number hold
    have hid := st.items.keyed hold
    rw [hfiled.coded _ old hold n hid, hid]
    refine ⟨fun heq => ?_,fun heq => ?_⟩
    · have := workItemID_injective heq
      omega
    · have := sprintf04d_injective _ heq
      omega
  others k hk := Records.ext ((st.items.create_byID item k).trans (if_neg hk)) rfl rfl rfl rfl

lemma Effect.isolated (h : Effect s r.env r.ctx st c out st') (hfiled : st.Filed) :
    Isolated st c (out,st') := by
  cases hc : c with
  | create =>
    subst hc
    cases h
    exact .inr ⟨_,rfl,adds_create hfiled _⟩
  | update => exact h.touches hfiled (by rw [hc]; rfl)
  | changeStatus => exact h.touches hfiled (by rw [hc]; rfl)
  | assignWorkItem => exact h.touches hfiled (by rw [hc]; rfl)
  | respondToAssignment => exact h.touches hfiled (by rw [hc]; rfl)
  | _ => subst hc; cases h

/-- The step lemma of the codes. -/
lemma Effect.filed (h : Effect s r.env r.ctx st c out st') (hfiled : st.Filed) : st'.Filed := by
  refine ⟨h.sound hfiled.sound,?_,h.numbered hfiled.numbered⟩
  cases hc : c.target with
  | some W =>
    obtain ⟨item,row,found,hitems,hsame⟩ := h.rewrites hc
    rw [hitems]
    refine forall_update hfiled.coded found hsame.id.symm fun hcoded n hid => ?_
    rw [← hsame.referenceCode]
    exact hcoded n (hsame.id.trans hid)
  | none =>
    cases h with
    | create =>
      intro k item hitem
      rw [MemoryStore.create_byID] at hitem
      split_ifs at hitem
      · cases hitem
        intro n hid
        have := workItemID_injective hid
        rw [← this]
      · exact hfiled.coded k item hitem
    | _ => cases hc

end Effect

section Runs
variable {s : Service} {st : State} (hnil : s.txRunner = none)
include hnil

lemma serve_isolated (hfiled : st.Filed) (r : Request) : Isolated st r.call (serve s r st) := by
  rcases serve_cases hnil hfiled.sound r with ⟨hsame,hidle⟩ | ⟨reply,hreply,heffect⟩
  · exact isolated_of_unchanged hsame hidle
  · rw [← hreply] at heffect
    exact heffect.isolated hfiled

lemma serve_filed (r : Request) (st : State) (hfiled : st.Filed) : (serve s r st).2.Filed := by
  rcases serve_cases hnil hfiled.sound r with ⟨hsame,_⟩ | ⟨reply,_,heffect⟩
  · rwa [hsame]
  · exact heffect.filed hfiled

end Runs

/-- After any run, a further call adds one item under a new number, or changes at most the records
of the item it is about, and not where that item comes from. -/
theorem operations_isolated (hasNotifier hasTeamAuthority : Bool) (rs : List Request)
    (r : Request) : Isolated (finalState hasNotifier hasTeamAuthority rs) r.call
      (serve (.inMemory hasNotifier hasTeamAuthority) r
        (finalState hasNotifier hasTeamAuthority rs)) := by
  have hfiled : (finalState hasNotifier hasTeamAuthority rs).Filed :=
    serveAll_inv _ (fun r st h => serve_filed rfl r st h) State.empty_filed rs
  exact serve_isolated rfl hfiled r

/-- The first of two items is assigned, and the second keeps its records. -/
theorem operations_isolated_assign :
    let request (call : Call) : Request := ⟨background,7,7,fun _ _ => .ok false,fun _ => .ok [],call⟩
    let created := request (.create "admin-1" ⟨"Repair pump","Pump 4 leaks",.high,none,none⟩)
    let assigned := request (.assignWorkItem "workitem-0001" "admin-1" true false ⟨"ada"⟩)
    let st := finalState true false [created,created]
    (serve (.inMemory true false) assigned st).1.toOption.isSome = true ∧
      (serve (.inMemory true false) assigned st).2.records "workitem-0002" =
        st.records "workitem-0002" := by
  intro request created assigned st
  refine ⟨by decide +kernel,?_⟩
  exact (operations_isolated true false [created,created] assigned).others "workitem-0002"
    (by decide)

end OpsPlatform.Workitems
