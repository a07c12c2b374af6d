import OpsPlatform.Workitems.Sequential

/-! Which work items a caller sees. `List` filters the store by a set of assignees it asked for
once; `GetByID` asks about one assignee. They agree under any team authority whose two questions
agree. -/
namespace OpsPlatform.Workitems
open OpsPlatform.Go Interaction Program

/-- The two questions of the team authority agree on trimmed user ids. -/
def Env.Consistent (env : Env) (callerUserID : String) (ids : List String) : Prop :=
  env.supervisedAssigneeUserIDs callerUserID = .ok ids ∧
  ∀ user, ¬ Blank user → trimSpace user = user →
    env.isActiveSupervisorOf callerUserID user = .ok (ids.contains user)

/-- What the caller sees, by the first role that applies. -/
def Service.sees (s : Service) (ids : List String) (callerUserID : String)
    (admin supervisor requester : Bool) (item : WorkItem) : Bool :=
  if admin then true
  else if supervisor then
    match item.assignedToUserID with
    | some assignee => s.hasTeamAuthority && ids.contains assignee
    | none => item.createdByUserID = callerUserID
  else if requester then item.createdByUserID = callerUserID
  else item.assignedToUserID = some callerUserID

section
variable {s : Service} {st : State} {ids : List String} {callerUserID : String}

lemma MemoryStore.nodup_rows (store : MemoryStore) : (store.rows.map (·.id)).Nodup := by
  rw [store.map_id_rows]
  exact store.ordered_nodup

/-- The rows with the id of a stored item are that item, once. -/
lemma MemoryStore.rows_filter_id (store : MemoryStore) {id : String} {item : WorkItem}
    (found : store.byID id = some item) :
    store.rows.filter (fun row => decide (row.id = id)) = [item] := by
  have hid := store.keyed found
  have hmem : item ∈ store.rows := (store.mem_rows item).mpr (hid.symm ▸ found)
  have hnodup : (store.rows.filter fun row => decide (row.id = id)).Nodup :=
    (store.nodup_rows.of_map).filter _
  have hall : ∀ row ∈ store.rows.filter (fun row => decide (row.id = id)), row = item := by
    intro row hrow
    obtain ⟨hrow,hrowID⟩ := List.mem_filter.mp hrow
    have hstored := (store.mem_rows row).mp hrow
    rw [of_decide_eq_true hrowID, found] at hstored
    exact (Option.some.inj hstored).symm
  have hin : item ∈ store.rows.filter (fun row => decide (row.id = id)) :=
    List.mem_filter.mpr ⟨hmem,by simp [hid]⟩
  generalize store.rows.filter (fun row => decide (row.id = id)) = l at hnodup hall hin
  match l with
  | [] => cases hin
  | [row] => rw [hall row List.mem_cons_self]
  | row :: row' :: l =>
    rw [hall row (by simp), hall row' (by simp)] at hnodup
    simp at hnodup

lemma MemoryStore.newestFirst_perm (items : List WorkItem) : (newestFirst items).Perm items :=
  sliceStable_perm _ _

variable {env : Env} (hconsistent : env.Consistent callerUserID ids)
  (admin supervisor requester : Bool) (ctx : Context)
include hconsistent

/-- The authority of a supervisor is what a supervisor sees. -/
lemma mayActOn_of_consistent {item : WorkItem} (hnamed : item.Named) :
    s.mayActOn env callerUserID item = .ok (s.sees ids callerUserID false true requester item) := by
  unfold Service.mayActOn Service.sees
  cases hassignee : item.assignedToUserID with
  | none => rfl
  | some assignee =>
    obtain ⟨hblank,htrim⟩ := hnamed.assignee assignee hassignee
    cases s.hasTeamAuthority
    · rfl
    · simp [hconsistent.2 assignee hblank htrim]

theorem run_getByID_of_consistent {id : String} {item : WorkItem} (hnamed : item.Named)
    (found : st.items.byID id = some item) :
    ((s.getByID ctx id callerUserID admin supervisor requester).run (exec env) st).1 =
      if s.sees ids callerUserID admin supervisor requester item then .ok item
      else .error errNotFound := by
  obtain ⟨n,_,_,rfl⟩ := st.items.exists_number found
  have hid : ¬ trimSpace (workItemID n) = "" := not_blank_workItemID n
  have hallowed := mayActOn_of_consistent (s := s) hconsistent requester hnamed
  simp only [Service.getByID, run_failIf_bind, if_neg hid, run_storeGetByID, found]
  cases admin with
  | true => simp only [if_true, pure_eq, run_ret, Service.sees]
  | false =>
    cases supervisor with
    | true =>
      simp only [Bool.false_eq_true, if_false, if_true]
      have hask := s.run_supervisorMayActOn env st ctx callerUserID item
      rw [hallowed] at hask
      rw [run_bind_ok _ hask, run_failIf_bind]
      cases hsees : s.sees ids callerUserID false true requester item <;> simp
    | false =>
      cases requester with
      | true =>
        simp only [Bool.false_eq_true, if_false, if_true, run_failIf_bind]
        by_cases h : item.createdByUserID = callerUserID <;> simp [Service.sees, h]
      | false =>
        simp only [Bool.false_eq_true, if_false, run_failIf_bind]
        by_cases h : item.assignedToUserID = some callerUserID <;> simp [Service.sees, h]

/-- The common front of the listings lets through who sees the item without the requester flag. -/
theorem run_requireView_of_consistent {id : String} {item : WorkItem} (hnamed : item.Named)
    (found : st.items.byID id = some item) :
    (s.requireView ctx id callerUserID admin supervisor).run (exec env) st =
      (if s.sees ids callerUserID admin supervisor false item then .ok ()
        else .error errNotFound,st) := by
  obtain ⟨n,_,_,rfl⟩ := st.items.exists_number found
  have hid : ¬ trimSpace (workItemID n) = "" := not_blank_workItemID n
  have hview : (s.mayView ctx item callerUserID admin supervisor).run (exec env) st =
      (.ok (s.sees ids callerUserID admin supervisor false item),st) := by
    unfold Service.mayView
    cases admin with
    | true => simp [Service.sees]
    | false =>
      cases supervisor with
      | true =>
        simp only [Bool.false_eq_true, if_false, if_true, Service.run_supervisorMayActOn]
        rw [mayActOn_of_consistent hconsistent false hnamed]
      | false => simp [Service.sees]
  simp only [Service.requireView, run_failIf_bind, if_neg hid, run_storeGetByID, found]
  rw [run_bind_ok _ hview, ← bind_ret (failIf _ _), run_failIf_bind]
  cases s.sees ids callerUserID admin supervisor false item <;> simp

variable (s st) in
theorem run_list_of_consistent (hcaller : ¬ Blank callerUserID) :
    ∃ items, ((s.list ctx callerUserID admin supervisor requester).run (exec env) st).1 =
        .ok items ∧
      items.Perm (st.items.rows.filter
        (s.sees ids callerUserID admin supervisor requester)) := by
  unfold Service.list
  cases admin with
  | true =>
    simp only [if_true, run_call, exec, run_fromResult]
    refine ⟨MemoryStore.newestFirst st.items.rows,rfl,?_⟩
    have hall : st.items.rows.filter (s.sees ids callerUserID true supervisor requester) =
        st.items.rows := List.filter_eq_self.mpr fun _ _ => rfl
    rw [hall]
    exact MemoryStore.newestFirst_perm _
  | false =>
    have hguard : ¬ trimSpace callerUserID = "" := hcaller
    simp only [Bool.false_eq_true, if_false, run_failIf_bind, if_neg hguard]
    cases supervisor with
    | true =>
      have hask : (s.supervisedIDs ctx callerUserID).run (exec env) st =
          (.ok (if s.hasTeamAuthority then ids else []),st) := by
        unfold Service.supervisedIDs
        cases s.hasTeamAuthority <;> simp [exec, hconsistent.1]
      simp only [if_true, Service.listForSupervisor, call_bind, run_call, exec,
        MemoryStore.list, fromResult_ok, ret_bind, run_bind_ok _ hask, pure_eq, run_ret]
      refine ⟨_,rfl,?_⟩
      have hperm := (MemoryStore.newestFirst_perm st.items.rows).filter
        (s.sees ids callerUserID false true requester)
      refine (List.Perm.of_eq (List.filter_congr fun item _ => ?_)).trans hperm
      unfold Service.sees
      cases item.assignedToUserID
      · rfl
      · cases s.hasTeamAuthority <;> simp
    | false =>
      cases requester with
      | true =>
        simp only [Bool.false_eq_true, if_false, if_true, run_call, exec, run_fromResult]
        exact ⟨_,rfl,MemoryStore.newestFirst_perm _⟩
      | false =>
        simp only [Bool.false_eq_true, if_false, run_call, exec, run_fromResult]
        exact ⟨_,rfl,MemoryStore.newestFirst_perm _⟩

/-- A stored item is listed exactly once if it is seen, and not at all if it is not. -/
theorem list_agrees_getByID (hcaller : ¬ Blank callerUserID) {id : String} {item : WorkItem}
    (hnamed : item.Named) (found : st.items.byID id = some item) :
    ∃ items, ((s.list ctx callerUserID admin supervisor requester).run (exec env) st).1 =
        .ok items ∧
      items.filter (fun row => decide (row.id = id)) =
        match ((s.getByID ctx id callerUserID admin supervisor requester).run (exec env) st).1 with
        | .ok row => [row]
        | .error _ => [] := by
  obtain ⟨items,hlist,hperm⟩ := run_list_of_consistent s st hconsistent admin supervisor requester ctx
    hcaller
  refine ⟨items,hlist,?_⟩
  rw [run_getByID_of_consistent hconsistent admin supervisor requester ctx hnamed found]
  have hrows := hperm.filter fun row => decide (row.id = id)
  rw [List.filter_comm, st.items.rows_filter_id found, List.filter_singleton] at hrows
  split_ifs with hsees
  · rw [hsees] at hrows
    exact List.perm_singleton.mp hrows
  · rw [Bool.not_eq_true] at hsees
    rw [hsees] at hrows
    exact List.perm_nil.mp hrows

end
end OpsPlatform.Workitems
