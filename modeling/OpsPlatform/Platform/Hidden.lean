import OpsPlatform.Platform.System

/-! A work item the caller may not see answers like one that does not exist. The checks before the
lookup do not depend on the store, and the first check after it is the caller's authority. -/
namespace OpsPlatform.Platform
open OpsPlatform.Go OpsPlatform.Workitems Interaction Program

/-- What anyone may ask about one work item, with the arguments beside its id and the caller. -/
inductive Probe
  | getByID
  | update (input : UpdateInput)
  | changeStatus (input : ChangeStatusInput)
  | assignWorkItem (input : AssignInput)
  | listStatusHistory
  | listAssignmentHistory
  | getAssignment

namespace Probe

/-- The call of a caller who is neither admin nor requester. -/
def call (id caller : String) (supervisor : Bool) : Probe → Workitems.Call
  | getByID => .getByID id caller false supervisor false
  | update input => .update id caller false supervisor input
  | changeStatus input => .changeStatus id caller false supervisor false input
  | assignWorkItem input => .assignWorkItem id caller false supervisor input
  | listStatusHistory => .listStatusHistory id caller false supervisor
  | listAssignmentHistory => .listAssignmentHistory id caller false supervisor
  | getAssignment => .getAssignment id caller false supervisor

/-- The error that gives nothing away: it depends on the arguments only. -/
def refusal (caller : String) : Probe → Error
  | changeStatus input =>
    if trimSpace caller = "" then errInvalidInput
    else if ¬ input.toStatus.isValid then errInvalidStatus
    else if input.toStatus = .flagged ∧ trimmedOrNil input.reason = none then errFeedbackRequired
    else errNotFound
  | assignWorkItem input =>
    if trimSpace caller = "" ∨ trimSpace input.assignedToUserID = "" then errInvalidInput
    else errNotFound
  | _ => errNotFound

end Probe

/-- The caller has no authority over the item, as each switch of the service asks for it. -/
def Hides (s : Service) (env : Env) (caller : String) (supervisor : Bool) (item : WorkItem) :
    Prop :=
  if supervisor then s.mayActOn env caller item = .ok false
  else item.assignedToUserID ≠ some caller

section
variable {s : Service} {env : Env} {st : Workitems.State} {caller : String} {supervisor : Bool}
  {item : WorkItem} (ctx : Context) (h : Hides s env caller supervisor item)
include h

lemma run_ask_hidden {α : Type} (hsupervisor : supervisor = true) (f : Bool → M α) :
    (s.supervisorMayActOn ctx caller item >>= f).run (exec env) st =
      (f false).run (exec env) st := by
  subst hsupervisor
  exact run_bind_ok _ (h ▸ s.run_supervisorMayActOn env st ctx caller item) f

lemma run_authorizeUpdate_hidden :
    (s.authorizeUpdate ctx caller false supervisor item).run (exec env) st =
      (.error errNotFound,st) := by
  unfold Service.authorizeUpdate
  cases supervisor with
  | true =>
    simp only [Bool.false_eq_true, if_false, if_true]
    rw [run_ask_hidden ctx h rfl, run_failIf_bind]
    rfl
  | false => exact run_fail _ _ _

lemma run_authorizeChangeStatus_hidden (toStatus : Status) :
    (s.authorizeChangeStatus ctx caller false supervisor false item toStatus).run (exec env) st =
      (.error errNotFound,st) := by
  unfold Service.authorizeChangeStatus
  cases supervisor with
  | true =>
    simp only [Bool.false_eq_true, if_false, if_true]
    rw [run_ask_hidden ctx h rfl, run_failIf_bind]
    rfl
  | false =>
    have howner : item.assignedToUserID ≠ some caller := h
    simp only [Bool.false_eq_true, if_false, run_failIf_bind, if_pos howner]

lemma run_authorizeAssign_hidden (assignedToUserID : String) :
    (s.authorizeAssign ctx caller assignedToUserID false supervisor item).run (exec env) st =
      (.error errNotFound,st) := by
  unfold Service.authorizeAssign
  cases supervisor with
  | true =>
    simp only [Bool.false_eq_true, if_false, if_true]
    rw [run_ask_hidden ctx h rfl, run_failIf_bind]
    rfl
  | false => exact run_fail _ _ _

lemma run_mayView_hidden :
    (s.mayView ctx item caller false supervisor).run (exec env) st = (.ok false,st) := by
  unfold Service.mayView
  cases supervisor with
  | true =>
    have hask : s.mayActOn env caller item = .ok false := h
    simp only [Bool.false_eq_true, if_false, if_true, Service.run_supervisorMayActOn, hask]
  | false =>
    have howner : item.assignedToUserID ≠ some caller := h
    simp [howner]

end
section
variable {s : Service} {env : Env} {st : Workitems.State} {id caller : String} {supervisor : Bool}
  (ctx : Context)

/-- A lookup that goes on to a refusal reports the same as one that finds nothing. -/
lemma run_lookup_hidden {α : Type} {f : WorkItem → M α}
    (hf : ∀ item, st.items.byID id = some item →
      (f item).run (exec env) st = (.error errNotFound,st)) :
    (call (.storeGetByID ctx id) fromResult >>= f).run (exec env) st =
      (.error errNotFound,st) := by
  rw [run_storeGetByID]
  cases hfound : st.items.byID id with
  | none => rfl
  | some item => exact hf item hfound

variable (hid : ¬ Blank id)
  (h : ∀ item, st.items.byID id = some item → Hides s env caller supervisor item)
include hid h

lemma run_requireView_hidden :
    (s.requireView ctx id caller false supervisor).run (exec env) st =
      (.error errNotFound,st) := by
  have hguard : ¬ trimSpace id = "" := hid
  unfold Service.requireView
  rw [run_failIf_bind, if_neg hguard]
  apply run_lookup_hidden
  intro item found
  rw [run_bind_ok _ (run_mayView_hidden ctx (h item found)), ← bind_ret (failIf _ _),
    run_failIf_bind]
  rfl

/-- A probe about an item that is absent or hidden gets the refusal, and leaves the stores. -/
theorem run_probe_hidden (hnil : s.txRunner = none) (p : Probe) :
    ((p.call id caller supervisor).program s ctx).run (exec env) st =
      (.error (p.refusal caller),st) := by
  have hguard : ¬ trimSpace id = "" := hid
  cases p with
  | getByID =>
    have hrun : (s.getByID ctx id caller false supervisor false).run (exec env) st =
        (.error errNotFound,st) := by
      unfold Service.getByID
      rw [run_failIf_bind, if_neg hguard]
      apply run_lookup_hidden
      intro item found
      simp only [Bool.false_eq_true, if_false]
      have hitem := h item found
      cases supervisor with
      | true =>
        simp only [if_true]
        rw [run_ask_hidden ctx hitem rfl, run_failIf_bind]
        rfl
      | false =>
        have howner : item.assignedToUserID ≠ some caller := hitem
        simp only [Bool.false_eq_true, if_false, run_failIf_bind, if_pos howner]
    simp only [Probe.call, Call.program, run_map, hrun]
    rfl
  | update input =>
    have hrun : (s.update ctx id caller false supervisor input).run (exec env) st =
        (.error errNotFound,st) := by
      unfold Service.update
      rw [run_failIf_bind, if_neg hguard]
      apply run_lookup_hidden
      intro item found
      exact run_bind_error _ (run_authorizeUpdate_hidden ctx (h item found)) _
    simp only [Probe.call, Call.program, run_map, hrun]
    rfl
  | changeStatus input =>
    have hrun : (s.changeStatus ctx id caller false supervisor false input).run (exec env) st =
        (.error ((Probe.changeStatus input).refusal caller),st) := by
      unfold Service.changeStatus Probe.refusal
      simp only [run_failIf_bind, hguard, false_or]
      split_ifs
      · rfl
      · rfl
      · rw [runAtomic_of_nil ctx hnil]
        apply run_lookup_hidden
        intro item found
        exact run_bind_error _ (run_authorizeChangeStatus_hidden ctx (h item found) _) _
      · rfl
    simp only [Probe.call, Call.program, run_map, hrun]
    rfl
  | assignWorkItem input =>
    have hrun : (s.assignWorkItem ctx id caller false supervisor input).run (exec env) st =
        (.error ((Probe.assignWorkItem input).refusal caller),st) := by
      unfold Service.assignWorkItem Probe.refusal
      simp only [run_failIf_bind, hguard, false_or]
      split_ifs
      · rfl
      · rw [runAtomic_of_nil ctx hnil]
        apply run_lookup_hidden
        intro item found
        exact run_bind_error _ (run_authorizeAssign_hidden ctx (h item found) _) _
    simp only [Probe.call, Call.program, run_map, hrun]
    rfl
  | listStatusHistory =>
    simp only [Probe.call, Call.program, run_map, Service.listStatusHistory,
      run_bind_error _ (run_requireView_hidden ctx hid h)]
    rfl
  | listAssignmentHistory =>
    simp only [Probe.call, Call.program, run_map, Service.listAssignmentHistory,
      run_bind_error _ (run_requireView_hidden ctx hid h)]
    rfl
  | getAssignment =>
    simp only [Probe.call, Call.program, run_map, Service.getAssignment,
      run_bind_error _ (run_requireView_hidden ctx hid h)]
    rfl

end

namespace System
variable {sys : System} {s : Service} {ctx ctx' : Context} {now now' notifiedAt notifiedAt' : Time}

/-- The team service answers from its rows, whenever it is asked. -/
lemma mayActOn_moment (h : sys.Proper) (c c' : Workitems.Call) (caller : String)
    (item : WorkItem) :
    s.mayActOn (sys.ask ctx now notifiedAt c).env caller item =
      s.mayActOn (sys.ask ctx' now' notifiedAt' c').env caller item := by
  unfold Service.mayActOn
  cases item.assignedToUserID with
  | none => rfl
  | some assignee =>
    obtain ⟨answer,hrun,hanswer⟩ := Teams.run_isActiveSupervisorOf sys.teams now ctx h.single
      caller assignee
    obtain ⟨answer',hrun',hanswer'⟩ := Teams.run_isActiveSupervisorOf sys.teams now' ctx' h.single
      caller assignee
    have hsame : answer = answer' := by rw [Bool.eq_iff_iff, hanswer, hanswer']
    subst hsame
    have hask : (sys.ask ctx now notifiedAt c).env.isActiveSupervisorOf caller assignee =
        (sys.ask ctx' now' notifiedAt' c').env.isActiveSupervisorOf caller assignee :=
      (congrArg Prod.fst hrun).trans (congrArg Prod.fst hrun').symm
    simp only [hask]

/-- A caller from whom `GetByID` hides the item has no authority over it, then or later. -/
lemma hides_of_getByID (h : sys.Proper) {c' : Workitems.Call} {id caller : String}
    {supervisor : Bool} {item : WorkItem} (found : sys.work.items.byID id = some item)
    (hhidden : (sys.call s ctx now notifiedAt (.getByID id caller false supervisor false)).1 =
      .error errNotFound) :
    Hides s (sys.ask ctx' now' notifiedAt' c').env caller supervisor item := by
  have hnamed := h.sound.items _ _ found
  obtain ⟨ids,hconsistent⟩ := consistent h ctx now notifiedAt (.list caller false supervisor false)
    caller
  have hsees : s.sees ids caller false supervisor false item = false := by
    rw [call_getByID, run_getByID_of_consistent hconsistent false supervisor false ctx hnamed found]
      at hhidden
    split_ifs at hhidden with hsees
    · cases hhidden
    · exact Bool.eq_false_iff.mpr hsees
  unfold Hides
  cases supervisor with
  | true =>
    rw [if_pos rfl, mayActOn_moment h _ _, mayActOn_of_consistent hconsistent false hnamed, hsees]
  | false => simpa [Service.sees] using hsees

theorem hidden_as_missing (hasNotifier hasTeamAuthority : Bool) (rs : List Request)
    (ctx ctx' ctx'' : Context) (now now' now'' notifiedAt notifiedAt' notifiedAt'' : Time)
    (W M caller : String) (supervisor : Bool) (p : Probe) (item : WorkItem)
    (found : (after hasNotifier hasTeamAuthority rs).work.items.byID W = some item)
    (hhidden : ((after hasNotifier hasTeamAuthority rs).call
      (.inMemory hasNotifier hasTeamAuthority) ctx now notifiedAt
      (.getByID W caller false supervisor false)).1 = .error errNotFound)
    (hM : ¬ Blank M) (missing : (after hasNotifier hasTeamAuthority rs).work.items.byID M = none) :
    ∃ e, (after hasNotifier hasTeamAuthority rs).call (.inMemory hasNotifier hasTeamAuthority)
        ctx' now' notifiedAt' (p.call W caller supervisor) =
        (.error e,(after hasNotifier hasTeamAuthority rs).work) ∧
      (after hasNotifier hasTeamAuthority rs).call (.inMemory hasNotifier hasTeamAuthority)
        ctx'' now'' notifiedAt'' (p.call M caller supervisor) =
        (.error e,(after hasNotifier hasTeamAuthority rs).work) := by
  have h := after_proper hasNotifier hasTeamAuthority rs
  refine ⟨p.refusal caller,?_,?_⟩
  · obtain ⟨n,-,-,hW⟩ := (after hasNotifier hasTeamAuthority rs).work.items.exists_number found
    have hid : ¬ Blank W := hW ▸ not_blank_workItemID n
    apply run_probe_hidden ctx' hid _ rfl p
    intro item' found'
    obtain rfl : item = item' := Option.some.inj (found.symm.trans found')
    exact hides_of_getByID h found hhidden
  · apply run_probe_hidden ctx'' hM _ rfl p
    intro item' found'
    rw [missing] at found'
    cases found'

/-- A supervisor without a team asks to reassign a held item, and one that does not exist. -/
theorem hidden_as_missing_supervisor :
    let rs := [Request.work background 1 1 (.create "admin-1" ⟨"Repair pump","Pump 4 leaks",.high,
        none,none⟩),
      .work background 2 2 (.assignWorkItem "workitem-0001" "admin-1" true false ⟨"user-2"⟩)]
    ∃ e, (after true true rs).call (.inMemory true true) background 4 4
        (.assignWorkItem "workitem-0001" "user-1" false true ⟨"user-1"⟩) =
        (.error e,(after true true rs).work) ∧
      (after true true rs).call (.inMemory true true) background 5 5
        (.assignWorkItem "no such item" "user-1" false true ⟨"user-1"⟩) =
        (.error e,(after true true rs).work) := by
  intro rs
  have hstored : ((after true true rs).work.items.byID "workitem-0001").isSome = true := by
    decide +kernel
  obtain ⟨item,found⟩ := Option.isSome_iff_exists.mp hstored
  exact hidden_as_missing true true rs background background background 3 4 5 3 4 5
    "workitem-0001" "no such item" "user-1" true (.assignWorkItem ⟨"user-1"⟩) item found
    (by decide +kernel) (by decide +kernel) (by decide +kernel)

end System
end OpsPlatform.Platform
