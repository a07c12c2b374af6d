import OpsPlatform.Platform.System

/-! What a supervisor may still edit. The switch of `Update` asks who holds the item, not how far it
has come; the two go together as long as the status door does not assign an item to nobody. -/
namespace OpsPlatform.Platform
open OpsPlatform.Go OpsPlatform.Workitems Interaction Program

/-- An item that nobody should hold is at the beginning of its life or at its early end. -/
lemma created_or_cancelled {acts : List Act} {o : Order} (h : Trace Order.Step .initial acts o)
    (hfree : ¬ o.status.Held) : o.status = .created ∨ o.status = .cancelled := by
  cases h with
  | nil => exact .inl rfl
  | @snoc o' _ _ _ _ hstep =>
    cases hstep with
    | @moved dst entry link =>
      have hreached := (isValidTransition_iff _ _).mp link.admissible
      cases dst with
      | created => exact .inl rfl
      | cancelled => exact .inr rfl
      | other text => cases hsrc : o'.status <;> simp [hsrc, validStatusTransitions] at hreached
      | _ => exact (hfree (by simp [Status.Held, Status.Taken])).elim
    | assigned => exact (hfree (by simp [Status.Held])).elim
    | @responded accept =>
      cases accept
      · exact .inl rfl
      · exact (hfree (by simp [Status.Held, Status.Taken, respondedStatus])).elim

namespace System

/-- The move of the work item `id` that a request makes, if it succeeds. -/
def actsOn (s : Service) (id : String) (sys : System) : Request → List Act
  | .work ctx now notifiedAt c =>
    match (sys.call s ctx now notifiedAt c).1 with
    | .ok _ => c.acts id
    | .error _ => []
  | .teams _ _ => []

/-- The moves of the work item `id` among these requests, in order. -/
def movesFrom (s : Service) (id : String) (sys : System) : List Request → List Act
  | [] => []
  | r :: rs => sys.actsOn s id r ++ movesFrom s id (sys.step s r) rs

def moves (hasNotifier hasTeamAuthority : Bool) (rs : List Request) (id : String) : List Act :=
  movesFrom (.inMemory hasNotifier hasTeamAuthority) id .empty rs

section
variable {s : Service} (hnil : s.txRunner = none) (id : String)
include hnil

/-- The step lemma: a request is a step in the life of each item, or none. -/
lemma order_step (sys : System) (h : sys.Proper) (r : Request) :
    Trace Order.Step (sys.work.order id) (sys.actsOn s id r) ((sys.step s r).work.order id) := by
  cases r with
  | teams now c => exact .nil
  | work ctx now notifiedAt c =>
    exact (serves_order hnil id (sys.ask ctx now notifiedAt c,(sys.call s ctx now notifiedAt c).1)
      h.sound rfl).2

/-- The run lemma. -/
lemma order_after (sys : System) (h : sys.Proper) (rs : List Request) :
    Trace Order.Step (sys.work.order id) (movesFrom s id sys rs)
      ((rs.foldl (step s) sys).work.order id) := by
  induction rs generalizing sys with
  | nil => exact .nil
  | cons r rs ih =>
    exact (order_step hnil id sys h r).append (ih _ (step_proper hnil sys r h))

end

/-- A supervisor edits only items that nobody holds; of those, only new and cancelled ones, unless
the status door was the last to make the item an assigned one. -/
theorem supervisor_edits_unassigned (hasNotifier hasTeamAuthority : Bool) (rs : List Request)
    (ctx : Context) (now notifiedAt : Time) (id caller : String) (input : UpdateInput) (reply : Reply)
    (hok : ((after hasNotifier hasTeamAuthority rs).call (.inMemory hasNotifier hasTeamAuthority) ctx
      now notifiedAt (.update id caller false true input)).1 = .ok reply) :
    ∃ item, (after hasNotifier hasTeamAuthority rs).work.items.byID id = some item ∧
      item.assignedToUserID = none ∧
      (lastAssigning (moves hasNotifier hasTeamAuthority rs id) ≠ some (.moved .assigned) →
        item.status = .created ∨ item.status = .cancelled) := by
  have h := after_proper hasNotifier hasTeamAuthority rs
  have hlife := order_after (s := .inMemory hasNotifier hasTeamAuthority) rfl id .empty empty_proper rs
  rcases serve_cases (s := .inMemory hasNotifier hasTeamAuthority) rfl h.sound
    ((after hasNotifier hasTeamAuthority rs).ask ctx now notifiedAt
      (.update id caller false true input)) with ⟨_,hreads | ⟨e,herror⟩⟩ | ⟨_,_,heffect⟩
  · exact hreads.elim
  · cases hok.symm.trans herror
  · obtain ⟨item,found,hallowed⟩ := permitted_of_effect h rfl heffect
    obtain ⟨_,_,hfree⟩ := hallowed.resolve_left (by simp)
    refine ⟨item,found,hfree,fun hdoor => ?_⟩
    rw [← order_status found]
    refine created_or_cancelled hlife fun hheld => ?_
    exact Order.holder_of_held hlife hdoor hheld ((order_holder found).trans hfree)

/-- A supervisor edits an item of their own, which was declined. -/
theorem supervisor_edits_unassigned_declined :
    let rs := [Request.work background 1 1 (.create "user-1" ⟨"Repair pump","Pump 4 leaks",.high,
        none,none⟩),
      .work background 2 2 (.assignWorkItem "workitem-0001" "admin-1" true false ⟨"user-2"⟩),
      .work background 3 3 (.respondToAssignment "workitem-0001" "user-2" false false ⟨none⟩)]
    ∃ item, (after true true rs).work.items.byID "workitem-0001" = some item ∧
      (item.status = .created ∨ item.status = .cancelled) := by
  intro rs
  have hedit : (((after true true rs).call (.inMemory true true) background 4 4
      (.update "workitem-0001" "user-1" false true ⟨some "Pump",none,none,none,none⟩)).1.isOk) =
      true := by decide +kernel
  cases hcall : ((after true true rs).call (.inMemory true true) background 4 4
      (.update "workitem-0001" "user-1" false true ⟨some "Pump",none,none,none,none⟩)).1 with
  | error e =>
    rw [hcall] at hedit
    cases hedit
  | ok reply =>
    obtain ⟨item,found,_,hstatus⟩ := supervisor_edits_unassigned true true rs background 4 4
      "workitem-0001" "user-1" _ reply hcall
    exact ⟨item,found,hstatus (by decide +kernel)⟩

/-- Supervisors cancel an item of their own, and edit it; or they take it through the status door
without giving it to anyone, and edit it when it is completed. -/
theorem supervisor_edits_later :
    ¬ (∀ (hasNotifier hasTeamAuthority : Bool) (rs : List Request) (ctx : Context)
      (now notifiedAt : Time) (id caller : String) (input : UpdateInput) (item : WorkItem),
      ((after hasNotifier hasTeamAuthority rs).call (.inMemory hasNotifier hasTeamAuthority) ctx
        now notifiedAt (.update id caller false true input)).1.isOk = true →
      (after hasNotifier hasTeamAuthority rs).work.items.byID id = some item →
      item.status = .created) ∧
    ¬ (∀ (hasNotifier hasTeamAuthority : Bool) (rs : List Request) (ctx : Context)
      (now notifiedAt : Time) (id caller : String) (input : UpdateInput) (item : WorkItem),
      ((after hasNotifier hasTeamAuthority rs).call (.inMemory hasNotifier hasTeamAuthority) ctx
        now notifiedAt (.update id caller false true input)).1.isOk = true →
      (after hasNotifier hasTeamAuthority rs).work.items.byID id = some item →
      item.status = .created ∨ item.status = .cancelled) := by
  let created : Request := .work background 1 1 (.create "user-1" ⟨"Repair pump","Pump 4 leaks",.high,
    none,none⟩)
  let moved (dst : Status) : Request := .work background 2 2
    (.changeStatus "workitem-0001" "user-1" false true false ⟨dst,none⟩)
  let input : UpdateInput := ⟨some "Pump",none,none,none,none⟩
  have hat (rs : List Request) (status : Status)
      (hstored : ((after true true rs).work.items.byID "workitem-0001").map (·.status) = some status) :
      ∃ item, (after true true rs).work.items.byID "workitem-0001" = some item ∧ item.status = status :=
    Option.map_eq_some_iff.mp hstored
  constructor
  · intro h
    obtain ⟨item,found,hstatus⟩ := hat [created,moved .cancelled] .cancelled (by decide +kernel)
    have := h true true [created,moved .cancelled] background 3 3 "workitem-0001" "user-1" input item
      (by decide +kernel) found
    rw [hstatus] at this
    cases this
  · intro h
    obtain ⟨item,found,hstatus⟩ := hat [created,moved .assigned,moved .accepted,moved .inProgress,
      moved .submittedForReview,moved .verified,moved .completed] .completed (by decide +kernel)
    have := h true true [created,moved .assigned,moved .accepted,moved .inProgress,
      moved .submittedForReview,moved .verified,moved .completed] background 3 3 "workitem-0001" "user-1" input
      item (by decide +kernel) found
    rw [hstatus] at this
    simp at this

end System
end OpsPlatform.Platform
