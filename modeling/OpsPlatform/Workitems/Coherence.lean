import OpsPlatform.Workitems.Records

/-! The invariants of the stored workflow data over every sequential run: the status of a work item
against its assignee, its assignment row and its two histories. -/
namespace OpsPlatform.Workitems
open OpsPlatform.Go Interaction Program

section
variable (hasNotifier hasTeamAuthority : Bool) (rs : List Request)

lemma order_finalState (id : String) :
    Trace Order.Step .initial (movesOf hasNotifier hasTeamAuthority rs id)
      ((finalState hasNotifier hasTeamAuthority rs).order id) :=
  order_serveAll (s := .inMemory hasNotifier hasTeamAuthority) rfl id State.empty_sound rs

lemma timed_finalState (hclock : rs.Pairwise fun a b => a.now ≤ b.now) :
    (finalState hasNotifier hasTeamAuthority rs).Timed [] := by
  apply State.Timed.serveAll (s := .inMemory hasNotifier hasTeamAuthority) rfl hclock
  constructor <;> simp [State.empty, MemoryStatusHistoryStore.new, MemoryAssignmentHistoryStore.new]

variable {id : String} {item : WorkItem}

theorem assignee_coherent
    (found : (finalState hasNotifier hasTeamAuthority rs).items.byID id = some item) :
    (item.status = .created →
      (movesOf hasNotifier hasTeamAuthority rs id).getLast? ≠ some (.moved .created) →
      item.assignedToUserID = none) ∧
    (item.status.Held →
      lastAssigning (movesOf hasNotifier hasTeamAuthority rs id) ≠ some (.moved .assigned) →
      item.assignedToUserID ≠ none) := by
  have htrace := order_finalState hasNotifier hasTeamAuthority rs id
  rw [← order_status found, ← order_holder found]
  exact ⟨fun hstatus hdoor => Order.holder_of_created htrace hdoor hstatus,
    fun hstatus hdoor => Order.holder_of_held htrace hdoor hstatus⟩

/-- After assigning and declining, the item is back to unassigned. -/
theorem assignee_coherent_declined :
    let request (call : Call) : Request := ⟨background,7,7,fun _ _ => .ok false,fun _ => .ok [],call⟩
    let rs := [request (.create "admin-1" ⟨"Repair pump","Pump 4 leaks",.high,none,none⟩),
      request (.assignWorkItem "workitem-0001" "admin-1" true false ⟨"user-2"⟩),
      request (.respondToAssignment "workitem-0001" "user-2" false false ⟨none⟩)]
    ∃ item, (finalState true false rs).items.byID "workitem-0001" = some item ∧
      item.assignedToUserID = none := by
  intro request rs
  have hstored : ((finalState true false rs).items.byID "workitem-0001").map (·.status) =
      some .created := by decide +kernel
  obtain ⟨item,found,hstatus⟩ := Option.map_eq_some_iff.mp hstored
  exact ⟨item,found,(assignee_coherent true false rs found).1 hstatus (by decide +kernel)⟩

/-- The status door opens from created to assigned too, and gives the item to nobody; back to created
it takes it from nobody. -/
theorem assignee_not_coherent :
    ¬ (∀ (hasNotifier hasTeamAuthority : Bool) (rs : List Request) (id : String) (item : WorkItem),
      (finalState hasNotifier hasTeamAuthority rs).items.byID id = some item →
      (item.status = .created → item.assignedToUserID = none) ∧
      (item.status.Held → item.assignedToUserID ≠ none)) ∧
    ¬ (∀ (hasNotifier hasTeamAuthority : Bool) (rs : List Request) (id : String) (item : WorkItem),
      (finalState hasNotifier hasTeamAuthority rs).items.byID id = some item →
      item.status = .created → item.assignedToUserID = none) := by
  let request (call : Call) : Request := ⟨background,7,7,fun _ _ => .ok false,fun _ => .ok [],call⟩
  let created := request (.create "admin-1" ⟨"Repair pump","Pump 4 leaks",.high,none,none⟩)
  let moved (dst : Status) := request (.changeStatus "workitem-0001" "admin-1" true false false
    ⟨dst,none⟩)
  constructor
  · intro h
    have hstored : ((finalState true false [created,moved .assigned]).items.byID
        "workitem-0001").map (fun item => (item.status,item.assignedToUserID)) =
        some (.assigned,none) := by decide +kernel
    obtain ⟨item,found,heq⟩ := Option.map_eq_some_iff.mp hstored
    obtain ⟨hstatus,hassignee⟩ := Prod.mk.inj heq
    exact (h true false _ "workitem-0001" item found).2 (.inl hstatus) hassignee
  · intro h
    let assigned := request (.assignWorkItem "workitem-0001" "admin-1" true false ⟨"user-2"⟩)
    have hstored : ((finalState true false [created,assigned,moved .created]).items.byID
        "workitem-0001").map (fun item => (item.status,item.assignedToUserID)) =
        some (.created,some "user-2") := by decide +kernel
    obtain ⟨item,found,heq⟩ := Option.map_eq_some_iff.mp hstored
    obtain ⟨hstatus,hassignee⟩ := Prod.mk.inj heq
    rw [h true false _ "workitem-0001" item found hstatus] at hassignee
    cases hassignee

theorem assignment_tracks_item
    (found : (finalState hasNotifier hasTeamAuthority rs).items.byID id = some item) :
    (∀ row, (finalState hasNotifier hasTeamAuthority rs).assignments.byWorkItem id = some row →
      row.status = .assigned →
      Act.moved .created ∉ sinceAssigned (movesOf hasNotifier hasTeamAuthority rs id) →
      Act.moved .accepted ∉ sinceAssigned (movesOf hasNotifier hasTeamAuthority rs id) →
      item.status = .assigned ∨ item.status = .cancelled) ∧
    (item.status.Taken → Act.moved .accepted ∉ movesOf hasNotifier hasTeamAuthority rs id →
      ∃ row, (finalState hasNotifier hasTeamAuthority rs).assignments.byWorkItem id = some row ∧
        row.status = .accepted) := by
  have htrace := order_finalState hasNotifier hasTeamAuthority rs id
  rw [← order_status found]
  exact ⟨fun row hrow hpending hcreated haccepted =>
      Order.status_of_pending htrace hcreated haccepted hrow hpending,
    fun hstatus hdoor => Order.offer_of_taken htrace hdoor hstatus⟩

/-- An accepted assignment stands behind an item that is in progress. -/
theorem assignment_tracks_item_inProgress :
    let request (call : Call) : Request := ⟨background,7,7,fun _ _ => .ok false,fun _ => .ok [],call⟩
    let rs := [request (.create "admin-1" ⟨"Repair pump","Pump 4 leaks",.high,none,none⟩),
      request (.assignWorkItem "workitem-0001" "admin-1" true false ⟨"user-2"⟩),
      request (.respondToAssignment "workitem-0001" "user-2" false true ⟨none⟩),
      request (.changeStatus "workitem-0001" "user-2" false false false ⟨.inProgress,none⟩)]
    ∃ row, (finalState true false rs).assignments.byWorkItem "workitem-0001" = some row ∧
      row.status = .accepted := by
  intro request rs
  have hstored : ((finalState true false rs).items.byID "workitem-0001").map (·.status) =
      some .inProgress := by decide +kernel
  obtain ⟨item,found,hstatus⟩ := Option.map_eq_some_iff.mp hstored
  exact (assignment_tracks_item true false rs found).2 (.inr (.inl hstatus)) (by decide +kernel)

/-- The status door moves the item and leaves the offer pending. -/
theorem assignment_not_tracking :
    ¬ ∀ (hasNotifier hasTeamAuthority : Bool) (rs : List Request) (id : String) (item : WorkItem),
      (finalState hasNotifier hasTeamAuthority rs).items.byID id = some item →
      (∀ row, (finalState hasNotifier hasTeamAuthority rs).assignments.byWorkItem id = some row →
        row.status = .assigned → item.status = .assigned ∨ item.status = .cancelled) ∧
      (item.status.Taken → ∃ row,
        (finalState hasNotifier hasTeamAuthority rs).assignments.byWorkItem id = some row ∧
        row.status = .accepted) := by
  intro h
  let request (call : Call) : Request := ⟨background,7,7,fun _ _ => .ok false,fun _ => .ok [],call⟩
  let rs := [request (.create "admin-1" ⟨"Repair pump","Pump 4 leaks",.high,none,none⟩),
    request (.assignWorkItem "workitem-0001" "admin-1" true false ⟨"user-2"⟩),
    request (.changeStatus "workitem-0001" "admin-1" true false false ⟨.accepted,none⟩)]
  have hstored : ((finalState true false rs).items.byID "workitem-0001").map (·.status) =
      some .accepted := by decide +kernel
  have hoffer : ((finalState true false rs).assignments.byWorkItem "workitem-0001").map
      (·.status) = some .assigned := by decide +kernel
  obtain ⟨item,found,hstatus⟩ := Option.map_eq_some_iff.mp hstored
  obtain ⟨row,hrow,hpending⟩ := Option.map_eq_some_iff.mp hoffer
  have := (h true false rs "workitem-0001" item found).1 row hrow hpending
  rw [hstatus] at this
  rcases this with h | h <;> cases h

/-- What the lifecycle says of a trail, entry by entry. -/
lemma trail_entries {trail : List StatusHistory} {status : Status}
    (h : Trace Link .created trail status) :
    (∀ first ∈ trail.head?, first.fromStatus = some .created) ∧
    trail.IsChain (fun previous next => next.fromStatus = some previous.toStatus) ∧
    (∀ entry ∈ trail, ∃ src, entry.fromStatus = some src ∧
      isValidTransition src entry.toStatus = true) ∧
    (trail.getLast?.map (·.toStatus)).getD .created = status ∧
    (∀ entry ∈ trail, entry.toStatus = .flagged →
      ∃ reason, entry.reason = some reason ∧ ¬ Blank reason) := by
  obtain ⟨hfirst,hchain,hlast⟩ := h.ends some (·.fromStatus)
    (fun entry => some entry.toStatus) (fun _ _ _ link => link.fromStatus)
    (fun _ _ _ link => congrArg some link.toStatus)
  refine ⟨hfirst,hchain,?_,?_,?_⟩
  · refine h.forall_label (P := fun entry => ∃ src, entry.fromStatus = some src ∧
      isValidTransition src entry.toStatus = true) ?_
    intro src entry dst link
    exact ⟨src,link.fromStatus,link.toStatus ▸ link.admissible⟩
  · cases hgetLast : trail.getLast? <;> simpa [hgetLast] using hlast
  · refine h.forall_label (P := fun entry => entry.toStatus = .flagged →
      ∃ reason, entry.reason = some reason ∧ ¬ Blank reason) ?_
    intro src entry dst link hflagged
    exact link.reason (link.toStatus ▸ hflagged)

lemma statusHistoryOf_eq (hclock : rs.Pairwise fun a b => a.now ≤ b.now)
    (found : (finalState hasNotifier hasTeamAuthority rs).items.byID id = some item)
    (at_ : Request) (caller : String) (supervisor : Bool) :
    statusHistoryOf hasNotifier hasTeamAuthority rs at_ id caller supervisor =
      .ok (.history ((finalState hasNotifier hasTeamAuthority rs).order id).trail) :=
  listStatusHistory_admin at_ found (timed_finalState _ _ rs hclock) caller supervisor

theorem statusHistory_trail (later : List Request)
    (hclock : (rs ++ later).Pairwise fun a b => a.now ≤ b.now)
    (found : (finalState hasNotifier hasTeamAuthority rs).items.byID id = some item) :
    ∃ entries : List StatusHistory,
      (∀ at_ caller supervisor, statusHistoryOf hasNotifier hasTeamAuthority rs at_ id caller
        supervisor = .ok (.history entries)) ∧
      (entries = [] ↔ movesOf hasNotifier hasTeamAuthority rs id = []) ∧
      (∀ first ∈ entries.head?, first.fromStatus = some .created) ∧
      entries.IsChain (fun previous next => next.fromStatus = some previous.toStatus) ∧
      (∀ entry ∈ entries, ∃ src, entry.fromStatus = some src ∧
        isValidTransition src entry.toStatus = true) ∧
      (entries.getLast?.map (·.toStatus)).getD .created = item.status ∧
      (∀ entry ∈ entries, entry.toStatus = .flagged →
        ∃ reason, entry.reason = some reason ∧ ¬ Blank reason) ∧
      ∃ grown, (∀ at_ caller supervisor, statusHistoryOf hasNotifier hasTeamAuthority (rs ++ later)
        at_ id caller supervisor = .ok (.history grown)) ∧ entries <+: grown := by
  have htrace := order_finalState hasNotifier hasTeamAuthority rs id
  obtain ⟨hfirst,hchain,hadmissible,hlast,hflagged⟩ := trail_entries (Order.trace_trail htrace)
  have hempty : ((finalState hasNotifier hasTeamAuthority rs).order id).trail = [] ↔
      movesOf hasNotifier hasTeamAuthority rs id = [] := by
    rw [← List.length_eq_zero_iff, Order.length_trail htrace, List.length_eq_zero_iff]
  have hstate : finalState hasNotifier hasTeamAuthority (rs ++ later) =
      serveAll (serve (.inMemory hasNotifier hasTeamAuthority))
        (finalState hasNotifier hasTeamAuthority rs) later := serveAll_append _ _ _ _
  have hgrown : ((finalState hasNotifier hasTeamAuthority rs).order id).trail <+:
      ((finalState hasNotifier hasTeamAuthority (rs ++ later)).order id).trail := by
    rw [hstate]
    exact Order.trail_isPrefix (order_serveAll (s := .inMemory hasNotifier hasTeamAuthority) rfl id
      (serveAll_sound rfl rs) later)
  obtain ⟨item',found'⟩ : ∃ item',
      (finalState hasNotifier hasTeamAuthority (rs ++ later)).items.byID id = some item' := by
    rw [hstate, ← Option.isSome_iff_exists]
    exact serveAll_keeps (s := .inMemory hasNotifier hasTeamAuthority) rfl
      (by rw [found]; rfl) later
  have hrs := (List.pairwise_append.mp hclock).1
  rw [order_status found] at hlast
  exact ⟨_,statusHistoryOf_eq _ _ rs hrs found,hempty,hfirst,hchain,hadmissible,hlast,hflagged,
    _,statusHistoryOf_eq _ _ (rs ++ later) hclock found',hgrown⟩

/-- A flag with its reason stays on the trail of a later rework. -/
theorem statusHistory_trail_reworked :
    let request (call : Call) : Request := ⟨background,7,7,fun _ _ => .ok false,fun _ => .ok [],call⟩
    let move (dst : Status) (reason : Option String) :=
      request (.changeStatus "workitem-0001" "admin-1" true false false ⟨dst,reason⟩)
    let rs := [request (.create "admin-1" ⟨"Repair pump","Pump 4 leaks",.high,none,none⟩),
      request (.assignWorkItem "workitem-0001" "admin-1" true false ⟨"user-2"⟩),
      request (.respondToAssignment "workitem-0001" "user-2" false true ⟨none⟩),
      move .inProgress none,move .submittedForReview none,move .flagged (some "Seal missing")]
    ∃ entries grown, entries ≠ [] ∧
      statusHistoryOf true false rs (request (.create "" ⟨"","",.low,none,none⟩)) "workitem-0001"
        "admin-1" false = .ok (.history entries) ∧
      statusHistoryOf true false (rs ++ [move .inProgress none])
        (request (.create "" ⟨"","",.low,none,none⟩)) "workitem-0001" "admin-1" false =
          .ok (.history grown) ∧ entries <+: grown := by
  intro request move rs
  have hstored : ((finalState true false rs).items.byID "workitem-0001").isSome = true := by
    decide +kernel
  obtain ⟨item,found⟩ := Option.isSome_iff_exists.mp hstored
  have hclock : (rs ++ [move .inProgress none]).Pairwise fun a b => a.now ≤ b.now := by
    decide +kernel
  obtain ⟨entries,hlist,hempty,_,_,_,_,_,grown,hgrown,hsub⟩ :=
    statusHistory_trail true false rs [move .inProgress none] hclock found
  refine ⟨entries,grown,?_,hlist _ _ _,hgrown _ _ _,hsub⟩
  rw [ne_eq, hempty]
  decide +kernel

theorem records_agree (hclock : rs.Pairwise fun a b => a.now ≤ b.now)
    (found : (finalState hasNotifier hasTeamAuthority rs).items.byID id = some item) :
    (∀ user, item.assignedToUserID = some user ↔ ∃ row,
      (finalState hasNotifier hasTeamAuthority rs).assignments.byWorkItem id = some row ∧
      row.assignedToUserID = user ∧ row.status ≠ .declined) ∧
    ∃ entries : List AssignmentHistory,
      (∀ at_ caller supervisor, assignmentHistoryOf hasNotifier hasTeamAuthority rs at_ id caller
        supervisor = .ok (.assignmentHistory entries)) ∧
      (entries = [] ↔
        (finalState hasNotifier hasTeamAuthority rs).assignments.byWorkItem id = none) ∧
      (∀ row, (finalState hasNotifier hasTeamAuthority rs).assignments.byWorkItem id = some row →
        ∃ last, entries.getLast? = some last ∧ row.status = last.action ∧
          row.assignedToUserID = last.assignedToUserID) ∧
      (∀ earlier event later, entries = earlier ++ event :: later →
        event.action = .accepted ∨ event.action = .declined →
        (∃ offered, earlier.getLast? = some offered ∧ offered.action = .assigned ∧
          offered.assignedToUserID = event.assignedToUserID) ∧
        event.actorUserID = event.assignedToUserID) := by
  have hagrees := Order.agrees_of_trace (order_finalState hasNotifier hasTeamAuthority rs id)
  have hlist := fun (at_ : Request) (caller : String) (supervisor : Bool) =>
    listAssignmentHistory_admin (s := .inMemory hasNotifier hasTeamAuthority) at_ found
      (timed_finalState hasNotifier hasTeamAuthority rs hclock) caller supervisor
  have hevents : ((finalState hasNotifier hasTeamAuthority rs).assignmentHistory.ofWorkItem
        id).getLast?.map (fun event => (event.action,event.assignedToUserID)) =
      ((finalState hasNotifier hasTeamAuthority rs).assignments.byWorkItem id).map
        fun row => (row.status,row.assignedToUserID) := hagrees.events
  refine ⟨?_,_,hlist,?_,?_,?_⟩
  · rw [← order_holder found]
    exact hagrees.holder
  · rw [← List.getLast?_eq_none_iff]
    constructor
    · intro hnone
      rw [hnone] at hevents
      simpa using hevents.symm
    · intro hnone
      rw [hnone] at hevents
      simpa using hevents
  · intro row hrow
    rw [hrow, Option.map_some, Option.map_eq_some_iff] at hevents
    obtain ⟨last,hlast,heq⟩ := hevents
    obtain ⟨haction,hassignee⟩ := Prod.mk.inj heq
    exact ⟨last,hlast,haction.symm,hassignee.symm⟩
  · intro earlier event later hsplit haction
    apply hagrees.answered earlier event later hsplit
    rcases haction with h | h <;> rw [h] <;> decide

/-- After a decline and a reassignment the second assignee holds the item. -/
theorem records_agree_reassigned :
    let request (call : Call) : Request := ⟨background,7,7,fun _ _ => .ok false,fun _ => .ok [],call⟩
    let rs := [request (.create "admin-1" ⟨"Repair pump","Pump 4 leaks",.high,none,none⟩),
      request (.assignWorkItem "workitem-0001" "admin-1" true false ⟨"user-2"⟩),
      request (.respondToAssignment "workitem-0001" "user-2" false false ⟨none⟩),
      request (.assignWorkItem "workitem-0001" "admin-1" true false ⟨"user-3"⟩)]
    ∃ row, (finalState true false rs).assignments.byWorkItem "workitem-0001" = some row ∧
      row.assignedToUserID = "user-3" ∧ row.status ≠ .declined := by
  intro request rs
  have hstored : ((finalState true false rs).items.byID "workitem-0001").map
      (·.assignedToUserID) = some (some "user-3") := by decide +kernel
  obtain ⟨item,found,hassignee⟩ := Option.map_eq_some_iff.mp hstored
  exact ((records_agree true false rs (by decide +kernel) found).1 "user-3").mp hassignee

end
end OpsPlatform.Workitems
