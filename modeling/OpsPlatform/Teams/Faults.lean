import OpsPlatform.Interaction.Faults
import OpsPlatform.Teams.History

/-! A move whose stores fail. `AddAssignee` closes the old membership and opens the new one in two
writes of their own, so between them there is a point of no return. -/
namespace OpsPlatform.Teams
open OpsPlatform.Go Interaction Program

/-- Any store call may fail with this error; the clock cannot. -/
def refuse (err : Error) : (op : Op) → Option op.Res
  | .teamCreate _ _ | .teamGetByID _ _ | .membershipCreate _ _ | .membershipUpdate _ _
  | .membershipGetActiveByUserID _ _ | .membershipListActiveByTeamID _ _ | .supervisionCreate _ _
  | .supervisionUpdate _ _ | .supervisionListActiveByTeamID _ _
  | .supervisionListActiveByUserID _ _ => some (.error err)
  | .now => none

/-- The call gets as far as closing a membership: the user has an active one on another team. -/
def State.Moves (s : State) (teamID userID addedByUserID : String) : Prop :=
  ¬ Blank teamID ∧ ¬ Blank userID ∧ ¬ Blank addedByUserID ∧
  (∃ team, s.teams.getByID (trimSpace teamID) = .ok team) ∧
  ∃ row, s.memberships.getActiveByUserID (trimSpace userID) = .ok (some row) ∧
    row.teamID ≠ trimSpace teamID

/-- `AddAssignee` with its store call number `k`, counted from 0, failing. -/
def addAssigneeRefused (now : Time) (ctx : Context) (teamID userID addedByUserID : String)
    (err : Error) (k : ℕ) (s : State) : Except Error Membership × State :=
  (addAssignee ctx teamID userID addedByUserID).runRefused (exec now) (refuse err) k s

section
variable (now : Time) (ctx : Context) (teamID userID addedByUserID : String) (err : Error) (k : ℕ)
  (s : State)

/-- How a call with a refused store call ends: nothing is written, or all of it, or the old
membership is closed and the new one is missing. -/
inductive Refused (now : Time) (teamID userID addedByUserID : String) (k : ℕ) (s : State) :
    Except Error Membership × State → Prop
  | same {result : Except Error Membership}
      (harmless : ¬ (k = 3 ∧ s.Moves teamID userID addedByUserID)) :
      Refused now teamID userID addedByUserID k s (result,s)
  | done {row : Membership} {t : State}
      (harmless : ¬ (k = 3 ∧ s.Moves teamID userID addedByUserID)) :
      Refused now teamID userID addedByUserID k s (.ok row,t)
  | torn {err : Error} {existing : Membership} (last : k = 3)
      (moves : s.Moves teamID userID addedByUserID)
      (found : s.memberships.getActiveByUserID (trimSpace userID) = .ok (some existing)) :
      Refused now teamID userID addedByUserID k s
        (.error err,{ s with memberships := (s.memberships.update (existing.close now)).2 })

lemma refused_addAssignee : Refused now teamID userID addedByUserID k s
    (addAssigneeRefused now ctx teamID userID addedByUserID err k s) := by
  unfold addAssigneeRefused
  simp only [addAssignee, runRefused_failIf_bind]
  split_ifs with hblank
  · refine .same fun h => ?_
    obtain ⟨-,hteam,huser,hby,-⟩ := h
    rcases hblank with h | h | h
    · exact hteam h
    · exact huser h
    · exact hby h
  cases k with
  | zero =>
    rw [call_bind, runRefused_call_zero (h := rfl), fromResult_error, fail_bind, run_fail]
    exact .same (by simp)
  | succ k =>
  rw [call_bind, runRefused_call_succ (h := rfl)]
  simp only [exec]
  cases hteam : s.teams.getByID (trimSpace teamID) with
  | error e =>
    rw [fromResult_error, fail_bind, runRefused_fail]
    refine .same fun h => ?_
    obtain ⟨-,-,-,-,⟨team,hok⟩,-⟩ := h
    cases hteam.symm.trans hok
  | ok team =>
  rw [fromResult_ok, ret_bind, call_bind, runRefused_call_of_none (h := rfl)]
  simp only [exec, ret_bind]
  cases k with
  | zero =>
    rw [call_bind, runRefused_call_zero (h := rfl), fromResult_error, fail_bind, run_fail]
    exact .same (by simp)
  | succ k =>
  rw [call_bind, runRefused_call_succ (h := rfl)]
  simp only [exec]
  cases hactive : s.memberships.getActiveByUserID (trimSpace userID) with
  | error e => cases hactive
  | ok found =>
  rw [fromResult_ok, ret_bind]
  cases found with
  | none =>
    cases k with
    | zero =>
      rw [runRefused_call_zero (h := rfl), fromResult_error, run_fail]
      exact .same (by simp)
    | succ k =>
      rw [runRefused_call_succ (h := rfl), runRefused_fromResult]
      refine .done fun h => ?_
      obtain ⟨-,-,-,-,-,row,hrow,-⟩ := h
      cases hactive.symm.trans hrow
  | some existing =>
    simp only
    split_ifs with hsame
    · rw [pure_eq, runRefused_ret]
      refine .same fun h => ?_
      obtain ⟨-,-,-,-,-,row,hrow,hother⟩ := h
      cases hactive.symm.trans hrow
      exact hother hsame
    · cases k with
      | zero =>
        rw [call_bind, runRefused_call_zero (h := rfl), fromResult_error, fail_bind, run_fail]
        exact .same (by simp)
      | succ k =>
        have hmem : existing ∈ s.memberships.entries :=
          List.mem_of_find?_eq_some (Except.ok.inj hactive)
        have hid : existing.id ∈ s.memberships.entries.map (·.id) := List.mem_map_of_mem hmem
        have hok := (s.memberships.update_eq (existing.close now) hid).1
        simp only [Membership.close] at hok
        rw [call_bind, runRefused_call_succ (h := rfl)]
        simp only [exec, hok, fromResult_ok, ret_bind]
        cases k with
        | zero =>
          rw [runRefused_call_zero (h := rfl), fromResult_error, run_fail]
          simp only [not_or] at hblank
          exact .torn rfl ⟨hblank.1,hblank.2.1,hblank.2.2,⟨team,hteam⟩,existing,hactive,hsame⟩ hactive
        | succ k =>
          rw [runRefused_call_succ (h := rfl), runRefused_fromResult]
          exact .done (by simp)

end

/-- A refused call that fails leaves the user where they were, unless it is the creation of a
membership that is refused, of a user whose old one was closed just before. -/
theorem addAssignee_refused_iff {xs : List Exchange} {t : State} (h : Trace Serves .empty xs t)
    (now : Time) (ctx : Context) (teamID userID addedByUserID : String) (err : Error) (k : ℕ) :
    ((∃ e, (addAssigneeRefused now ctx teamID userID addedByUserID err k t).1 = .error e) →
      (addAssigneeRefused now ctx teamID userID addedByUserID err k t).2.memberships.getActiveByUserID
        (trimSpace userID) = t.memberships.getActiveByUserID (trimSpace userID)) ↔
      ¬ (k = 3 ∧ t.Moves teamID userID addedByUserID) := by
  have hout := refused_addAssignee now ctx teamID userID addedByUserID err k t
  generalize addAssigneeRefused now ctx teamID userID addedByUserID err k t = out at hout
  cases hout with
  | same harmless => exact iff_of_true (fun _ => rfl) harmless
  | done harmless => exact iff_of_true (fun ⟨_,h⟩ => by cases h) harmless
  | @torn err existing hlast hmoves hfound =>
    refine iff_of_false (fun hkept => ?_) (not_not.mpr ⟨hlast,hmoves⟩)
    have hstill : t.memberships.entries.find? (fun entry => _) = some existing := Except.ok.inj hfound
    have hmem := List.mem_of_find?_eq_some hstill
    obtain ⟨huser,hopen⟩ : existing.userID = trimSpace userID ∧ existing.removedAt = none := by
      simpa using List.find?_some hstill
    have hgone := ((trace_single h).close hmem hopen now).2
    have hafter := Except.ok.inj ((hkept ⟨_,rfl⟩).trans hfound)
    obtain ⟨huser',hopen'⟩ : existing.userID = trimSpace userID ∧ existing.removedAt = none := by
      simpa using List.find?_some hafter
    exact hgone existing (List.mem_of_find?_eq_some hafter) hopen rfl

/-- Ada is on the one team and is to be moved to the other. -/
def beforeMove : List (Call × Time) := sampleMove.take 3

/-- The move of Ada, its store call number `k` failing. -/
def refusedMove (k : ℕ) (t : State) : Except Error Membership × State :=
  addAssigneeRefused 4 background "team-0002" "ada" "root" ⟨"connection lost"⟩ k t

/-- The first of the two writes fails. -/
theorem addAssignee_refused_iff_update :
    ∃ t, Trace Serves .empty (labels Exchange.of Exchange.after .empty beforeMove) t ∧
      ((∃ e, (refusedMove 2 t).1 = .error e) →
        (refusedMove 2 t).2.memberships.getActiveByUserID (trimSpace "ada") =
          t.memberships.getActiveByUserID (trimSpace "ada")) := by
  have h := trace_of .empty beforeMove
  exact ⟨_,h,(addAssignee_refused_iff h 4 background "team-0002" "ada" "root" ⟨"connection lost"⟩ 2).mpr
    (by simp)⟩

/-- The second one fails, and Ada is nowhere. -/
theorem addAssignee_refused_nowhere :
    ¬ ∀ (xs : List Exchange) (t : State), Trace Serves .empty xs t →
      ∀ (now : Time) (ctx : Context) (teamID userID addedByUserID : String) (err : Error) (k : ℕ),
      (∃ e, (addAssigneeRefused now ctx teamID userID addedByUserID err k t).1 = .error e) →
      (addAssigneeRefused now ctx teamID userID addedByUserID err k t).2.memberships.getActiveByUserID
        (trimSpace userID) = t.memberships.getActiveByUserID (trimSpace userID) := by
  intro h
  have hkept := h _ _ (trace_of .empty beforeMove) 4 background "team-0002" "ada" "root"
    ⟨"connection lost"⟩ 3 ⟨⟨"connection lost"⟩,by decide +kernel⟩
  revert hkept
  decide +kernel

end OpsPlatform.Teams
