import OpsPlatform.Teams.Concurrent
import OpsPlatform.Teams.Postgres

/-! One assignee put on teams by several calls at once, on Postgres. What one call opens beside the
open row of another the index refuses; and a call that has closed a row still tries to open one. So
the user is on one team when all calls have returned. -/
namespace OpsPlatform.Teams.Postgres
open OpsPlatform.Go OpsPlatform.Db Interaction Program

/-- The calls under way. -/
abbrev Placements (ι : Type) := Pool ι Op.Res Error Membership Tables

def begin {ι : Type} (calls : ι → Placement) (d : Tables) : Placements ι :=
  .start d fun i => addAssignee background (calls i).teamID (calls i).userID (calls i).addedByUserID

/-- A call the service does not turn down. -/
structure Valid (c : Placement) (userID : String) (d : Tables) : Prop where
  user : trimSpace c.userID = userID
  user_set : userID ≠ ""
  addedBy_set : ¬ Blank c.addedByUserID
  team_set : ¬ Blank c.teamID
  team : ∃ team, d.getTeam (trimSpace c.teamID) = .ok team

/-- What a call reads of the stores. -/
def Reads (d : Tables) (seen : List (Event Op.Res)) : Event Op.Res → Prop
  | ⟨.teamGetByID _ id,r⟩ => r = d.getTeam id
  | ⟨.membershipGetActiveByUserID _ _,r⟩ => ∃ found, r = .ok found
  | ⟨.membershipCreate _ row,r⟩ => row.removedAt = none → (∃ team, d.getTeam row.teamID = .ok team) →
    (∃ new, r = .ok new ∧ new.teamID = row.teamID) ∨ r = .error errTaken
  | ⟨.membershipUpdate _ row,r⟩ => row.removedAt ≠ none → (∃ ctx userID found,
      ⟨.membershipGetActiveByUserID ctx userID,.ok (some found)⟩ ∈ seen ∧ found.id = row.id) →
      ∃ new, r = .ok new
  | _ => True

/-- What a call may do: it closes once, before it opens, and opens once, after it has closed or has
found nothing. -/
def MayPlace (teamID userID : String) (seen : List (Event Op.Res)) : Op → Prop
  | .membershipCreate _ row => row.userID = userID ∧ row.teamID = teamID ∧ row.removedAt = none ∧
      (∀ e ∈ seen, e.op.opens = false) ∧
      ((∃ e ∈ seen, e.op.closes = true) ∨
        ∃ ctx, ⟨.membershipGetActiveByUserID ctx userID,.ok none⟩ ∈ seen)
  | .membershipUpdate _ row => row.removedAt ≠ none ∧
      (∀ e ∈ seen, e.op.opens = false ∧ e.op.closes = false) ∧
      ∃ ctx found, ⟨.membershipGetActiveByUserID ctx userID,.ok (some found)⟩ ∈ seen ∧
        found.id = row.id
  | .membershipGetActiveByUserID _ user => user = userID
  | .teamCreate _ _ => False
  | _ => True

/-- How a call returns. -/
structure Places (teamID userID : String) (seen : List (Event Op.Res))
    (x : Except Error Membership) : Prop where
  settled : ∃ e ∈ seen, Settles e
  paid : ¬ Closing seen
  opened : ∀ ctx row r, ⟨.membershipCreate ctx row,r⟩ ∈ seen → x = r
  stayed : (∀ e ∈ seen, e.op.opens = false) →
    ∃ ctx row, ⟨.membershipGetActiveByUserID ctx userID,.ok (some row)⟩ ∈ seen ∧ x = .ok row
  answer : (∃ row, x = .ok row ∧ row.teamID = teamID) ∨ x = .error errTaken

lemma ensures_addAssignee {c : Placement} {userID : String} {d : Tables} (h : Valid c userID d) :
    (addAssignee background c.teamID c.userID c.addedByUserID).Ensures (Reads d)
      (MayPlace (trimSpace c.teamID) userID) (Places (trimSpace c.teamID) userID) [] := by
  unfold addAssignee
  rw [ensures_failIf_bind]
  refine ⟨fun hblank => ?_,fun _ => ?_⟩
  · obtain hteam | huser | hby := hblank
    · exact (h.team_set hteam).elim
    · exact (h.user_set (h.user ▸ huser)).elim
    · exact (h.addedBy_set hby).elim
  rw [call_bind, ensures_call]
  refine ⟨trivial,fun r hr => ?_⟩
  obtain ⟨team,hteam⟩ := h.team
  obtain rfl : r = .ok team := hr.trans hteam
  rw [fromResult_ok, ret_bind, call_bind, ensures_call]
  refine ⟨trivial,fun now _ => ?_⟩
  rw [ret_bind, call_bind, ensures_call]
  refine ⟨h.user,fun r hr => ?_⟩
  obtain ⟨found,rfl⟩ := hr
  rw [fromResult_ok, ret_bind]
  -- the insert at the end, whatever was seen before
  have hcreate : ∀ seen : List (Event Op.Res), (∀ e ∈ seen, e.op.opens = false) →
      ((∃ e ∈ seen, e.op.closes = true) ∨
        ∃ ctx, ⟨.membershipGetActiveByUserID ctx userID,.ok none⟩ ∈ seen) →
      (call (.membershipCreate background ⟨"",trimSpace c.teamID,trimSpace c.userID,
        trimSpace c.addedByUserID,now,none⟩) fromResult : M Membership).Ensures (Reads d)
        (MayPlace (trimSpace c.teamID) userID) (Places (trimSpace c.teamID) userID) seen := by
    intro seen hopens hcause
    rw [ensures_call]
    refine ⟨⟨h.user,rfl,rfl,hopens,hcause⟩,fun r hr => ?_⟩
    have hr := hr rfl ⟨team,hteam⟩
    rw [ensures_fromResult]
    refine ⟨⟨_,List.mem_concat_self,trivial⟩,?_,?_,?_,?_⟩
    · rintro ⟨_,hnone⟩
      rw [List.forall_mem_append, List.forall_mem_singleton] at hnone
      cases hnone.2
    · intro ctx row r' hr'
      obtain hold | hnew := List.mem_append.mp hr'
      · cases hopens _ hold
      · cases List.mem_singleton.mp hnew
        rfl
    · intro hnone
      rw [List.forall_mem_append, List.forall_mem_singleton] at hnone
      cases hnone.2
    · exact hr
  cases found with
  | none =>
    refine hcreate _ (by simp [Op.opens]) (.inr ⟨background,?_⟩)
    rw [← h.user]
    simp
  | some existing =>
    dsimp only
    split_ifs with hsame
    · rw [pure_eq, ensures_ret]
      refine ⟨⟨_,List.mem_concat_self,existing,rfl⟩,?_,by simp,fun _ => ?_,.inl ⟨existing,rfl,hsame⟩⟩
      · rintro ⟨hcloses,_⟩
        simp [Op.closes] at hcloses
      · refine ⟨background,existing,?_,rfl⟩
        rw [← h.user]
        simp
    · rw [call_bind, ensures_call]
      refine ⟨⟨by simp,by simp [Op.opens, Op.closes],background,existing,?_,rfl⟩,fun r hr => ?_⟩
      · rw [← h.user]
        simp
      · obtain ⟨new,rfl⟩ := hr (by simp) ⟨background,trimSpace c.userID,existing,by simp,rfl⟩
        rw [fromResult_ok, ret_bind]
        exact hcreate _ (by simp [Op.opens]) (.inl ⟨_,List.mem_concat_self,rfl⟩)

section Store
variable {timestamptz : Time → Time} {clock : Time → Prop} {op : Op} {d d' : Tables} {r : op.Res}
  {userID : String}

/-- Where the memberships and the teams are written. -/
lemma Answers.frame (h : Answers timestamptz clock op d r d') (hopens : op.opens = false)
    (hcloses : op.closes = false) : d'.memberships = d.memberships := by
  cases op with
  | membershipCreate => cases hopens
  | membershipUpdate => cases hcloses
  | teamCreate => exact (congrArg (·.2.memberships) h).symm
  | supervisionCreate ctx row =>
    have h' : (d.createSupervision timestamptz row).2 = d' := congrArg Prod.snd h
    rw [← h', Tables.createSupervision]
    split_ifs <;> rfl
  | supervisionUpdate => exact (congrArg (·.2.memberships) h).symm
  | teamGetByID | membershipGetActiveByUserID | membershipListActiveByTeamID
  | supervisionListActiveByTeamID | supervisionListActiveByUserID | now =>
    rw [h.2]

lemma Answers.teams (h : Answers timestamptz clock op d r d') (hmay : ∀ ctx team, op ≠ .teamCreate ctx team) :
    d'.teams = d.teams := by
  cases op with
  | teamCreate ctx team => exact (hmay ctx team rfl).elim
  | membershipCreate ctx row =>
    have h' : (d.createMembership timestamptz row).2 = d' := congrArg Prod.snd h
    rw [← h', Tables.createMembership]
    split_ifs <;> rfl
  | supervisionCreate ctx row =>
    have h' : (d.createSupervision timestamptz row).2 = d' := congrArg Prod.snd h
    rw [← h', Tables.createSupervision]
    split_ifs <;> rfl
  | membershipUpdate | supervisionUpdate => exact (congrArg (·.2.teams) h).symm
  | teamGetByID | membershipGetActiveByUserID | membershipListActiveByTeamID
  | supervisionListActiveByTeamID | supervisionListActiveByUserID | now =>
    rw [h.2]

lemma getTeam_of_teams (h : d'.teams = d.teams) (id : String) : d'.getTeam id = d.getTeam id := by
  rw [Tables.getTeam, Tables.getTeam, h]

end Store

/-- Untouched so far: nothing was written, and who looked for the open row found this one. -/
def Untouched {ι : Type} (userID : String) (row : Membership) (p : Placements ι) : Prop :=
  ∀ i, ∀ e ∈ p.seen i, e.op.opens = false ∧ e.op.closes = false ∧
    ∀ ctx r, e = ⟨.membershipGetActiveByUserID ctx userID,r⟩ → r = .ok (some row)

/-- The calls under way, with what they know of the stores and what they owe the user. -/
structure Placing {ι : Type} (calls : ι → Placement) (userID : String) (d : Tables)
    (p : Placements ι) : Prop where
  teams : p.state.teams = d.teams
  threads : ∀ i, (p.thread i).Ensures (Reads d) (MayPlace (trimSpace (calls i).teamID) userID)
    (Places (trimSpace (calls i).teamID) userID) (p.seen i)
  known : ∀ i ctx user found,
    ⟨.membershipGetActiveByUserID ctx user,.ok (some found)⟩ ∈ p.seen i →
      ∃ row ∈ p.state.memberships.rows, row.id = found.id
  owed : (∃ i, ∃ e ∈ p.seen i, Settles e) → p.state.active userID ≠ [] ∨ ∃ i, Closing (p.seen i)
  source : ∀ row ∈ p.state.active userID,
    (∃ i ctx new, ⟨.membershipCreate ctx new,.ok row⟩ ∈ p.seen i) ∨ Untouched userID row p

/-- What one step of a call does to the memberships. -/
inductive Move {ι : Type} (userID : String) (p : Placements ι) (l : ι × Event Op.Res)
    (q : Placements ι) : Prop
  | opened {ctx : Context} {row new : Membership} (step : l.2 = ⟨.membershipCreate ctx row,.ok new⟩)
      (free : p.state.active userID = [])
      (rows : q.state.memberships.rows = p.state.memberships.rows ++ [new])
      (there : new ∈ q.state.active userID) : Move userID p l q
  | refused {ctx : Context} {row : Membership}
      (step : l.2 = ⟨.membershipCreate ctx row,.error errTaken⟩)
      (taken : p.state.active userID ≠ [])
      (rows : q.state.memberships.rows = p.state.memberships.rows)
      (cause : (∃ e ∈ p.seen l.1, e.op.closes = true) ∨
        ∃ ctx, ⟨.membershipGetActiveByUserID ctx userID,.ok none⟩ ∈ p.seen l.1) : Move userID p l q
  | closed {ctx : Context} {row new found : Membership} (at_ : Time) (ctx' : Context)
      (step : l.2 = ⟨.membershipUpdate ctx row,.ok new⟩)
      (first : ∀ e ∈ p.seen l.1, e.op.opens = false)
      (read : ⟨.membershipGetActiveByUserID ctx' userID,.ok (some found)⟩ ∈ p.seen l.1)
      (rows : q.state.memberships.rows = p.state.memberships.rows.map fun old =>
        if old.id = found.id then old.close at_ else old) : Move userID p l q
  | looked {ctx : Context} {found : Option Membership}
      (step : l.2 = ⟨.membershipGetActiveByUserID ctx userID,.ok found⟩)
      (all : p.state.active userID = found.toList)
      (rows : q.state.memberships.rows = p.state.memberships.rows) : Move userID p l q
  | other (opens : l.2.op.opens = false) (closes : l.2.op.closes = false)
      (looks : ∀ ctx user, l.2.op ≠ .membershipGetActiveByUserID ctx user)
      (rows : q.state.memberships.rows = p.state.memberships.rows) : Move userID p l q

section Run
variable {ι : Type} {timestamptz : Time → Time} {clock : Time → Prop} {userID : String} {d : Tables}
  {p q : Placements ι} {l : ι × Event Op.Res} {calls : ι → Placement} {ls : List (ι × Event Op.Res)}

lemma begin_placing (hvalid : ∀ i, Valid (calls i) userID d) :
    Placing calls userID d (begin calls d) where
  teams := rfl
  threads i := ensures_addAssignee (hvalid i)
  known i ctx user found h := (by cases h)
  owed h := by
    obtain ⟨i,e,he,_⟩ := h
    cases he
  source row hrow := .inr fun i e he => (by cases he)

variable [DecidableEq ι]

/-- An answer is as the call reads it. -/
lemma Placing.reads (hp : Placing calls userID d p)
    (h : Pool.Step (Answers timestamptz clock) p l q) : Reads d (p.seen l.1) l.2 := by
  have hanswer := h.answered
  obtain ⟨i,op,r⟩ := l
  cases op with
  | teamGetByID ctx id => exact hanswer.1.symm.trans (getTeam_of_teams hp.teams id)
  | membershipGetActiveByUserID ctx user =>
    obtain ⟨⟨_,rfl⟩ | ⟨row,_,rfl⟩,_⟩ := hanswer
    · exact ⟨none,rfl⟩
    · exact ⟨some row,rfl⟩
  | membershipCreate ctx row =>
    rintro hopen ⟨team,hteam⟩
    rw [← getTeam_of_teams hp.teams] at hteam
    obtain ⟨_,d',hcreate,_⟩ | ⟨_,new,d',hnew,hcreate,_⟩ :=
      createMembership_cases timestamptz p.state hopen (exists_team hteam)
    · exact .inr (Prod.mk.inj (hanswer.symm.trans hcreate)).1
    · exact .inl ⟨new,(Prod.mk.inj (hanswer.symm.trans hcreate)).1,by rw [hnew]⟩
  | membershipUpdate ctx row =>
    rintro hclosed ⟨ctx',user,found,hfound,hid⟩
    obtain ⟨now,hnow⟩ := Option.ne_none_iff_exists'.mp hclosed
    obtain ⟨old,hold,hsame⟩ := hp.known i ctx' user found hfound
    obtain ⟨old,_,d',_,hupdate,_⟩ := updateMembership_close timestamptz p.state hnow
      ⟨old,hold,hsame.trans hid⟩
    exact ⟨_,(Prod.mk.inj (hanswer.symm.trans hupdate)).1⟩
  | _ => trivial

lemma Placing.move (hvalid : ∀ i, Valid (calls i) userID d) (hp : Placing calls userID d p)
    (h : Pool.Step (Answers timestamptz clock) p l q)
    (hmay : MayPlace (trimSpace (calls l.1).teamID) userID (p.seen l.1) l.2.op) :
    Move userID p l q := by
  have hanswer := h.answered
  have hframe := hanswer.frame
  obtain ⟨i,op,r⟩ := l
  cases op with
  | membershipCreate ctx row =>
    obtain ⟨rfl,hteamID,hopen,-,hcause⟩ := hmay
    obtain ⟨team,hteam⟩ := (hvalid i).team
    rw [← hteamID, ← getTeam_of_teams hp.teams] at hteam
    obtain ⟨htaken,d',hcreate,hsets⟩ | ⟨hfree,new,d',hnew,hcreate,hsets⟩ :=
      createMembership_cases timestamptz p.state hopen (exists_team hteam)
    · obtain ⟨rfl,rfl⟩ := Prod.mk.inj (hanswer.symm.trans hcreate)
      exact .refused rfl htaken hsets.rows hcause
    · obtain ⟨rfl,rfl⟩ := Prod.mk.inj (hanswer.symm.trans hcreate)
      refine .opened rfl hfree hsets.rows ((mem_active _).mpr ⟨?_,?_,?_⟩)
      · rw [hsets.rows]
        exact List.mem_concat_self
      · rw [hnew]
      · rw [hnew]
        exact hopen
  | membershipUpdate ctx row =>
    obtain ⟨hclosed,hfirst,ctx',found,hfound,hid⟩ := hmay
    obtain ⟨now,hnow⟩ := Option.ne_none_iff_exists'.mp hclosed
    obtain ⟨old,hold,hsame⟩ := hp.known i ctx' userID found hfound
    obtain ⟨old,_,d',_,hupdate,hsets⟩ := updateMembership_close timestamptz p.state hnow
      ⟨old,hold,hsame.trans hid⟩
    obtain ⟨rfl,rfl⟩ := Prod.mk.inj (hanswer.symm.trans hupdate)
    refine .closed (timestamptz now) ctx' rfl (fun e he => (hfirst e he).1) hfound ?_
    rw [hid]
    exact hsets.rows
  | membershipGetActiveByUserID ctx user =>
    obtain rfl : user = userID := hmay
    obtain ⟨⟨hnone,rfl⟩ | ⟨row,hrow,rfl⟩,_⟩ := hanswer
    · exact .looked rfl hnone (congrArg Table.rows (hframe rfl rfl))
    · exact .looked rfl (active_eq_singleton _ hrow) (congrArg Table.rows (hframe rfl rfl))
  | _ => exact .other rfl rfl (fun _ _ h => (by cases h)) (congrArg Table.rows (hframe rfl rfl))

omit [DecidableEq ι] in
/-- Rows keep their ids. -/
lemma Move.ids (hmove : Move userID p l q) {id : String}
    (hid : ∃ row ∈ p.state.memberships.rows, row.id = id) :
    ∃ row ∈ q.state.memberships.rows, row.id = id := by
  obtain ⟨row,hrow,hid⟩ := hid
  cases hmove with
  | opened _ _ rows =>
    rw [rows]
    exact ⟨row,List.mem_append_left _ hrow,hid⟩
  | closed at_ _ _ _ _ rows =>
    rw [rows]
    refine ⟨_,List.mem_map_of_mem hrow,?_⟩
    split_ifs
    · exact hid
    · exact hid
  | refused _ _ rows | looked _ _ rows | other _ _ _ rows =>
    rw [rows]
    exact ⟨row,hrow,hid⟩

lemma Placing.known_step (hp : Placing calls userID d p)
    (h : Pool.Step (Answers timestamptz clock) p l q) (hmove : Move userID p l q) (i : ι)
    (ctx : Context) (user : String) (found : Membership)
    (hfound : ⟨.membershipGetActiveByUserID ctx user,.ok (some found)⟩ ∈ q.seen i) :
    ∃ row ∈ q.state.memberships.rows, row.id = found.id := by
  obtain hold | ⟨rfl,hnew⟩ := h.mem_seen.mp hfound
  · exact hmove.ids (hp.known i ctx user found hold)
  · have hanswer := h.answered
    rw [← hnew] at hanswer
    obtain ⟨⟨_,hnone⟩ | ⟨row,hrow,hsome⟩,hsame⟩ := hanswer
    · cases hnone
    · cases hsome
      rw [hsame]
      exact ⟨found,((mem_active _).mp hrow).1,rfl⟩

lemma Placing.owed_quiet (hp : Placing calls userID d p)
    (h : Pool.Step (Answers timestamptz clock) p l q) (hopens : l.2.op.opens = false)
    (hsettles : ¬ Settles l.2) (hrows : q.state.memberships.rows = p.state.memberships.rows)
    (hsettled : ∃ i, ∃ e ∈ q.seen i, Settles e) :
    q.state.active userID ≠ [] ∨ ∃ i, Closing (q.seen i) := by
  obtain ⟨i,e,he,hsettled⟩ := hsettled
  obtain hold | ⟨-,rfl⟩ := h.mem_seen.mp he
  · obtain hactive | ⟨j,⟨e',he',hcloses⟩,hnone⟩ := hp.owed ⟨i,e,hold,hsettled⟩
    · exact .inl (active_of_rows hrows ▸ hactive)
    · refine .inr ⟨j,⟨e',h.mem_seen.mpr (.inl he'),hcloses⟩,fun e he => ?_⟩
      obtain hold | ⟨-,rfl⟩ := h.mem_seen.mp he
      · exact hnone e hold
      · exact hopens
  · exact (hsettles hsettled).elim

/-- What is owed stays owed until it is there. -/
lemma Placing.owed_step (hp : Placing calls userID d p)
    (h : Pool.Step (Answers timestamptz clock) p l q) (hmove : Move userID p l q)
    (hsettled : ∃ i, ∃ e ∈ q.seen i, Settles e) :
    q.state.active userID ≠ [] ∨ ∃ i, Closing (q.seen i) := by
  cases hmove with
  | opened _ _ _ there => exact .inl (List.ne_nil_of_mem there)
  | refused _ taken rows => exact .inl (active_of_rows rows ▸ taken)
  | closed at_ ctx' step first read rows =>
    refine .inr ⟨l.1,⟨l.2,h.mem_seen.mpr (.inr ⟨rfl,rfl⟩),by rw [step]; rfl⟩,fun e he => ?_⟩
    obtain hold | ⟨-,rfl⟩ := h.mem_seen.mp he
    · exact first e hold
    · rw [step]
      rfl
  | @looked ctx found step all rows =>
    cases found with
    | some row => exact .inl (by rw [active_of_rows rows, all]; simp)
    | none =>
      refine hp.owed_quiet h (by rw [step]; rfl) ?_ rows hsettled
      rw [step]
      rintro ⟨row,hrow⟩
      cases hrow
  | other opens closes looks rows =>
    refine hp.owed_quiet h opens ?_ rows hsettled
    obtain ⟨i,op,r⟩ := l
    cases op with
    | membershipCreate => cases opens
    | membershipGetActiveByUserID ctx user => exact (looks ctx user rfl).elim
    | _ => exact not_false

/-- Where an open row comes from. -/
lemma Placing.source_step (hp : Placing calls userID d p)
    (h : Pool.Step (Answers timestamptz clock) p l q) (hmove : Move userID p l q) (row : Membership)
    (hrow : row ∈ q.state.active userID) :
    (∃ i ctx new, ⟨.membershipCreate ctx new,.ok row⟩ ∈ q.seen i) ∨ Untouched userID row q := by
  have hkept : (∃ i ctx new, ⟨.membershipCreate ctx new,.ok row⟩ ∈ p.seen i) →
      ∃ i ctx new, ⟨.membershipCreate ctx new,.ok row⟩ ∈ q.seen i := by
    rintro ⟨i,ctx,new,he⟩
    exact ⟨i,ctx,new,h.mem_seen.mpr (.inl he)⟩
  have huntouched : Untouched userID row p → l.2.op.opens = false → l.2.op.closes = false →
      (∀ ctx r, l.2 = ⟨.membershipGetActiveByUserID ctx userID,r⟩ → r = .ok (some row)) →
      Untouched userID row q := by
    intro hp hopens hcloses hlooks i e he
    obtain hold | ⟨-,rfl⟩ := h.mem_seen.mp he
    · exact hp i e hold
    · exact ⟨hopens,hcloses,hlooks⟩
  cases hmove with
  | @opened ctx m new step free rows there =>
    obtain rfl := mem_active_concat rows free hrow
    exact .inl ⟨l.1,ctx,m,h.mem_seen.mpr (.inr ⟨rfl,step.symm⟩)⟩
  | refused step taken rows cause =>
    rw [active_of_rows rows] at hrow
    refine .inl (hkept ((hp.source row hrow).resolve_right fun hp => ?_))
    -- whoever tries to open a row has closed one, or has found none
    obtain ⟨e,he,hcloses⟩ | ⟨ctx,he⟩ := cause
    · rw [(hp _ e he).2.1] at hcloses
      cases hcloses
    · cases (hp _ _ he).2.2 ctx _ rfl
  | closed at_ ctx' step first read rows =>
    obtain ⟨hrow,hid⟩ := mem_active_close rows hrow
    refine .inl (hkept ((hp.source row hrow).resolve_right fun hp => ?_))
    cases (hp _ _ read).2.2 ctx' _ rfl
    exact hid rfl
  | @looked ctx found step all rows =>
    rw [active_of_rows rows] at hrow
    refine (hp.source row hrow).imp hkept fun hp => huntouched hp ?_ ?_ fun ctx' r hr => ?_
    · rw [step]
      rfl
    · rw [step]
      rfl
    · rw [all, Option.mem_toList] at hrow
      cases step.symm.trans hr
      rw [hrow]
  | other opens closes looks rows =>
    rw [active_of_rows rows] at hrow
    refine (hp.source row hrow).imp hkept fun hp => huntouched hp opens closes fun ctx r hr => ?_
    exact (looks ctx userID (by rw [hr])).elim

/-- The step lemma. -/
lemma Placing.step (hvalid : ∀ i, Valid (calls i) userID d) (hp : Placing calls userID d p)
    (h : Pool.Step (Answers timestamptz clock) p l q) : Placing calls userID d q := by
  obtain ⟨hmay,hthreads⟩ := h.ensures hp.threads (hp.reads h)
  have hmove := hp.move hvalid h hmay
  refine ⟨?_,hthreads,?_,?_,?_⟩
  · rw [h.answered.teams, hp.teams]
    intro ctx team hop
    rw [hop] at hmay
    exact hmay
  · exact hp.known_step h hmove
  · exact hp.owed_step h hmove
  · exact hp.source_step h hmove

/-- Put on teams by any number of calls at once a user is on exactly one team when all have returned:
the team of a call that succeeded. A call that fails was refused by the index. -/
theorem one_team [Nonempty ι] (hvalid : ∀ i, Valid (calls i) userID d)
    (h : Trace (Pool.Step (Answers timestamptz clock)) (begin calls d) ls p)
    (hreturned : ∀ i, (p.thread i).result ≠ none) :
    (∃ i row, (p.thread i).result = some (.ok row) ∧ p.state.active userID = [row]) ∧
    ∀ i x, (p.thread i).result = some x →
      (∃ row, x = .ok row ∧ row.teamID = trimSpace (calls i).teamID) ∨ x = .error errTaken := by
  have hp : Placing calls userID d p :=
    h.inv (I := fun _ p => Placing calls userID d p) (begin_placing hvalid)
      fun _ _ _ _ hp hstep => hp.step hvalid hstep
  have hplaces : ∀ i, ∃ x, (p.thread i).result = some x ∧
      Places (trimSpace (calls i).teamID) userID (p.seen i) x := by
    intro i
    obtain ⟨x,hx⟩ := Option.ne_none_iff_exists'.mp (hreturned i)
    exact ⟨x,hx,(hp.threads i).result hx⟩
  obtain ⟨i₀⟩ := ‹Nonempty ι›
  obtain ⟨x₀,hx₀,hplaced⟩ := hplaces i₀
  have hactive : p.state.active userID ≠ [] := by
    obtain ⟨e,he,hsettles⟩ := hplaced.settled
    refine (hp.owed ⟨i₀,e,he,hsettles⟩).resolve_right ?_
    rintro ⟨i,hclosing⟩
    obtain ⟨x,_,hx⟩ := hplaces i
    exact hx.paid hclosing
  obtain ⟨row,hrow⟩ := List.exists_mem_of_ne_nil _ hactive
  refine ⟨?_,fun i x hx => ((hp.threads i).result hx).answer⟩
  obtain ⟨i,ctx,new,hcreated⟩ | huntouched := hp.source row hrow
  · obtain ⟨x,hx,hplaced⟩ := hplaces i
    obtain rfl := hplaced.opened ctx new _ hcreated
    exact ⟨i,row,hx,active_eq_singleton _ hrow⟩
  · obtain ⟨ctx,found,hfound,rfl⟩ := hplaced.stayed fun e he => (huntouched i₀ e he).1
    cases (huntouched i₀ _ hfound).2.2 ctx _ rfl
    exact ⟨i₀,row,hx₀,active_eq_singleton _ hrow⟩

end Run

/-- The tables once both teams are there. -/
def twoTeams : Tables :=
  ((Tables.empty.createTeam id ⟨"","North",1⟩).2.createTeam id ⟨"","South",2⟩).2

lemma rivalPlacements_valid (north : Bool) : Valid (rivalPlacements north) "ada" twoTeams := by
  refine ⟨by cases north <;> decide +kernel,by decide,by cases north <;> decide +kernel,
    by cases north <;> decide +kernel,?_⟩
  have hfound : (twoTeams.getTeam (trimSpace (rivalPlacements north).teamID)).toOption.isSome = true := by
    cases north <;> decide +kernel
  cases hteam : twoTeams.getTeam (trimSpace (rivalPlacements north).teamID) with
  | ok team => exact ⟨team,rfl⟩
  | error err =>
    rw [hteam] at hfound
    cases hfound

/-- Both calls look before either opens a row, and the second is refused. -/
theorem one_team_rivals :
    let p := ((begin rivalPlacements twoTeams).play (exec id 3)
      [true,true,true,false,false,false,true,false]).2
    (p.thread false).result = some (.error errTaken) ∧
      ∃ i row, (p.thread i).result = some (.ok row) ∧ p.state.active "ada" = [row] := by
  have hrun := (Pool.trace_play (answers_exec id (fun _ => True) 3 trivial) (fun _ _ => true)
    (begin rivalPlacements twoTeams) [true,true,true,false,false,false,true,false]
    (Pool.passes_true _ _)).imp fun _ _ _ h => h.1
  refine ⟨by decide +kernel,(one_team rivalPlacements_valid hrun ?_).1⟩
  intro i
  rw [← Option.isSome_iff_ne_none]
  cases i <;> decide +kernel

end OpsPlatform.Teams.Postgres
