import Mathlib.Data.Finset.Card
import OpsPlatform.Interaction.Pool
import OpsPlatform.Teams.History

/-! One assignee put on teams by several calls at once. Every call looks up the open row, closes it
and opens another; what has been closed is opened again, so the open rows of a user never get fewer
for good, and they get more with each row opened beside an open one. -/
namespace OpsPlatform.Teams
open OpsPlatform.Go Interaction Program

/-- What the in-memory stores answer, at whatever time the clock shows. -/
def Answers (op : Op) (s : State) (r : op.Res) (t : State) : Prop :=
  ∃ now, exec now op s = (r,t)

/-- The arguments of one `AddAssignee`. -/
structure Placement where
  teamID : String
  userID : String
  addedByUserID : String

/-- The calls under way. -/
abbrev Placements (ι : Type) := Pool ι Op.Res Error Membership State

/-- All calls at their beginning. -/
def begin {ι : Type} (calls : ι → Placement) (s : State) : Placements ι :=
  .start s fun i => addAssignee background (calls i).teamID (calls i).userID (calls i).addedByUserID

/-- A call the service does not turn down. -/
structure Placement.Valid (c : Placement) (userID : String) (s : State) : Prop where
  user : trimSpace c.userID = userID
  user_set : userID ≠ ""
  addedBy_set : ¬ Blank c.addedByUserID
  team_set : ¬ Blank c.teamID
  team : ∃ team, s.teams.getByID (trimSpace c.teamID) = .ok team

def Op.opens : Op → Bool
  | .membershipCreate _ _ => true
  | _ => false

def Op.closes : Op → Bool
  | .membershipUpdate _ _ => true
  | _ => false

/-- A row is only opened while the user has no open one. -/
def Vacant {ι : Type} (userID : String) (p : Placements ι) (l : ι × Event Op.Res) : Prop :=
  l.2.op.opens = true → p.state.active userID = []

instance {ι : Type} (userID : String) (p : Placements ι) (l : ι × Event Op.Res) :
    Decidable (Vacant userID p l) :=
  inferInstanceAs (Decidable (_ → _))

/-- What a call reads of the stores: the teams are as they were at the start, and a row it has
found can be updated. -/
def Reads (s : State) (seen : List (Event Op.Res)) : Event Op.Res → Prop
  | ⟨.teamGetByID _ id,r⟩ => r = s.teams.getByID id
  | ⟨.membershipGetActiveByUserID _ _,r⟩ => ∃ found, r = .ok found
  | ⟨.membershipCreate _ _,r⟩ => ∃ row, r = .ok row
  | ⟨.membershipUpdate _ row,r⟩ => (∃ ctx userID found,
      ⟨.membershipGetActiveByUserID ctx userID,.ok (some found)⟩ ∈ seen ∧ found.id = row.id) →
      r = .ok row
  | _ => True

/-- What a call may do: it closes once, before it opens. -/
def MayPlace (userID : String) (seen : List (Event Op.Res)) : Op → Prop
  | .membershipCreate _ row => row.userID = userID ∧ row.removedAt = none
  | .membershipUpdate _ row => row.removedAt ≠ none ∧
      (∀ e ∈ seen, e.op.opens = false ∧ e.op.closes = false) ∧
      ∃ ctx found, ⟨.membershipGetActiveByUserID ctx userID,.ok (some found)⟩ ∈ seen ∧
        found.id = row.id
  | .membershipGetActiveByUserID _ user => user = userID
  | .teamCreate _ _ => False
  | _ => True

/-- A call that has closed a row and not opened another yet. -/
def Closing (seen : List (Event Op.Res)) : Prop :=
  (∃ e ∈ seen, e.op.closes = true) ∧ ∀ e ∈ seen, e.op.opens = false

/-- The user has an open row when this has happened. -/
def Settles : Event Op.Res → Prop
  | ⟨.membershipCreate _ _,_⟩ => True
  | ⟨.membershipGetActiveByUserID _ _,r⟩ => ∃ row, r = .ok (some row)
  | _ => False

/-- How a call returns. -/
def Returns (seen : List (Event Op.Res)) (_ : Except Error Membership) : Prop :=
  (∃ seen' e, seen = seen' ++ [e] ∧ Settles e) ∧ ¬ Closing seen

theorem ensures_addAssignee {c : Placement} {userID : String} {s : State} (h : c.Valid userID s) :
    (addAssignee background c.teamID c.userID c.addedByUserID).Ensures (Reads s)
      (MayPlace userID) Returns [] := by
  unfold addAssignee
  rw [ensures_failIf_bind]
  refine ⟨fun hblank => ?_,fun _ => ?_⟩
  · obtain hteam | huser | hby := hblank
    · exact (h.team_set hteam).elim
    · exact (h.user_set (h.user ▸ huser)).elim
    · exact (h.addedBy_set hby).elim
  rw [call_bind, ensures_call]
  refine ⟨trivial,fun r hr => ?_⟩
  obtain ⟨team,hteam⟩ := h.team
  obtain rfl : r = .ok team := hr.trans hteam
  rw [fromResult_ok, ret_bind, call_bind, ensures_call]
  refine ⟨trivial,fun now _ => ?_⟩
  rw [ret_bind, call_bind, ensures_call]
  refine ⟨h.user,fun r hr => ?_⟩
  obtain ⟨found,rfl⟩ := hr
  rw [fromResult_ok, ret_bind]
  cases found with
  | none =>
    rw [ensures_call]
    refine ⟨⟨h.user,rfl⟩,fun r hr => ?_⟩
    obtain ⟨row,rfl⟩ := hr
    rw [ensures_fromResult]
    refine ⟨⟨_,_,rfl,trivial⟩,?_⟩
    rintro ⟨_,hopens⟩
    simp [Op.opens] at hopens
  | some existing =>
    dsimp only
    split_ifs with hsame
    · rw [pure_eq, ensures_ret]
      refine ⟨⟨_,_,rfl,existing,rfl⟩,?_⟩
      rintro ⟨hcloses,_⟩
      simp [Op.closes] at hcloses
    · rw [call_bind, ensures_call]
      refine ⟨⟨by simp,by simp [Op.opens, Op.closes],background,existing,?_,rfl⟩,fun r hr => ?_⟩
      · rw [← h.user]
        simp
      · obtain rfl := hr ⟨background,trimSpace c.userID,existing,by simp,rfl⟩
        rw [fromResult_ok, ret_bind, ensures_call]
        refine ⟨⟨h.user,rfl⟩,fun r hr => ?_⟩
        obtain ⟨row,rfl⟩ := hr
        rw [ensures_fromResult]
        refine ⟨⟨_,_,rfl,trivial⟩,?_⟩
        rintro ⟨_,hopens⟩
        simp [Op.opens] at hopens

section Store
variable {op : Op} {s t : State} {r : op.Res} {userID : String}

/-- A row that has an id keeps it. -/
lemma Answers.ids (h : Answers op s r t) {id : String}
    (hid : id ∈ s.memberships.entries.map (·.id)) : id ∈ t.memberships.entries.map (·.id) := by
  obtain ⟨now,h⟩ := h
  obtain rfl : (exec now op s).2 = t := congrArg Prod.snd h
  cases op with
  | membershipCreate ctx row =>
    simp only [exec, MemoryMembershipStore.entries_create, List.map_append]
    exact List.mem_append_left _ hid
  | membershipUpdate ctx row =>
    simp only [exec, MemoryMembershipStore.update]
    split
    · rename_i entries hentries
      rw [map_key_of_replaceFirst _ _ hentries]
      exact hid
    · exact hid
  | _ => exact hid

lemma Answers.teams (h : Answers op s r t) (hmay : ∀ ctx team, op ≠ .teamCreate ctx team) :
    t.teams = s.teams := by
  obtain ⟨now,h⟩ := h
  obtain rfl : (exec now op s).2 = t := congrArg Prod.snd h
  cases op with
  | teamCreate ctx team => exact (hmay ctx team rfl).elim
  | _ => rfl

/-- Opening a row adds one to the open ones. -/
lemma Answers.opens {ctx : Context} {row : Membership} {r}
    (h : Answers (.membershipCreate ctx row) s r t) (huser : row.userID = userID)
    (hopen : row.removedAt = none) :
    (t.active userID).length = (s.active userID).length + 1 := by
  obtain ⟨now,h⟩ := h
  obtain rfl : (exec now (.membershipCreate ctx row) s).2 = t := congrArg Prod.snd h
  simp only [exec]
  rw [active_concat (s.memberships.entries_create row) (by simpa using hopen), if_pos huser,
    List.length_append, ← State.active, List.length_singleton]

/-- Closing a row takes at most one from the open ones. -/
lemma Answers.closes (userID : String) {ctx : Context} {row : Membership} {r}
    (h : Answers (.membershipUpdate ctx row) s r t)
    (hid : row.id ∈ s.memberships.entries.map (·.id)) (hclosed : row.removedAt ≠ none) :
    (s.active userID).length ≤ (t.active userID).length + 1 ∧
      (t.active userID).length ≤ (s.active userID).length := by
  obtain ⟨now,h⟩ := h
  obtain rfl : (exec now (.membershipUpdate ctx row) s).2 = t := congrArg Prod.snd h
  have hactive : (exec now (.membershipUpdate ctx row) s).2.active userID =
      (s.active userID).filter fun e => ¬ e.id = row.id := by
    simp only [exec, State.active, (s.memberships.update_eq row hid).2]
    exact filter_close hclosed _ userID _
  have hnodup : ((s.active userID).map (·.id)).Nodup :=
    s.memberships.ids_nodup.sublist (List.filter_sublist.map _)
  have hone := List.nodup_iff_count_le_one.mp hnodup row.id
  rw [List.count, List.countP_map] at hone
  have hsplit := List.length_eq_countP_add_countP (l := s.active userID)
    ((· == row.id) ∘ (·.id))
  rw [hactive, ← List.countP_eq_length_filter]
  refine ⟨?_,List.countP_le_length⟩
  simp only [Function.comp_def, beq_iff_eq, decide_not] at *
  omega

/-- Nothing else changes the open rows. -/
lemma Answers.active_eq (h : Answers op s r t) (hopens : op.opens = false)
    (hcloses : op.closes = false) : t.active userID = s.active userID := by
  obtain ⟨now,h⟩ := h
  obtain rfl : (exec now op s).2 = t := congrArg Prod.snd h
  cases op with
  | membershipCreate => cases hopens
  | membershipUpdate => cases hcloses
  | _ => rfl

/-- An answer is as the call reads it. -/
lemma Answers.reads {s₀ : State} {seen : List (Event Op.Res)} (h : Answers op s r t)
    (hteams : s.teams = s₀.teams) (hknown : ∀ ctx userID found,
      ⟨.membershipGetActiveByUserID ctx userID,.ok (some found)⟩ ∈ seen →
        found.id ∈ s.memberships.entries.map (·.id)) : Reads s₀ seen ⟨op,r⟩ := by
  obtain ⟨now,h⟩ := h
  obtain rfl : (exec now op s).1 = r := congrArg Prod.fst h
  cases op with
  | teamGetByID ctx id => exact congrArg (·.getByID id) hteams
  | membershipGetActiveByUserID ctx userID => exact ⟨_,rfl⟩
  | membershipCreate ctx row => exact ⟨_,rfl⟩
  | membershipUpdate ctx row =>
    rintro ⟨ctx',userID,found,hfound,hid⟩
    exact (s.memberships.update_eq row (hid ▸ hknown ctx' userID found hfound)).1
  | _ => trivial

/-- What a lookup finds is open. -/
lemma Answers.found {ctx : Context} {found : Membership}
    (h : Answers (.membershipGetActiveByUserID ctx userID) s (.ok (some found)) t) :
    found ∈ t.active userID := by
  obtain ⟨now,h⟩ := h
  obtain ⟨hfind,rfl⟩ := Prod.mk.inj h
  have hfind := Except.ok.inj hfind
  rw [State.mem_active]
  exact ⟨List.mem_of_find?_eq_some hfind,by simpa using List.find?_some hfind⟩

end Store

/-- The calls under way, with what they know of the stores. -/
structure Going {ι : Type} (userID : String) (s : State) (p : Placements ι) : Prop where
  teams : p.state.teams = s.teams
  threads : ∀ i, (p.thread i).Ensures (Reads s) (MayPlace userID) Returns (p.seen i)
  known : ∀ i ctx user found,
    ⟨.membershipGetActiveByUserID ctx user,.ok (some found)⟩ ∈ p.seen i →
      found.id ∈ p.state.memberships.entries.map (·.id)

section Run
variable {ι : Type} {userID : String} {s : State} {p q : Placements ι} {l : ι × Event Op.Res}
  {calls : ι → Placement} {ls : List (ι × Event Op.Res)}

lemma begin_going (hvalid : ∀ i, (calls i).Valid userID s) : Going userID s (begin calls s) where
  teams := rfl
  threads i := ensures_addAssignee (hvalid i)
  known := by simp [begin, Pool.start]

/-- There are, or once the calls have opened the rows they owe will be, `n` open rows. -/
def Owes (userID : String) (n : ℕ) (p : Placements ι) : Prop :=
  ∃ closing : Finset ι, (∀ i ∈ closing, Closing (p.seen i)) ∧
    n ≤ (p.state.active userID).length + closing.card

lemma Closing.concat {seen : List (Event Op.Res)} {e : Event Op.Res} (h : Closing seen)
    (he : e.op.opens = false) : Closing (seen ++ [e]) := by
  obtain ⟨⟨e',he',hcloses⟩,hopens⟩ := h
  refine ⟨⟨e',by simp [he'],hcloses⟩,?_⟩
  rw [List.forall_mem_append, List.forall_mem_singleton]
  exact ⟨hopens,he⟩

/-- Once all calls have returned nothing is owed any more. -/
lemma Going.paid {n : ℕ} (hp : Going userID s p) (hreturned : ∀ i, (p.thread i).result ≠ none)
    (howes : Owes userID n p) : n ≤ (p.state.active userID).length := by
  obtain ⟨closing,hclosing,hn⟩ := howes
  obtain rfl : closing = ∅ := by
    refine Finset.eq_empty_of_forall_notMem fun i hi => ?_
    obtain ⟨x,hx⟩ := Option.ne_none_iff_exists'.mp (hreturned i)
    exact ((hp.threads i).result hx).2 (hclosing i hi)
  simpa using hn

variable [DecidableEq ι]

lemma Going.step (hp : Going userID s p) (h : Pool.Step Answers p l q) :
    MayPlace userID (p.seen l.1) l.2.op ∧ Going userID s q := by
  obtain ⟨hmay,hthreads⟩ := h.ensures hp.threads (h.answered.reads hp.teams (hp.known l.1))
  refine ⟨hmay,?_,hthreads,?_⟩
  · rw [h.answered.teams, hp.teams]
    intro ctx team hop
    rw [hop] at hmay
    exact hmay
  · intro i ctx user found hfound
    have hold : ⟨.membershipGetActiveByUserID ctx user,.ok (some found)⟩ ∈ p.seen i ∨
        ⟨.membershipGetActiveByUserID ctx user,.ok (some found)⟩ = l.2 := by
      rw [h.seen, Function.update_apply] at hfound
      split_ifs at hfound with hi
      · subst hi
        simpa using hfound
      · exact .inl hfound
    obtain hold | hnew := hold
    · exact h.answered.ids (hp.known i ctx user found hold)
    · have hanswer := h.answered
      rw [← hnew] at hanswer
      exact List.mem_map_of_mem (State.mem_active.mp hanswer.found).1

/-- A call that returns leaves an open row. -/
lemma Going.settled (hp : Going userID s p) (h : Pool.Step Answers p l q)
    (hreturned : (q.thread l.1).result ≠ none) : 1 ≤ (q.state.active userID).length := by
  obtain ⟨hmay,hq⟩ := hp.step h
  obtain ⟨x,hx⟩ := Option.ne_none_iff_exists'.mp hreturned
  obtain ⟨⟨seen,e,hseen,hsettles⟩,_⟩ := (hq.threads l.1).result hx
  rw [h.seen, Function.update_self] at hseen
  obtain ⟨_,he⟩ := List.append_inj' hseen rfl
  obtain rfl : l.2 = e := List.head_eq_of_cons_eq he
  have hanswer := h.answered
  obtain ⟨i,op,r⟩ := l
  cases op with
  | membershipCreate ctx row =>
    rw [hanswer.opens hmay.1 hmay.2]
    omega
  | membershipGetActiveByUserID ctx user =>
    obtain ⟨row,rfl⟩ := hsettles
    obtain rfl : user = userID := hmay
    exact List.length_pos_of_mem hanswer.found
  | _ => exact hsettles.elim

/-- The step lemma: what is owed stays owed until it is there. -/
lemma Owes.step {n : ℕ} (howes : Owes userID n p) (hp : Going userID s p)
    (h : Pool.Step Answers p l q) : Owes userID n q := by
  obtain ⟨closing,hclosing,hn⟩ := howes
  have hmay := (hp.step h).1
  have hanswer := h.answered
  have hother : ∀ i, i ≠ l.1 → q.seen i = p.seen i := fun i hi => by
    rw [h.seen, Function.update_of_ne hi]
  have hself : q.seen l.1 = p.seen l.1 ++ [l.2] := by rw [h.seen, Function.update_self]
  cases hopens : l.2.op.opens with
  | true =>
    refine ⟨closing.erase l.1,fun i hi => ?_,?_⟩
    · rw [hother i (Finset.ne_of_mem_erase hi)]
      exact hclosing i (Finset.mem_of_mem_erase hi)
    · have hcard := Finset.pred_card_le_card_erase (s := closing) (a := l.1)
      obtain ⟨i,op,r⟩ := l
      cases op with
      | membershipCreate ctx row =>
        rw [hanswer.opens hmay.1 hmay.2]
        omega
      | _ => cases hopens
  | false =>
    cases hcloses : l.2.op.closes with
    | true =>
      obtain ⟨i,op,r⟩ := l
      cases op with
      | membershipUpdate ctx row =>
        obtain ⟨hclosed,hfirst,ctx',found,hfound,hid⟩ := hmay
        have hi : i ∉ closing := by
          intro hi
          obtain ⟨e,he,hcloses⟩ := (hclosing i hi).1
          rw [(hfirst e he).2] at hcloses
          cases hcloses
        refine ⟨insert i closing,?_,?_⟩
        · rw [Finset.forall_mem_insert]
          refine ⟨?_,fun j hj => ?_⟩
          · rw [hself]
            refine ⟨⟨_,by simp,hcloses⟩,?_⟩
            rw [List.forall_mem_append, List.forall_mem_singleton]
            exact ⟨fun e he => (hfirst e he).1,hopens⟩
          · rw [hother j (ne_of_mem_of_not_mem hj hi)]
            exact hclosing j hj
        · rw [Finset.card_insert_of_notMem hi]
          have := (hanswer.closes userID (hid ▸ hp.known i ctx' userID found hfound)
            hclosed).1
          omega
      | _ => cases hcloses
    | false =>
      refine ⟨closing,fun i hi => ?_,?_⟩
      · by_cases hil : i = l.1
        · subst hil
          rw [hself]
          exact (hclosing _ hi).concat hopens
        · rw [hother i hil]
          exact hclosing i hi
      · rw [hanswer.active_eq hopens hcloses]
        exact hn

/-- A row opened beside an open one makes two. -/
lemma Going.crowded (hp : Going userID s p) (h : Pool.Step Answers p l q)
    (hbeside : ¬ Vacant userID p l) : Owes userID 2 q := by
  have hmay := (hp.step h).1
  have hanswer := h.answered
  rw [Vacant, Classical.not_imp, ← ne_eq, ← List.length_pos_iff] at hbeside
  obtain ⟨hopens,hopen⟩ := hbeside
  refine ⟨∅,by simp,?_⟩
  obtain ⟨i,op,r⟩ := l
  cases op with
  | membershipCreate ctx row =>
    rw [hanswer.opens hmay.1 hmay.2]
    omega
  | _ => cases hopens

/-- A row opened where there was none is the only one. -/
lemma Going.single (hp : Going userID s p) (h : Pool.Step Answers p l q)
    (hvacant : Vacant userID p l) (hone : (p.state.active userID).length ≤ 1) :
    (q.state.active userID).length ≤ 1 := by
  have hmay := (hp.step h).1
  have hanswer := h.answered
  obtain ⟨i,op,r⟩ := l
  cases op with
  | membershipCreate ctx row =>
    rw [hanswer.opens hmay.1 hmay.2, hvacant rfl, List.length_nil]
  | membershipUpdate ctx row =>
    obtain ⟨hclosed,_,ctx',found,hfound,hid⟩ := hmay
    exact (hanswer.closes userID (hid ▸ hp.known i ctx' userID found hfound) hclosed).2.trans hone
  | _ =>
    rw [hanswer.active_eq rfl rfl]
    exact hone

lemma run_going (hvalid : ∀ i, (calls i).Valid userID s)
    (h : Trace (Pool.Step Answers) (begin calls s) ls p) : Going userID s p :=
  h.inv (I := fun _ p => Going userID s p) (begin_going hvalid) fun _ _ _ _ hp hstep =>
    (hp.step hstep).2

/-- A user has an open row once all calls have returned. -/
lemma open_of_returned [Nonempty ι] (hvalid : ∀ i, (calls i).Valid userID s)
    (h : Trace (Pool.Step Answers) (begin calls s) ls p)
    (hreturned : ∀ i, (p.thread i).result ≠ none) : 1 ≤ (p.state.active userID).length := by
  cases h with
  | nil =>
    obtain ⟨i⟩ := ‹Nonempty ι›
    obtain ⟨x,hx⟩ := Option.ne_none_iff_exists'.mp (hreturned i)
    obtain ⟨⟨seen,e,hseen,_⟩,_⟩ := ((begin_going hvalid).threads i).result hx
    simp [begin, Pool.start] at hseen
  | snoc htrace hstep => exact (run_going hvalid htrace).settled hstep (hreturned _)

/-- A run opens no row beside an open one, or it owes two. -/
lemma vacant_or_owes (hvalid : ∀ i, (calls i).Valid userID s)
    (h : Trace (Pool.Step Answers) (begin calls s) ls p) :
    Trace (fun p l q => Pool.Step Answers p l q ∧ Vacant userID p l) (begin calls s) ls p ∨
      Owes userID 2 p := by
  induction h with
  | nil => exact .inl .nil
  | @snoc p q ls l htrace hstep ih =>
    have hp := run_going hvalid htrace
    obtain hvacant | howes := ih
    · by_cases hl : Vacant userID p l
      · exact .inl (hvacant.snoc ⟨hstep,hl⟩)
      · exact .inr (hp.crowded hstep hl)
    · exact .inr (howes.step hp hstep)

/-- Once all calls for a user have returned there is one open row exactly if there were not two
before and no call has opened one beside an open one. -/
theorem one_open_membership_iff [Nonempty ι] (hvalid : ∀ i, (calls i).Valid userID s)
    (h : Trace (Pool.Step Answers) (begin calls s) ls p)
    (hreturned : ∀ i, (p.thread i).result ≠ none) :
    (p.state.active userID).length = 1 ↔ (s.active userID).length ≤ 1 ∧
      Trace (fun p l q => Pool.Step Answers p l q ∧ Vacant userID p l) (begin calls s) ls p := by
  have hsome := open_of_returned hvalid h hreturned
  have hpaid : ∀ n, Owes userID n p → n ≤ (p.state.active userID).length := fun n =>
    (run_going hvalid h).paid hreturned
  constructor
  · intro hone
    refine ⟨?_,(vacant_or_owes hvalid h).resolve_right fun howes => ?_⟩
    · have hkept : Owes userID (s.active userID).length p :=
        (h.inv (I := fun _ p => Going userID s p ∧ Owes userID (s.active userID).length p)
          ⟨begin_going hvalid,∅,by simp,by simp [begin, Pool.start]⟩
          fun _ _ _ _ hp hstep => ⟨(hp.1.step hstep).2,hp.2.step hp.1 hstep⟩).2
      exact hone ▸ hpaid _ hkept
    · have := hpaid 2 howes
      omega
  · rintro ⟨hstart,hvacant⟩
    have hbound : (p.state.active userID).length ≤ 1 :=
      (hvacant.inv (I := fun _ p => Going userID s p ∧ (p.state.active userID).length ≤ 1)
        ⟨begin_going hvalid,hstart⟩
        fun _ _ _ _ hp hstep => ⟨(hp.1.step hstep.1).2,hp.1.single hstep.1 hstep.2 hp.2⟩).2
    omega

end Run

/-- Two calls for one user, to two teams. -/
def rivalPlacements (north : Bool) : Placement :=
  ⟨if north then "team-0001" else "team-0002","ada","root"⟩

/-- The stores once both teams are there. -/
def twoTeams : State :=
  ((State.empty.after 1 (.createTeam "North")).after 2 (.createTeam "South"))

lemma answers_exec (now : Time) (op : Op) (s : State) :
    Answers op s (exec now op s).1 (exec now op s).2 := ⟨now,rfl⟩

lemma rivalPlacements_valid (north : Bool) : (rivalPlacements north).Valid "ada" twoTeams := by
  refine ⟨by cases north <;> decide +kernel,by decide,by cases north <;> decide +kernel,
    by cases north <;> decide +kernel,?_⟩
  have hfound : (twoTeams.teams.getByID (trimSpace (rivalPlacements north).teamID)).toOption.isSome =
      true := by
    cases north <;> decide +kernel
  cases hteam : twoTeams.teams.getByID (trimSpace (rivalPlacements north).teamID) with
  | ok team => exact ⟨team,rfl⟩
  | error err =>
    rw [hteam] at hfound
    cases hfound

/-- One after the other: the second call moves the user. -/
theorem one_open_membership_iff_move :
    ((((begin rivalPlacements twoTeams).play (exec 3) [true,true,true,true,false,false,false,false,
      false]).2.state).active "ada").length = 1 := by
  have hrun := Pool.trace_play (answers_exec 3) (fun p l => decide (Vacant "ada" p l))
    (begin rivalPlacements twoTeams) [true,true,true,true,false,false,false,false,false]
    (by decide +kernel)
  refine (one_open_membership_iff rivalPlacements_valid (hrun.imp fun _ _ _ h => h.1) ?_).mpr
    ⟨by decide +kernel,hrun.imp fun _ _ _ h => ⟨h.1,of_decide_eq_true h.2⟩⟩
  intro i
  rw [← Option.isSome_iff_ne_none]
  cases i <;> decide +kernel

/-- Both calls look before either opens a row. -/
theorem two_open_memberships :
    ¬ ∀ (ι : Type) [DecidableEq ι] [Nonempty ι] (calls : ι → Placement) (userID : String)
      (xs : List Exchange) (s : State) (ls : List (ι × Event Op.Res)) (p : Placements ι),
      Trace Serves .empty xs s → (∀ i, (calls i).Valid userID s) →
      Trace (Pool.Step Answers) (begin calls s) ls p → (∀ i, (p.thread i).result ≠ none) →
      (p.state.active userID).length = 1 := by
  intro h
  let p := (begin rivalPlacements twoTeams).play (exec 3)
    [true,true,true,false,false,false,true,false]
  have hstart : Trace Serves .empty _ twoTeams :=
    (Trace.nil.snoc (l := .of (.createTeam "North",1) _) ⟨rfl,rfl,rfl⟩).snoc
      (l := .of (.createTeam "South",2) _) ⟨rfl,rfl,rfl⟩
  have hrun := (Pool.trace_play (answers_exec 3) (fun _ _ => true)
    (begin rivalPlacements twoTeams) [true,true,true,false,false,false,true,false]
    (Pool.passes_true _ _)).imp fun _ _ _ h => h.1
  have htwo : (p.2.state.active "ada").length = 2 := by decide +kernel
  have hone := h Bool rivalPlacements "ada" _ twoTeams _ p.2 hstart rivalPlacements_valid hrun ?_
  · rw [htwo] at hone
    cases hone
  intro i
  rw [← Option.isSome_iff_ne_none]
  cases i <;> decide +kernel

end OpsPlatform.Teams
