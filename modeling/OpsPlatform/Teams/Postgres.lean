import OpsPlatform.Db.Table
import OpsPlatform.Teams.History

/-! The Postgres stores of the teams package. A user has at most one open membership because a
unique index says so, whatever the calls. -/
namespace OpsPlatform.Teams.Postgres
open OpsPlatform.Go OpsPlatform.Db Interaction Program

def teams : Schema Team := ⟨"team-",(·.id),"teams_pkey",[]⟩

/-- The partial index `ON team_memberships (user_id) WHERE removed_at IS NULL`. -/
def oneActivePerUser : UniqueIndex Membership :=
  ⟨"idx_team_memberships_one_active_per_user",(·.userID),fun row => row.removedAt.isNone⟩

def memberships : Schema Membership :=
  ⟨"teammembership-",(·.id),"team_memberships_pkey",[oneActivePerUser]⟩

def supervisions : Schema Supervision := ⟨"teamsupervision-",(·.id),"team_supervisions_pkey",[]⟩

/-- The tables, with their foreign keys. -/
structure Tables where
  teams : Table teams
  memberships : Table memberships
  supervisions : Table supervisions
  membershipTeams : ∀ row ∈ memberships.rows, ∃ team ∈ teams.rows, team.id = row.teamID
  supervisionTeams : ∀ row ∈ supervisions.rows, ∃ team ∈ teams.rows, team.id = row.teamID

/-- An error of a `QueryRow`, as the scan function wraps it. -/
def scanned {α : Type} (text : String) (x : Except Error α) : Except Error α :=
  x.mapError fun err => ⟨text ++ err.text⟩

namespace Tables
variable (timestamptz : Time → Time) (d : Tables)

def empty : Tables := ⟨.empty,.empty,.empty,by simp [Table.empty],by simp [Table.empty]⟩

/-- `PostgresStore.Create`; `timestamptz` is what a column of that type keeps of an instant. -/
def createTeam (team : Team) : Except Error Team × Tables :=
  let inserted := d.teams.insert
    (fun id => { team with id, createdAt := timestamptz team.createdAt }) fun _ => rfl
  (scanned "teams: scan: " inserted.1,
    { d with
      teams := inserted.2
      membershipTeams row hrow := by
        obtain ⟨team,hteam,hid⟩ := d.membershipTeams row hrow
        exact ⟨team,d.teams.mem_insert hteam,hid⟩
      supervisionTeams row hrow := by
        obtain ⟨team,hteam,hid⟩ := d.supervisionTeams row hrow
        exact ⟨team,d.teams.mem_insert hteam,hid⟩ })

/-- `PostgresStore.GetByID`. -/
def getTeam (id : String) : Except Error Team :=
  match d.teams.rows.find? fun team => team.id = id with
  | some team => .ok team
  | none => .error errNotFound

/-- `PostgresMembershipStore.Create`: the index is checked with the row, the foreign key after it. -/
def createMembership (membership : Membership) : Except Error Membership × Tables :=
  let inserted := d.memberships.insert
    (fun id => { membership with
      id, addedAt := timestamptz membership.addedAt
      removedAt := membership.removedAt.map timestamptz }) fun _ => rfl
  if h : ∃ team ∈ d.teams.rows, team.id = membership.teamID then
    (scanned "teams: scan membership: " inserted.1,
      { d with
        memberships := inserted.2
        membershipTeams row hrow := by
          obtain hrow | ⟨id,rfl⟩ := d.memberships.mem_of_insert hrow
          · exact d.membershipTeams row hrow
          · exact h })
  else
    (scanned "teams: scan membership: " (inserted.1.bind fun _ => .error
        (Sql.foreignKeyViolation "team_memberships" "team_memberships_team_id_fkey")),
      { d with memberships := d.memberships.skip, membershipTeams := d.membershipTeams })

/-- `PostgresMembershipStore.Update`: nothing but `removed_at` is written. -/
def updateMembership (membership : Membership) : Except Error Membership × Tables :=
  let updated := d.memberships.update membership.id
    (fun row => { row with removedAt := membership.removedAt.map timestamptz }) fun _ => rfl
  (scanned "teams: scan membership: " updated.1 >>= fun
      | some row => .ok row
      | none => .error errNotFound,
    { d with
      memberships := updated.2
      membershipTeams row hrow := by
        obtain ⟨old,hold,rfl | rfl⟩ := d.memberships.mem_of_update hrow
        · exact d.membershipTeams _ hold
        · exact d.membershipTeams old hold })

/-- `PostgresSupervisionStore.Create`. -/
def createSupervision (supervision : Supervision) : Except Error Supervision × Tables :=
  let inserted := d.supervisions.insert
    (fun id => { supervision with
      id, addedAt := timestamptz supervision.addedAt
      removedAt := supervision.removedAt.map timestamptz }) fun _ => rfl
  if h : ∃ team ∈ d.teams.rows, team.id = supervision.teamID then
    (scanned "teams: scan supervision: " inserted.1,
      { d with
        supervisions := inserted.2
        supervisionTeams row hrow := by
          obtain hrow | ⟨id,rfl⟩ := d.supervisions.mem_of_insert hrow
          · exact d.supervisionTeams row hrow
          · exact h })
  else
    (scanned "teams: scan supervision: " (inserted.1.bind fun _ => .error
        (Sql.foreignKeyViolation "team_supervisions" "team_supervisions_team_id_fkey")),
      { d with supervisions := d.supervisions.skip, supervisionTeams := d.supervisionTeams })

/-- `PostgresSupervisionStore.Update`. -/
def updateSupervision (supervision : Supervision) : Except Error Supervision × Tables :=
  let updated := d.supervisions.update supervision.id
    (fun row => { row with removedAt := supervision.removedAt.map timestamptz }) fun _ => rfl
  (scanned "teams: scan supervision: " updated.1 >>= fun
      | some row => .ok row
      | none => .error errNotFound,
    { d with
      supervisions := updated.2
      supervisionTeams row hrow := by
        obtain ⟨old,hold,rfl | rfl⟩ := d.supervisions.mem_of_update hrow
        · exact d.supervisionTeams _ hold
        · exact d.supervisionTeams old hold })

/-- The open memberships of a user. -/
def active (userID : String) : List Membership :=
  d.memberships.rows.filter fun row => row.userID = userID ∧ row.removedAt = none

def activeMembers (teamID : String) : List Membership :=
  d.memberships.rows.filter fun row => row.teamID = teamID ∧ row.removedAt = none

def activeSupervisors (teamID : String) : List Supervision :=
  d.supervisions.rows.filter fun row => row.teamID = teamID ∧ row.removedAt = none

def activeSupervisions (userID : String) : List Supervision :=
  d.supervisions.rows.filter fun row => row.userID = userID ∧ row.removedAt = none

end Tables

/-- What the stores answer under a clock that may show the given times. A `SELECT` returns its rows
in any order, and `QueryRow` reads any of them. -/
def Answers (timestamptz : Time → Time) (clock : Time → Prop) :
    (op : Op) → Tables → op.Res → Tables → Prop
  | .teamCreate _ team, d, r, d' => d.createTeam timestamptz team = (r,d')
  | .teamGetByID _ id, d, r, d' => d.getTeam id = r ∧ d' = d
  | .membershipCreate _ row, d, r, d' => d.createMembership timestamptz row = (r,d')
  | .membershipUpdate _ row, d, r, d' => d.updateMembership timestamptz row = (r,d')
  | .membershipGetActiveByUserID _ userID, d, r, d' =>
    ((d.active userID = [] ∧ r = .ok none) ∨ ∃ row ∈ d.active userID, r = .ok (some row)) ∧ d' = d
  | .membershipListActiveByTeamID _ teamID, d, r, d' =>
    (∃ rows, r = .ok rows ∧ rows.Perm (d.activeMembers teamID)) ∧ d' = d
  | .supervisionCreate _ row, d, r, d' => d.createSupervision timestamptz row = (r,d')
  | .supervisionUpdate _ row, d, r, d' => d.updateSupervision timestamptz row = (r,d')
  | .supervisionListActiveByTeamID _ teamID, d, r, d' =>
    (∃ rows, r = .ok rows ∧ rows.Perm (d.activeSupervisors teamID)) ∧ d' = d
  | .supervisionListActiveByUserID _ userID, d, r, d' =>
    (∃ rows, r = .ok rows ∧ rows.Perm (d.activeSupervisions userID)) ∧ d' = d
  | .now, d, r, d' => clock r ∧ d' = d

/-- Rows in the order of the table. -/
def exec (timestamptz : Time → Time) (now : Time) : (op : Op) → Tables → op.Res × Tables
  | .teamCreate _ team, d => d.createTeam timestamptz team
  | .teamGetByID _ id, d => (d.getTeam id,d)
  | .membershipCreate _ row, d => d.createMembership timestamptz row
  | .membershipUpdate _ row, d => d.updateMembership timestamptz row
  | .membershipGetActiveByUserID _ userID, d => (.ok (d.active userID).head?,d)
  | .membershipListActiveByTeamID _ teamID, d => (.ok (d.activeMembers teamID),d)
  | .supervisionCreate _ row, d => d.createSupervision timestamptz row
  | .supervisionUpdate _ row, d => d.updateSupervision timestamptz row
  | .supervisionListActiveByTeamID _ teamID, d => (.ok (d.activeSupervisors teamID),d)
  | .supervisionListActiveByUserID _ userID, d => (.ok (d.activeSupervisions userID),d)
  | .now, d => (now,d)

lemma answers_exec (timestamptz : Time → Time) (clock : Time → Prop) (now : Time) (hnow : clock now)
    (op : Op) (d : Tables) : Answers timestamptz clock op d (exec timestamptz now op d).1
      (exec timestamptz now op d).2 := by
  cases op with
  | membershipGetActiveByUserID ctx userID =>
    refine ⟨?_,rfl⟩
    cases hactive : d.active userID with
    | nil => exact .inl ⟨rfl,by simp [exec, hactive]⟩
    | cons row rows => exact .inr ⟨row,List.mem_cons_self,by simp [exec, hactive]⟩
  | membershipListActiveByTeamID | supervisionListActiveByTeamID | supervisionListActiveByUserID =>
    exact ⟨⟨_,rfl,.refl _⟩,rfl⟩
  | now => exact ⟨hnow,rfl⟩
  | teamGetByID => exact ⟨rfl,rfl⟩
  | _ => rfl

/-- What a caller hears whose membership the index refuses. -/
def errTaken : Error :=
  ⟨"teams: scan membership: " ++ (Sql.uniqueViolation oneActivePerUser.name).text⟩

section Statements
variable (timestamptz : Time → Time) (d : Tables) {userID : String}

lemma mem_active {row : Membership} :
    row ∈ d.active userID ↔ row ∈ d.memberships.rows ∧ row.userID = userID ∧ row.removedAt = none := by
  simp [Tables.active]

/-- What the index says. -/
lemma active_eq_singleton {row : Membership} (hrow : row ∈ d.active userID) :
    d.active userID = [row] := by
  have hnodup : (d.active userID).Nodup :=
    (List.Nodup.of_map _ d.memberships.ids_nodup).filter _
  have hall : ∀ other ∈ d.active userID, other = row := by
    intro other hother
    obtain ⟨hmem,huser,hopen⟩ := (mem_active d).mp hrow
    obtain ⟨hmem',huser',hopen'⟩ := (mem_active d).mp hother
    refine UniqueIndex.Holds.eq (d.memberships.holds oneActivePerUser ?_) hmem' hmem ?_ ?_ ?_
    · simp [Schema.unique, memberships]
    · simp [oneActivePerUser, hopen']
    · simp [oneActivePerUser, hopen]
    · exact huser'.trans huser.symm
  refine List.perm_singleton.mp ?_
  rw [List.perm_ext_iff_of_nodup hnodup (List.nodup_singleton row)]
  intro other
  rw [List.mem_singleton]
  exact ⟨hall other,fun h => h ▸ hrow⟩

lemma exists_team {d : Tables} {id : String} {team : Team} (h : d.getTeam id = .ok team) :
    ∃ team ∈ d.teams.rows, team.id = id := by
  unfold Tables.getTeam at h
  split at h
  · rename_i team' hfind
    exact ⟨team',List.mem_of_find?_eq_some hfind,by simpa using List.find?_some hfind⟩
  · cases h

lemma active_of_rows {d d' : Tables} (h : d'.memberships.rows = d.memberships.rows) : d'.active userID = d.active userID := by
  rw [Tables.active, Tables.active, h]

/-- A row that was opened where there was none. -/
lemma mem_active_concat {d d' : Tables} {row old : Membership} (hrows : d'.memberships.rows = d.memberships.rows ++ [row])
    (hfree : d.active userID = []) (hold : old ∈ d'.active userID) : old = row := by
  obtain ⟨hmem,huser,hopen⟩ := (mem_active d').mp hold
  rw [hrows, List.mem_append, List.mem_singleton] at hmem
  refine hmem.resolve_left fun hmem => ?_
  have := (mem_active d).mpr ⟨hmem,huser,hopen⟩
  rw [hfree] at this
  cases this

/-- What is still open after a row was closed. -/
lemma mem_active_close {d d' : Tables} {id : String} {now : Time} {old : Membership}
    (hrows : d'.memberships.rows = d.memberships.rows.map fun row =>
      if row.id = id then row.close now else row) (hold : old ∈ d'.active userID) :
    old ∈ d.active userID ∧ old.id ≠ id := by
  obtain ⟨hmem,huser,hopen⟩ := (mem_active d').mp hold
  rw [hrows] at hmem
  obtain ⟨row,hrow,rfl⟩ := List.mem_map.mp hmem
  split_ifs at hopen huser ⊢ with hid
  · cases hopen
  · exact ⟨(mem_active d).mpr ⟨hrow,huser,hopen⟩,hid⟩

/-- A statement on the memberships leaves the other tables. -/
structure SetsMemberships (d d' : Tables) (seq : ℕ) (rows : List Membership) : Prop where
  seq : d'.memberships.seq = seq
  rows : d'.memberships.rows = rows
  teams : d'.teams = d.teams
  supervisions : d'.supervisions = d.supervisions

/-- Opening a membership: it is then the only open one of its user, or the index refuses it because
there is one. -/
lemma createMembership_cases {membership : Membership} (hopen : membership.removedAt = none)
    (hteam : ∃ team ∈ d.teams.rows, team.id = membership.teamID) :
    (d.active membership.userID ≠ [] ∧ ∃ d',
      d.createMembership timestamptz membership = (.error errTaken,d') ∧
      SetsMemberships d d' (d.memberships.seq+1) d.memberships.rows) ∨
    (d.active membership.userID = [] ∧ ∃ row d', row = { membership with
        id := memberships.number (d.memberships.seq+1)
        addedAt := timestamptz membership.addedAt } ∧
      d.createMembership timestamptz membership = (.ok row,d') ∧
      SetsMemberships d d' (d.memberships.seq+1) (d.memberships.rows ++ [row])) := by
  have hrow : ∀ id, { membership with
      id, addedAt := timestamptz membership.addedAt
      removedAt := membership.removedAt.map timestamptz } = { membership with
        id, addedAt := timestamptz membership.addedAt } := by simp [hopen]
  unfold Tables.createMembership
  rw [dif_pos hteam]
  obtain ⟨ix,hix,_,⟨old,hold,hcovered,hkey⟩,hrefused⟩ | ⟨hfree,u,hseq,hrows,hok⟩ :=
    d.memberships.insert_cases (fun id => { membership with
      id, addedAt := timestamptz membership.addedAt
      removedAt := membership.removedAt.map timestamptz }) fun _ => rfl
  · obtain rfl : ix = oneActivePerUser := List.mem_singleton.mp hix
    refine .inl ⟨?_,_,Prod.ext ?_ rfl,?_,?_,rfl,rfl⟩
    · refine List.ne_nil_of_mem (a := old) ?_
      rw [mem_active]
      exact ⟨hold,hkey,by simpa [oneActivePerUser] using hcovered⟩
    · exact congrArg (fun inserted => scanned "teams: scan membership: " inserted.1) hrefused
    · exact congrArg (fun inserted => inserted.2.seq) hrefused
    · exact congrArg (fun inserted => inserted.2.rows) hrefused
  · refine .inr ⟨?_,_,_,rfl,Prod.ext ?_ rfl,?_,?_,rfl,rfl⟩
    · refine List.eq_nil_iff_forall_not_mem.mpr fun old hold => ?_
      obtain ⟨hmem,huser,hcovered⟩ := (mem_active d).mp hold
      refine hfree oneActivePerUser (List.mem_singleton_self _) ?_ old hmem ?_ huser
      · simp [oneActivePerUser, hopen]
      · simp [oneActivePerUser, hcovered]
    · refine (congrArg (fun inserted => scanned "teams: scan membership: " inserted.1) hok).trans ?_
      rw [hrow]
      rfl
    · exact (congrArg (fun inserted => inserted.2.seq) hok).trans hseq
    · refine (congrArg (fun inserted => inserted.2.rows) hok).trans ?_
      rw [hrows, hrow]

/-- Closing a membership. -/
lemma updateMembership_close {membership : Membership} {now : Time}
    (hclosed : membership.removedAt = some now)
    (hid : ∃ row ∈ d.memberships.rows, row.id = membership.id) :
    ∃ row ∈ d.memberships.rows, ∃ d', row.id = membership.id ∧
      d.updateMembership timestamptz membership = (.ok (row.close (timestamptz now)),d') ∧
      SetsMemberships d d' d.memberships.seq (d.memberships.rows.map fun old =>
        if old.id = membership.id then old.close (timestamptz now) else old) := by
  have hset : (fun row : Membership => { row with removedAt := membership.removedAt.map timestamptz }) =
      Membership.close (timestamptz now) := by
    funext row
    simp [hclosed, Membership.close]
  have hout : ∀ ix ∈ memberships.indexes, ∀ row : Membership,
      ix.covers { row with removedAt := membership.removedAt.map timestamptz } = false := by
    intro ix hix row
    obtain rfl : ix = oneActivePerUser := List.mem_singleton.mp hix
    simp [oneActivePerUser, hclosed]
  obtain ⟨u,hseq,hrows,hok⟩ := d.memberships.update_eq membership.id
    (fun row => { row with removedAt := membership.removedAt.map timestamptz }) (fun _ => rfl) hout
  obtain ⟨row,hfind⟩ : ∃ row, (d.memberships.rows.find? fun row => row.id = membership.id) = some row := by
    rw [← Option.isSome_iff_exists, List.find?_isSome]
    simpa using hid
  refine ⟨row,List.mem_of_find?_eq_some hfind,_,by simpa using List.find?_some hfind,
    Prod.ext ?_ rfl,?_,?_,rfl,rfl⟩
  · dsimp only [Tables.updateMembership]
    rw [hok, show (d.memberships.rows.find? fun row => memberships.id row = membership.id) =
      some row from hfind, hset]
    rfl
  · exact (congrArg (fun updated => updated.2.seq) hok).trans hseq
  · refine (congrArg (fun updated => updated.2.rows) hok).trans (hrows.trans ?_)
    exact congrArg (fun set => d.memberships.rows.map fun old =>
      if old.id = membership.id then set old else old) hset

/-- Without an index beside the primary key nothing is refused. -/
lemma createTeam_eq (team : Team) : ∃ row d', row = { team with
      id := teams.number (d.teams.seq+1), createdAt := timestamptz team.createdAt } ∧
    d.createTeam timestamptz team = (.ok row,d') ∧ d'.teams.seq = d.teams.seq+1 ∧
    d'.teams.rows = d.teams.rows ++ [row] ∧ d'.memberships = d.memberships ∧
    d'.supervisions = d.supervisions := by
  obtain ⟨ix,hix,_⟩ | ⟨_,u,hseq,hrows,hok⟩ := d.teams.insert_cases
    (fun id => { team with id, createdAt := timestamptz team.createdAt }) fun _ => rfl
  · cases hix
  · refine ⟨_,_,rfl,Prod.ext ?_ rfl,?_,?_,rfl,rfl⟩
    · exact congrArg (fun inserted => scanned "teams: scan: " inserted.1) hok
    · exact (congrArg (fun inserted => inserted.2.seq) hok).trans hseq
    · exact (congrArg (fun inserted => inserted.2.rows) hok).trans hrows

lemma createSupervision_eq {supervision : Supervision} (hopen : supervision.removedAt = none)
    (hteam : ∃ team ∈ d.teams.rows, team.id = supervision.teamID) : ∃ row d',
    row = { supervision with
      id := supervisions.number (d.supervisions.seq+1)
      addedAt := timestamptz supervision.addedAt } ∧
    d.createSupervision timestamptz supervision = (.ok row,d') ∧
    d'.supervisions.seq = d.supervisions.seq+1 ∧ d'.supervisions.rows = d.supervisions.rows ++ [row] ∧
    d'.teams = d.teams ∧ d'.memberships = d.memberships := by
  have hrow : ∀ id, { supervision with
      id, addedAt := timestamptz supervision.addedAt
      removedAt := supervision.removedAt.map timestamptz } = { supervision with
        id, addedAt := timestamptz supervision.addedAt } := by simp [hopen]
  unfold Tables.createSupervision
  rw [dif_pos hteam]
  obtain ⟨ix,hix,_⟩ | ⟨_,u,hseq,hrows,hok⟩ := d.supervisions.insert_cases
    (fun id => { supervision with
      id, addedAt := timestamptz supervision.addedAt
      removedAt := supervision.removedAt.map timestamptz }) fun _ => rfl
  · cases hix
  · refine ⟨_,_,rfl,Prod.ext ?_ rfl,?_,?_,rfl,rfl⟩
    · refine (congrArg (fun inserted => scanned "teams: scan supervision: " inserted.1) hok).trans ?_
      rw [hrow]
      rfl
    · exact (congrArg (fun inserted => inserted.2.seq) hok).trans hseq
    · refine (congrArg (fun inserted => inserted.2.rows) hok).trans ?_
      rw [hrows, hrow]

lemma updateSupervision_close {supervision : Supervision} {now : Time}
    (hclosed : supervision.removedAt = some now)
    (hid : ∃ row ∈ d.supervisions.rows, row.id = supervision.id) : ∃ row d',
    d.updateSupervision timestamptz supervision = (.ok row,d') ∧
    d'.supervisions.seq = d.supervisions.seq ∧
    d'.supervisions.rows = (d.supervisions.rows.map fun old =>
      if old.id = supervision.id then old.close (timestamptz now) else old) ∧
    d'.teams = d.teams ∧ d'.memberships = d.memberships := by
  have hset : (fun row : Supervision =>
      { row with removedAt := supervision.removedAt.map timestamptz }) =
      Supervision.close (timestamptz now) := by
    funext row
    simp [hclosed, Supervision.close]
  obtain ⟨u,hseq,hrows,hok⟩ := d.supervisions.update_eq supervision.id
    (fun row => { row with removedAt := supervision.removedAt.map timestamptz }) (fun _ => rfl)
    fun ix hix => (by cases hix)
  obtain ⟨row,hfind⟩ : ∃ row, (d.supervisions.rows.find? fun row => row.id = supervision.id) = some row := by
    rw [← Option.isSome_iff_exists, List.find?_isSome]
    simpa using hid
  refine ⟨row.close (timestamptz now),_,Prod.ext ?_ rfl,?_,?_,rfl,rfl⟩
  · dsimp only [Tables.updateSupervision]
    rw [hok, show (d.supervisions.rows.find? fun row => supervisions.id row = supervision.id) =
      some row from hfind, hset]
    rfl
  · exact (congrArg (fun updated => updated.2.seq) hok).trans hseq
  · refine (congrArg (fun updated => updated.2.rows) hok).trans (hrows.trans ?_)
    exact congrArg (fun set => d.supervisions.rows.map fun old =>
      if old.id = supervision.id then set old else old) hset

end Statements
end OpsPlatform.Teams.Postgres
