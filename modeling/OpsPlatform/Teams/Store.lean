import Mathlib.Data.List.Range
import Mathlib.Data.List.Nodup
import OpsPlatform.Go.Basic

/-! The rows and the in-memory stores of the teams package. A row is closed by setting
`removedAt`, never deleted. -/
namespace OpsPlatform.Teams
open OpsPlatform.Go

def errInvalidInput : Error := ⟨"invalid team input"⟩
def errNotFound : Error := ⟨"team not found"⟩
def errNotSupervisor : Error := ⟨"user is not an active supervisor of this team"⟩

structure Team where
  id : String
  name : String
  createdAt : Time
  deriving DecidableEq, Repr

structure Membership where
  id : String
  teamID : String
  userID : String
  addedByUserID : String
  addedAt : Time
  removedAt : Option Time
  deriving DecidableEq, Repr

structure Supervision where
  id : String
  teamID : String
  userID : String
  addedByUserID : String
  addedAt : Time
  removedAt : Option Time
  deriving DecidableEq, Repr

/-- The loop of the two `Update` methods: overwrite the first entry with the id of `row`. -/
def replaceFirst {α : Type} (key : α → String) (row : α) : List α → Option (List α)
  | [] => none
  | entry :: rest =>
    if key entry = key row then some (row :: rest)
    else (replaceFirst key row rest).map (entry :: ·)

/-- Where keys are unique the loop changes exactly the entry it is meant for. -/
theorem replaceFirst_eq {α : Type} (key : α → String) (row : α) {l : List α}
    (hnodup : (l.map key).Nodup) (hmem : key row ∈ l.map key) :
    replaceFirst key row l = some (l.map fun e => if key e = key row then row else e) := by
  induction l with
  | nil => simp at hmem
  | cons e l ih =>
    rw [List.map_cons, List.nodup_cons] at hnodup
    rw [replaceFirst, List.map_cons]
    split_ifs with he
    · have hrest : l.map (fun e' => if key e' = key row then row else e') = l.map id := by
        apply List.map_congr_left
        intro e' he'
        refine if_neg fun heq => hnodup.1 ?_
        rw [he, ← heq]
        exact List.mem_map_of_mem he'
      rw [hrest, List.map_id]
    · have hrest : key row ∈ l.map key := by
        rw [List.map_cons, List.mem_cons] at hmem
        exact hmem.resolve_left (Ne.symm he)
      rw [ih hnodup.2 hrest, Option.map_some]

/-- The loop never changes the keys. -/
theorem map_key_of_replaceFirst {α : Type} (key : α → String) (row : α) {l l' : List α}
    (h : replaceFirst key row l = some l') : l'.map key = l.map key := by
  induction l generalizing l' with
  | nil => simp [replaceFirst] at h
  | cons e l ih =>
    rw [replaceFirst] at h
    split_ifs at h with he
    · cases h
      simp [he]
    · obtain ⟨l'',hl'',rfl⟩ := Option.map_eq_some_iff.mp h
      simp [ih hl'']

/-- What an `Update` comes to that runs the loop over rows one of which has the key. -/
lemma overwritten_of_mem {Row S : Type} {key : Row → String} {row : Row} {rows : List Row}
    {entries : S → List Row} {x : Except Error Row × S} (hnodup : (rows.map key).Nodup)
    (hmem : key row ∈ rows.map key)
    (hx : (∃ l, replaceFirst key row rows = some l ∧ x.1 = .ok row ∧ entries x.2 = l) ∨
      replaceFirst key row rows = none) :
    x.1 = .ok row ∧ entries x.2 = rows.map fun e => if key e = key row then row else e := by
  have hreplace := replaceFirst_eq key row hnodup hmem
  obtain ⟨l,hl,hok,hentries⟩ | hnone := hx
  · exact ⟨hok,hentries.trans (Option.some.inj (hl.symm.trans hreplace))⟩
  · rw [hnone] at hreplace
    cases hreplace

structure MemoryStore where
  seq : ℕ
  teams : List Team

namespace MemoryStore

def new : MemoryStore := ⟨0,[]⟩

def create (s : MemoryStore) (team : Team) : Except Error Team × MemoryStore :=
  let row := { team with id := sprintf04d "team-" (s.seq+1) }
  (.ok row, ⟨s.seq+1,s.teams ++ [row]⟩)

def getByID (s : MemoryStore) (id : String) : Except Error Team :=
  match s.teams.find? fun team => team.id = id with
  | some team => .ok team
  | none => .error errNotFound

end MemoryStore

/-- The id `Create` gives to the membership numbered `n`. -/
def membershipID (n : ℕ) : String := sprintf04d "teammembership-" n

structure MemoryMembershipStore where
  seq : ℕ
  entries : List Membership
  /-- The entries are the rows ever created, in the order of their numbers. -/
  numbered : entries.map (·.id) = (List.range' 1 seq).map membershipID

namespace MemoryMembershipStore

def new : MemoryMembershipStore := ⟨0,[],rfl⟩

theorem ids_nodup (s : MemoryMembershipStore) : (s.entries.map (·.id)).Nodup := by
  rw [s.numbered]
  exact List.Nodup.map (sprintf04d_injective _) List.nodup_range'

def create (s : MemoryMembershipStore) (membership : Membership) :
    Except Error Membership × MemoryMembershipStore :=
  let row := { membership with id := membershipID (s.seq+1) }
  (.ok row, {
    seq := s.seq+1
    entries := s.entries ++ [row]
    numbered := by
      rw [List.map_append, s.numbered, List.range'_1_concat, List.map_append]
      simp [row, Nat.add_comm] })

@[simp] theorem create_fst (s : MemoryMembershipStore) (row : Membership) :
    (s.create row).1 = .ok { row with id := membershipID (s.seq+1) } := rfl

@[simp] theorem entries_create (s : MemoryMembershipStore) (row : Membership) :
    (s.create row).2.entries = s.entries ++ [{ row with id := membershipID (s.seq+1) }] := rfl

def update (s : MemoryMembershipStore) (membership : Membership) :
    Except Error Membership × MemoryMembershipStore :=
  match h : replaceFirst (·.id) membership s.entries with
  | some entries =>
    (.ok membership, ⟨s.seq,entries,
      (map_key_of_replaceFirst _ _ h).trans s.numbered⟩)
  | none => (.error errNotFound, s)

def getActiveByUserID (s : MemoryMembershipStore) (userID : String) :
    Except Error (Option Membership) :=
  .ok (s.entries.find? fun entry => entry.userID = userID ∧ entry.removedAt = none)

def listActiveByTeamID (s : MemoryMembershipStore) (teamID : String) :
    Except Error (List Membership) :=
  .ok (s.entries.filter fun entry => entry.teamID = teamID ∧ entry.removedAt = none)

end MemoryMembershipStore

/-- The id `Create` gives to the supervision numbered `n`. -/
def supervisionID (n : ℕ) : String := sprintf04d "teamsupervision-" n

structure MemorySupervisionStore where
  seq : ℕ
  entries : List Supervision
  numbered : entries.map (·.id) = (List.range' 1 seq).map supervisionID

namespace MemorySupervisionStore

def new : MemorySupervisionStore := ⟨0,[],rfl⟩

theorem ids_nodup (s : MemorySupervisionStore) : (s.entries.map (·.id)).Nodup := by
  rw [s.numbered]
  exact List.Nodup.map (sprintf04d_injective _) List.nodup_range'

def create (s : MemorySupervisionStore) (supervision : Supervision) :
    Except Error Supervision × MemorySupervisionStore :=
  let row := { supervision with id := supervisionID (s.seq+1) }
  (.ok row, {
    seq := s.seq+1
    entries := s.entries ++ [row]
    numbered := by
      rw [List.map_append, s.numbered, List.range'_1_concat, List.map_append]
      simp [row, Nat.add_comm] })

@[simp] theorem create_fst (s : MemorySupervisionStore) (row : Supervision) :
    (s.create row).1 = .ok { row with id := supervisionID (s.seq+1) } := rfl

@[simp] theorem entries_create (s : MemorySupervisionStore) (row : Supervision) :
    (s.create row).2.entries = s.entries ++ [{ row with id := supervisionID (s.seq+1) }] := rfl

def update (s : MemorySupervisionStore) (supervision : Supervision) :
    Except Error Supervision × MemorySupervisionStore :=
  match h : replaceFirst (·.id) supervision s.entries with
  | some entries =>
    (.ok supervision, ⟨s.seq,entries,
      (map_key_of_replaceFirst _ _ h).trans s.numbered⟩)
  | none => (.error errNotFound, s)

def listActiveByTeamID (s : MemorySupervisionStore) (teamID : String) :
    Except Error (List Supervision) :=
  .ok (s.entries.filter fun entry => entry.teamID = teamID ∧ entry.removedAt = none)

def listActiveByUserID (s : MemorySupervisionStore) (userID : String) :
    Except Error (List Supervision) :=
  .ok (s.entries.filter fun entry => entry.userID = userID ∧ entry.removedAt = none)

end MemorySupervisionStore
end OpsPlatform.Teams
