import Mathlib.Data.List.Nodup
import OpsPlatform.Auth.Types

/-! The in-memory user store: a slice of rows and a counter, every search taking the first row
that fits. -/
namespace OpsPlatform.Auth
open OpsPlatform.Go

/-- The id `Create` gives to the account numbered `n`. -/
def userID (n : ℕ) : String := sprintf04d "user-" n

theorem userID_injective : Function.Injective userID := sprintf04d_injective _

structure MemoryUserStore where
  seq : ℕ
  users : List User
  deriving DecidableEq

namespace MemoryUserStore

def new : MemoryUserStore := ⟨0,[]⟩

def findByID (s : MemoryUserStore) (id : String) : Option User :=
  s.users.find? fun user => user.id = id

def findByIdentifier (lib : Lib) (s : MemoryUserStore) (identifier : String) : Option User :=
  s.users.find? fun user => user.identifier = normalizeIdentifier lib identifier

def findByGoogleSubjectID (s : MemoryUserStore) (subjectID : String) : Option User :=
  s.users.find? fun user => user.googleSubjectID = some subjectID

/-- An existing row that forbids a new one: same identifier, or same Google subject. -/
def taken (lib : Lib) (user existing : User) : Bool :=
  existing.identifier = normalizeIdentifier lib user.identifier ||
  (existing.googleSubjectID.isSome && existing.googleSubjectID = user.googleSubjectID)

def create (lib : Lib) (s : MemoryUserStore) (user : User) :
    Except Error User × MemoryUserStore :=
  if s.users.any (taken lib user) then (.error errIdentifierTaken,s)
  else
    let row := { user with
      id := userID (s.seq+1), identifier := normalizeIdentifier lib user.identifier }
    (.ok row,⟨s.seq+1,s.users ++ [row]⟩)

/-- The slice with its first row of this id replaced. -/
def replace (id : String) (row : User) : List User → List User
  | [] => []
  | existing :: rest => if existing.id = id then row :: rest else existing :: replace id row rest

def update (s : MemoryUserStore) (user : User) : Except Error User × MemoryUserStore :=
  if (s.findByID user.id).isSome then (.ok user,⟨s.seq,replace user.id user s.users⟩)
  else (.error errUserNotFound,s)

/-- `UpdateAtomic`. The closure also reports what it left in the variables it captures. -/
def updateAtomic {α : Type} (s : MemoryUserStore) (id : String)
    (mutate : User → Except Error (User × α)) : Except Error (User × α) × MemoryUserStore :=
  match s.findByID id with
  | none => (.error errUserNotFound,s)
  | some existing =>
    match mutate existing with
    | .error err => (.error err,s)
    | .ok (updated,found) => (.ok (updated,found),⟨s.seq,replace id updated s.users⟩)

def seed (lib : Lib) (s : MemoryUserStore) (user : User) : MemoryUserStore :=
  if s.users.any fun existing => existing.id = user.id then s
  else ⟨s.seq,s.users ++ [{ user with identifier := normalizeIdentifier lib user.identifier }]⟩

/-- Every account has an id of its own, and the ids still to be issued are free. -/
structure Sound (s : MemoryUserStore) : Prop where
  nodup : (s.users.map (·.id)).Nodup
  unissued : ∀ user ∈ s.users, ∀ n, s.seq < n → user.id ≠ userID n

theorem new_sound : new.Sound := by
  constructor
  · exact List.nodup_nil
  · intro user huser
    cases huser

section Rows
variable {s : MemoryUserStore} {id : String} {user row : User}

lemma id_of_findByID (h : s.findByID id = some user) : user.id = id := by
  simpa using List.find?_some h

lemma mem_of_findByID (h : s.findByID id = some user) : user ∈ s.users :=
  List.mem_of_find?_eq_some h

lemma findByID_of_nodup (h : (s.users.map (·.id)).Nodup) (huser : user ∈ s.users) :
    s.findByID user.id = some user := by
  cases hfind : s.findByID user.id with
  | none =>
    have hnone := List.find?_eq_none.mp hfind user huser
    simp at hnone
  | some found =>
    have hsame := List.inj_on_of_nodup_map h (mem_of_findByID hfind) huser (id_of_findByID hfind)
    rw [hsame]

lemma findByID_of_mem (h : s.Sound) (huser : user ∈ s.users) : s.findByID user.id = some user :=
  findByID_of_nodup h.nodup huser

lemma findByID_of_findByIdentifier {lib : Lib} {identifier : String} (h : s.Sound)
    (hfind : s.findByIdentifier lib identifier = some user) : s.findByID user.id = some user :=
  findByID_of_mem h (List.mem_of_find?_eq_some hfind)

lemma map_id_replace (hrow : row.id = id) (users : List User) :
    (replace id row users).map (·.id) = users.map (·.id) := by
  induction users with
  | nil => rfl
  | cons existing rest ih =>
    unfold replace
    split_ifs with h
    · simp [hrow, h]
    · simp [ih]

lemma mem_replace {users : List User} (h : user ∈ replace id row users) :
    user = row ∨ user ∈ users := by
  induction users with
  | nil => cases h
  | cons existing rest ih =>
    unfold replace at h
    split_ifs at h
    · exact (List.mem_cons.mp h).imp_right (List.mem_cons_of_mem _)
    · obtain rfl | h := List.mem_cons.mp h
      · exact .inr List.mem_cons_self
      · exact (ih h).imp_right (List.mem_cons_of_mem _)

lemma find?_replace (hrow : row.id = id) (users : List User) (k : String) :
    (replace id row users).find? (fun user => decide (user.id = k)) =
      if k = id ∧ (users.find? fun user => decide (user.id = id)).isSome then some row
      else users.find? fun user => decide (user.id = k) := by
  induction users with
  | nil => simp [replace]
  | cons existing rest ih =>
    unfold replace
    by_cases hid : existing.id = id
    · by_cases hk : k = id
      · subst hk; simp [hid, hrow]
      · simp [hid, hrow, hk, Ne.symm hk]
    · by_cases hk : existing.id = k
      · have hne : ¬ k = id := by rw [← hk]; exact hid
        simp [hk, hne]
      · simp [hid, hk, ih]

/-- Replacing a row changes what is found under its own id and nothing else. -/
lemma findByID_replace (hrow : row.id = id) (hfound : s.findByID id = some user) (k : String) :
    findByID ⟨s.seq,replace id row s.users⟩ k = if k = id then some row else s.findByID k := by
  have h := find?_replace hrow s.users k
  have hsome : (s.users.find? fun user => decide (user.id = id)).isSome := by
    change (s.findByID id).isSome
    rw [hfound]; rfl
  simpa [findByID, hsome] using h

/-- A row that replaces itself changes nothing. -/
lemma replace_self (users : List User) (hfound : users.find? (fun user => user.id = id) = some row) :
    MemoryUserStore.replace id row users = users := by
  induction users with
  | nil => rfl
  | cons existing rest ih =>
    unfold MemoryUserStore.replace
    split_ifs with hid
    · rw [List.find?_cons_of_pos (by simpa using hid)] at hfound
      rw [Option.some.inj hfound]
    · rw [List.find?_cons_of_neg (by simpa using hid)] at hfound
      rw [ih hfound]

lemma Sound.replace (h : s.Sound) (hrow : row.id = id) : Sound ⟨s.seq,replace id row s.users⟩ := by
  constructor
  · rw [map_id_replace hrow]
    exact h.nodup
  · intro user huser n hn
    have hmem : user.id ∈ s.users.map (·.id) := by
      rw [← map_id_replace hrow]
      exact List.mem_map_of_mem huser
    obtain ⟨old,hold,hid⟩ := List.mem_map.mp hmem
    rw [← hid]
    exact h.unissued old hold n hn

/-- `Update` fails for an unknown id, and otherwise replaces the row. -/
theorem update_cases (s : MemoryUserStore) (user : User) :
    (s.findByID user.id = none ∧ s.update user = (.error errUserNotFound,s)) ∨
    ∃ old, s.findByID user.id = some old ∧
      s.update user = (.ok user,⟨s.seq,replace user.id user s.users⟩) := by
  unfold update
  cases hfind : s.findByID user.id with
  | none => exact .inl ⟨rfl,if_neg (by simp)⟩
  | some old => exact .inr ⟨old,rfl,if_pos rfl⟩

/-- `UpdateAtomic` with a closure that cannot fail: the found row is replaced by what the closure
makes of it. -/
theorem updateAtomic_cases {α : Type} (s : MemoryUserStore) (id : String)
    (mutate : User → User × α) :
    (s.findByID id = none ∧
      s.updateAtomic id (fun user => .ok (mutate user)) = (.error errUserNotFound,s)) ∨
    ∃ old, s.findByID id = some old ∧
      s.updateAtomic id (fun user => .ok (mutate user)) =
        (.ok (mutate old),⟨s.seq,replace id (mutate old).1 s.users⟩) := by
  unfold updateAtomic
  cases hfind : s.findByID id with
  | none => exact .inl ⟨rfl,rfl⟩
  | some old => exact .inr ⟨old,rfl,rfl⟩

/-- `UpdateAtomic` leaves a row as it was, or the one it names as its closure makes it. -/
lemma findByID_updateAtomic {α : Type} {mutate : User → Except Error (User × α)} {k : String}
    {old new : User} (hid : ∀ user r, mutate user = .ok r → r.1.id = user.id)
    (hold : s.findByID k = some old) (hnew : (s.updateAtomic id mutate).2.findByID k = some new) :
    new = old ∨ k = id ∧ ∃ r, mutate old = .ok r ∧ new = r.1 := by
  have hsame : s.findByID k = some new → new = old := fun h => Option.some.inj (h.symm.trans hold)
  unfold updateAtomic at hnew
  cases hfind : s.findByID id with
  | none =>
    rw [hfind] at hnew
    exact .inl (hsame hnew)
  | some row =>
    rw [hfind] at hnew
    dsimp only at hnew
    cases hr : mutate row with
    | error err =>
      rw [hr] at hnew
      exact .inl (hsame hnew)
    | ok r =>
      rw [hr] at hnew
      dsimp only at hnew
      rw [findByID_replace ((hid row r hr).trans (id_of_findByID hfind)) hfind] at hnew
      split_ifs at hnew with heq
      · subst heq
        cases hfind.symm.trans hold
        exact .inr ⟨rfl,r,hr,(Option.some.inj hnew).symm⟩
      · exact .inl (hsame hnew)

/-- `Create` refuses, or appends the row under the next id. -/
theorem create_cases (lib : Lib) (s : MemoryUserStore) (user : User) :
    s.create lib user = (.error errIdentifierTaken,s) ∨
    ∃ row, row = { user with
        id := userID (s.seq+1), identifier := normalizeIdentifier lib user.identifier } ∧
      s.create lib user = (.ok row,⟨s.seq+1,s.users ++ [row]⟩) := by
  unfold create
  split_ifs
  · exact .inl rfl
  · exact .inr ⟨_,rfl,rfl⟩

lemma findByID_next (h : s.Sound) : s.findByID (userID (s.seq+1)) = none := by
  cases hfind : s.findByID (userID (s.seq+1)) with
  | none => rfl
  | some user =>
    exact (h.unissued user (mem_of_findByID hfind) _ (Nat.lt_succ_self _)
      (id_of_findByID hfind)).elim

/-- `Seed` leaves a known id alone, and appends the row otherwise. -/
theorem seed_cases (lib : Lib) (s : MemoryUserStore) (user : User) :
    s.seed lib user = s ∨
    ∃ row, row = { user with identifier := normalizeIdentifier lib user.identifier } ∧
      user.id ∉ s.users.map (·.id) ∧ s.seed lib user = ⟨s.seq,s.users ++ [row]⟩ := by
  unfold seed
  split_ifs with h
  · exact .inl rfl
  · refine .inr ⟨_,rfl,?_,rfl⟩
    simpa using h

/-- A row appended under a free id is found there, and hides nothing. -/
lemma findByID_concat (hfree : s.findByID row.id = none) (seq : ℕ) (k : String) :
    findByID ⟨seq,s.users ++ [row]⟩ k = if k = row.id then some row else s.findByID k := by
  by_cases hk : k = row.id
  · subst hk
    unfold findByID at hfree
    simp [findByID, hfree]
  · simp [findByID, hk, Ne.symm hk]

/-- A row may be appended if its id is new, and is not one still to be issued. -/
lemma Sound.concat {seq : ℕ} (h : s.Sound) (hseq : s.seq ≤ seq) (hnew : row.id ∉ s.users.map (·.id))
    (hunissued : ∀ n, seq < n → row.id ≠ userID n) : Sound ⟨seq,s.users ++ [row]⟩ := by
  constructor
  · rw [List.map_append, List.nodup_append]
    refine ⟨h.nodup,by simp,?_⟩
    rintro id hid id' hid' rfl
    obtain rfl : id = row.id := by simpa using hid'
    exact hnew hid
  · intro user huser n hn
    obtain huser | huser := List.mem_append.mp huser
    · exact h.unissued user huser n (hseq.trans_lt hn)
    · obtain rfl : user = row := by simpa using huser
      exact hunissued n hn

lemma Sound.create (h : s.Sound) (hrow : row.id = userID (s.seq+1)) :
    Sound ⟨s.seq+1,s.users ++ [row]⟩ := by
  apply h.concat (Nat.le_succ _)
  · intro hmem
    obtain ⟨user,huser,hid⟩ := List.mem_map.mp hmem
    exact h.unissued user huser _ (Nat.lt_succ_self _) (hid.trans hrow)
  · intro n hn heq
    have := userID_injective (hrow.symm.trans heq)
    omega

end Rows
end MemoryUserStore
end OpsPlatform.Auth
