import OpsPlatform.Auth.Store
import OpsPlatform.Db.Sql

/-! The two user stores behind one interface: a slice searched from its front, and a table whose
constraints refuse what the slice has a loop for. -/
namespace OpsPlatform.Auth
open OpsPlatform.Go OpsPlatform.Db

/-- The calls of the `UserStore` interface. -/
inductive UserOp
  | findByIdentifier (identifier : String)
  | findByID (id : String)
  | findByGoogleSubjectID (subjectID : String)
  | create (user : User)
  | list
  | update (user : User)
  | updateAtomic (id : String) (mutate : User → Except Error User)
  | seed (user : User)

abbrev UserOp.Res : UserOp → Type
  | .findByIdentifier _ | .findByID _ | .findByGoogleSubjectID _ => Option User
  | .create _ | .update _ | .updateAtomic _ _ => Except Error User
  | .list => Except Error (List User)
  | .seed _ => Except Error Unit

def MemoryUserStore.list (s : MemoryUserStore) : Except Error (List User) := .ok s.users

/-- A closure that captures nothing. -/
def pureMutation (mutate : User → Except Error User) (user : User) : Except Error (User × Unit) :=
  (mutate user).map fun updated => (updated,())

def MemoryUserStore.exec (lib : Lib) : (op : UserOp) → MemoryUserStore → op.Res × MemoryUserStore
  | .findByIdentifier identifier, s => (s.findByIdentifier lib identifier,s)
  | .findByID id, s => (s.findByID id,s)
  | .findByGoogleSubjectID subjectID, s => (s.findByGoogleSubjectID subjectID,s)
  | .create user, s => s.create lib user
  | .list, s => (s.list,s)
  | .update user, s => s.update user
  | .updateAtomic id mutate, s =>
    ((s.updateAtomic id (pureMutation mutate)).1.map Prod.fst,
      (s.updateAtomic id (pureMutation mutate)).2)
  | .seed user, s => (.ok (),s.seed lib user)

def MemoryUserStore.Answers (lib : Lib) (op : UserOp) (s : MemoryUserStore) (r : op.Res)
    (t : MemoryUserStore) : Prop :=
  s.exec lib op = (r,t)

/-- A row of the table `users`; `created_by_user_id` may be NULL. -/
structure UserRow where
  columns : User
  createdByUserID : Option String
  createdAt : Time
  deriving DecidableEq

/-- `scanUser`. -/
def UserRow.scan (row : UserRow) : User :=
  { row.columns with createdByUserID := row.createdByUserID.getD "" }

/-- The table, in no particular order, and the last value of its sequence. -/
structure PostgresUserStore where
  seq : ℕ
  rows : List UserRow
  deriving DecidableEq

namespace PostgresUserStore
variable (lib : Lib) (timestamptz : Time → Time)

def empty : PostgresUserStore := ⟨0,[]⟩

/-- What a row keeps of an account; `timestamptz` is what a column of that type keeps of an
instant. -/
def stored (user : User) : User :=
  { user with
    emailVerificationCodeExpiresAt := user.emailVerificationCodeExpiresAt.map timestamptz
    passwordResetCodeExpiresAt := user.passwordResetCodeExpiresAt.map timestamptz
    otpLockedUntil := user.otpLockedUntil.map timestamptz }

/-- The greatest value of an `INT` column, and the error of the driver for a greater one. -/
def int4Max : ℕ := 2147483647

def errInt4 : Error := ⟨"unable to encode into binary format for int4"⟩

/-- The row an `INSERT` makes of an account; `created_at` is `now()` by default. -/
def inserted (user : User) (now : Time) : UserRow :=
  ⟨stored timestamptz user,Sql.nullif user.createdByUserID "",now⟩

/-- The unique constraint a new row violates. -/
def violated (s : PostgresUserStore) (row : UserRow) : Option String :=
  if s.rows.any fun old => old.columns.id = row.columns.id then some "users_pkey"
  else if s.rows.any fun old => old.columns.identifier = row.columns.identifier then
    some "users_identifier_key"
  else if s.rows.any fun old => old.columns.googleSubjectID.isSome &&
      old.columns.googleSubjectID = row.columns.googleSubjectID then
    some "users_google_subject_id_key"
  else none

/-- The number is taken from the sequence even where a constraint refuses the row. -/
def create (s : PostgresUserStore) (user : User) (now : Time) :
    Except Error User × PostgresUserStore :=
  let n := s.seq + 1
  let row := inserted timestamptz { user with
    id := Sql.numbered "user-" n, identifier := normalizeIdentifier lib user.identifier } now
  if int4Max < user.failedOTPAttempts then (.error ⟨"auth: create user: " ++ errInt4.text⟩,s)
  else
    match s.violated row with
    | some _ => (.error errIdentifierTaken,⟨n,s.rows⟩)
    | none => (.ok row.scan,⟨n,s.rows ++ [row]⟩)

/-- A row whose id is there is left alone, whatever else it may violate. -/
def seed (s : PostgresUserStore) (user : User) (now : Time) : Except Error Unit × PostgresUserStore :=
  let row := inserted timestamptz { user with
    identifier := normalizeIdentifier lib user.identifier } now
  if int4Max < user.failedOTPAttempts then (.error ⟨"auth: seed user: " ++ errInt4.text⟩,s)
  else if s.rows.any fun old => old.columns.id = row.columns.id then (.ok (),s)
  else
    match s.violated row with
    | some name => (.error ⟨"auth: seed user: " ++ (Sql.uniqueViolation name).text⟩,s)
    | none => (.ok (),⟨s.seq,s.rows ++ [row]⟩)

def findByIdentifier (s : PostgresUserStore) (identifier : String) : Option User :=
  (s.rows.find? fun row => row.columns.identifier = normalizeIdentifier lib identifier).map
    UserRow.scan

def findByID (s : PostgresUserStore) (id : String) : Option User :=
  (s.rows.find? fun row => row.columns.id = id).map UserRow.scan

def findByGoogleSubjectID (s : PostgresUserStore) (subjectID : String) : Option User :=
  (s.rows.find? fun row => row.columns.googleSubjectID = some subjectID).map UserRow.scan

/-- The columns that `execUpdate` sets. -/
def set (user : User) (row : UserRow) : UserRow :=
  let kept := stored timestamptz user
  { row with columns := { row.columns with
      displayName := kept.displayName, passwordHash := kept.passwordHash, roles := kept.roles
      isActive := kept.isActive, requiresPasswordChange := kept.requiresPasswordChange
      emailVerified := kept.emailVerified
      emailVerificationCodeHash := kept.emailVerificationCodeHash
      emailVerificationCodeExpiresAt := kept.emailVerificationCodeExpiresAt
      passwordResetCodeHash := kept.passwordResetCodeHash
      passwordResetCodeExpiresAt := kept.passwordResetCodeExpiresAt
      failedOTPAttempts := kept.failedOTPAttempts, otpLockedUntil := kept.otpLockedUntil } }

/-- `execUpdate`. -/
def update (s : PostgresUserStore) (user : User) : Except Error User × PostgresUserStore :=
  if int4Max < user.failedOTPAttempts then (.error ⟨"auth: update user: " ++ errInt4.text⟩,s)
  else match s.rows.find? fun row => row.columns.id = user.id with
  | none => (.error errUserNotFound,s)
  | some old => (.ok (set timestamptz user old).scan,⟨s.seq,s.rows.map fun row =>
      if row.columns.id = user.id then set timestamptz user row else row⟩)

/-- The row is locked from the `SELECT` on, and nothing is written where `mutate` fails. -/
def updateAtomic (s : PostgresUserStore) (id : String) (mutate : User → Except Error User) :
    Except Error User × PostgresUserStore :=
  match s.findByID id with
  | none => (.error errUserNotFound,s)
  | some current =>
    match mutate current with
    | .error err => (.error err,s)
    | .ok updated => s.update timestamptz updated

/-- `ORDER BY created_at ASC`. -/
def Lists (s : PostgresUserStore) (r : Except Error (List User)) : Prop :=
  ∃ rows, r = .ok (rows.map UserRow.scan) ∧
    Sql.OrderedBy (fun a b : UserRow => a.createdAt < b.createdAt) s.rows rows

/-- The clock of the database gives every new row a later instant. -/
def Later (s : PostgresUserStore) (now : Time) : Prop := ∀ row ∈ s.rows, row.createdAt < now

def Answers : (op : UserOp) → PostgresUserStore → op.Res → PostgresUserStore → Prop
  | .findByIdentifier identifier, s, r, t => (s.findByIdentifier lib identifier,s) = (r,t)
  | .findByID id, s, r, t => (s.findByID id,s) = (r,t)
  | .findByGoogleSubjectID subjectID, s, r, t => (s.findByGoogleSubjectID subjectID,s) = (r,t)
  | .create user, s, r, t => ∃ now, s.Later now ∧ s.create lib timestamptz user now = (r,t)
  | .list, s, r, t => s.Lists r ∧ t = s
  | .update user, s, r, t => s.update timestamptz user = (r,t)
  | .updateAtomic id mutate, s, r, t => s.updateAtomic timestamptz id mutate = (r,t)
  | .seed user, s, r, t => ∃ now, s.Later now ∧ s.seed lib timestamptz user now = (r,t)

end PostgresUserStore

/-- Two rows of the account of one person. -/
structure SameAccount (a b : User) : Prop where
  id : a.id = b.id
  identifier : a.identifier = b.identifier
  authProvider : a.authProvider = b.authProvider
  googleSubjectID : a.googleSubjectID = b.googleSubjectID
  createdByUserID : a.createdByUserID = b.createdByUserID

lemma SameAccount.symm {a b : User} (h : SameAccount a b) : SameAccount b a :=
  ⟨h.id.symm,h.identifier.symm,h.authProvider.symm,h.googleSubjectID.symm,h.createdByUserID.symm⟩

lemma SameAccount.trans {a b c : User} (h : SameAccount a b) (h' : SameAccount b c) :
    SameAccount a c :=
  ⟨h.id.trans h'.id,h.identifier.trans h'.identifier,h.authProvider.trans h'.authProvider,
    h.googleSubjectID.trans h'.googleSubjectID,h.createdByUserID.trans h'.createdByUserID⟩

namespace MemoryUserStore

/-- Where ids are unique the first row of an id is the only one. -/
lemma replace_eq_map {users : List User} (hnodup : (users.map (·.id)).Nodup) (id : String)
    (row : User) : replace id row users = users.map fun user => if user.id = id then row else user := by
  induction users with
  | nil => rfl
  | cons user rest ih =>
    rw [List.map_cons, List.nodup_cons] at hnodup
    rw [replace, List.map_cons]
    split_ifs with hid
    · have hrest : rest.map (fun user => if user.id = id then row else user) = rest.map fun u => u := by
        apply List.map_congr_left
        intro other hother
        refine if_neg fun heq => hnodup.1 ?_
        rw [hid, ← heq]
        exact List.mem_map_of_mem hother
      rw [hrest, List.map_id']
    · rw [ih hnodup.2]

lemma taken_eq_false {lib : Lib} {user existing : User} : taken lib user existing = false ↔
    existing.identifier ≠ normalizeIdentifier lib user.identifier ∧
    ∀ subject, existing.googleSubjectID = some subject → user.googleSubjectID ≠ some subject := by
  rw [taken, Bool.or_eq_false_iff, decide_eq_false_iff_not, Bool.and_eq_false_iff,
    decide_eq_false_iff_not]
  refine and_congr_right fun _ => ?_
  cases existing.googleSubjectID with
  | none => simp
  | some subject => simp [eq_comm]

lemma update_of_found {s : MemoryUserStore} {user row : User}
    (hfound : s.findByID user.id = some row) :
    s.update user = (.ok user,⟨s.seq,replace user.id user s.users⟩) :=
  if_pos (by rw [hfound]; rfl)

lemma exec_updateAtomic (lib : Lib) (s : MemoryUserStore) (id : String)
    (mutate : User → Except Error User) : s.exec lib (.updateAtomic id mutate) =
      match s.findByID id with
      | none => (.error errUserNotFound,s)
      | some current => match mutate current with
        | .error err => (.error err,s)
        | .ok updated => (.ok updated,⟨s.seq,replace id updated s.users⟩) := by
  simp only [exec, updateAtomic, pureMutation]
  cases s.findByID id with
  | none => rfl
  | some current =>
    dsimp only
    cases mutate current with
    | error err => rfl
    | ok updated => rfl

end MemoryUserStore

namespace PostgresUserStore

@[simp] lemma scan_inserted (timestamptz : Time → Time) (user : User) (now : Time) :
    (inserted timestamptz user now).scan = stored timestamptz user := by
  simp [inserted, UserRow.scan, stored]

@[simp] lemma inserted_id (timestamptz : Time → Time) (user : User) (now : Time) :
    (inserted timestamptz user now).columns.id = user.id := rfl

/-- `Create` of an account that has failed no attempt. -/
lemma create_eq {lib : Lib} {timestamptz : Time → Time} {s : PostgresUserStore} {user : User}
    {now : Time} {row : UserRow} (hattempts : user.failedOTPAttempts = 0)
    (hrow : row = inserted timestamptz { user with
      id := userID (s.seq+1), identifier := normalizeIdentifier lib user.identifier } now) :
    s.create lib timestamptz user now = match s.violated row with
      | some _ => (.error errIdentifierTaken,⟨s.seq+1,s.rows⟩)
      | none => (.ok row.scan,⟨s.seq+1,s.rows ++ [row]⟩) := by
  rw [hrow, userID, ← Sql.numbered_eq]
  exact if_neg (by rw [hattempts]; exact Nat.not_lt_zero _)

/-- `Seed` of an account that has failed no attempt. -/
lemma seed_eq {lib : Lib} {timestamptz : Time → Time} {s : PostgresUserStore} {user : User}
    {now : Time} {row : UserRow} (hattempts : user.failedOTPAttempts = 0)
    (hrow : row = inserted timestamptz { user with
      identifier := normalizeIdentifier lib user.identifier } now) :
    s.seed lib timestamptz user now =
      if s.rows.any fun old => old.columns.id = row.columns.id then (.ok (),s)
      else match s.violated row with
        | some name => (.error ⟨"auth: seed user: " ++ (Sql.uniqueViolation name).text⟩,s)
        | none => (.ok (),⟨s.seq,s.rows ++ [row]⟩) := by
  rw [hrow]
  exact if_neg (by rw [hattempts]; exact Nat.not_lt_zero _)

lemma stored_eq_iff (timestamptz : Time → Time) (user : User) : stored timestamptz user = user ↔
    user.emailVerificationCodeExpiresAt.map timestamptz = user.emailVerificationCodeExpiresAt ∧
    user.passwordResetCodeExpiresAt.map timestamptz = user.passwordResetCodeExpiresAt ∧
    user.otpLockedUntil.map timestamptz = user.otpLockedUntil := by
  cases user
  simp [stored]

/-- Setting the columns of the row of an account makes it the given one, as far as the columns keep
it. -/
lemma scan_set (timestamptz : Time → Time) {user : User} {row : UserRow}
    (h : SameAccount row.scan user) : (set timestamptz user row).scan = stored timestamptz user := by
  obtain ⟨hid,hidentifier,hprovider,hsubject,hcreator⟩ := h
  simp only [UserRow.scan] at hid hidentifier hprovider hsubject hcreator
  simp [set, UserRow.scan, stored, hid, hidentifier, hprovider, hsubject, hcreator]

end PostgresUserStore

/-- The table holds the rows of the memory, in the order of their instants, each with an id of its
own. -/
structure Copies (m : MemoryUserStore) (p : PostgresUserStore) : Prop where
  users : p.rows.map UserRow.scan = m.users
  instants : p.rows.Pairwise fun a b => a.createdAt < b.createdAt
  ids : (m.users.map (·.id)).Nodup

section Copies
variable {lib : Lib} {timestamptz : Time → Time} {m : MemoryUserStore} {p : PostgresUserStore}

lemma Copies.findByID (h : Copies m p) (id : String) : p.findByID id = m.findByID id := by
  unfold PostgresUserStore.findByID MemoryUserStore.findByID
  rw [← h.users, List.find?_map]
  congr 2

lemma Copies.findByIdentifier (h : Copies m p) (identifier : String) :
    p.findByIdentifier lib identifier = m.findByIdentifier lib identifier := by
  unfold PostgresUserStore.findByIdentifier MemoryUserStore.findByIdentifier
  rw [← h.users, List.find?_map]
  generalize normalizeIdentifier lib identifier = name
  congr 2

lemma Copies.findByGoogleSubjectID (h : Copies m p) (subjectID : String) :
    p.findByGoogleSubjectID subjectID = m.findByGoogleSubjectID subjectID := by
  unfold PostgresUserStore.findByGoogleSubjectID MemoryUserStore.findByGoogleSubjectID
  rw [← h.users, List.find?_map]
  congr 2

lemma Copies.list (h : Copies m p) {r : Except Error (List User)} (hlists : p.Lists r) :
    r = m.list := by
  obtain ⟨rows,rfl,hrows⟩ := hlists
  have hself : Sql.OrderedBy (fun a b : UserRow => a.createdAt < b.createdAt) p.rows p.rows :=
    ⟨List.Perm.refl _,h.instants.imp fun h => by simpa using Int.le_of_lt h⟩
  have hnodup : (p.rows.map (·.createdAt)).Nodup :=
    List.pairwise_map.mpr (h.instants.imp fun h => Int.ne_of_lt h)
  rw [hrows.eq hself, h.users]
  · rfl
  · intro a ha b hb hab hba
    exact List.inj_on_of_nodup_map hnodup ha hb
      (Int.le_antisymm (Int.not_lt.mp hba) (Int.not_lt.mp hab))

/-- A row violates no constraint exactly if nobody has its id, its identifier or its subject. -/
lemma Copies.violated_eq_none (h : Copies m p) (row : UserRow) :
    p.violated row = none ↔ ∀ old ∈ m.users, old.id ≠ row.columns.id ∧
      old.identifier ≠ row.columns.identifier ∧
      ∀ subject, old.googleSubjectID = some subject → row.columns.googleSubjectID ≠ some subject := by
  rw [← h.users, List.forall_mem_map]
  unfold PostgresUserStore.violated
  split_ifs with hid hidentifier hsubject
  · obtain ⟨old,hold,hsame⟩ := List.any_eq_true.mp hid
    exact iff_of_false (by simp) fun hall => (hall old hold).1 (of_decide_eq_true hsame)
  · obtain ⟨old,hold,hsame⟩ := List.any_eq_true.mp hidentifier
    exact iff_of_false (by simp) fun hall => (hall old hold).2.1 (of_decide_eq_true hsame)
  · obtain ⟨old,hold,hsame⟩ := List.any_eq_true.mp hsubject
    rw [Bool.and_eq_true, decide_eq_true_eq, Option.isSome_iff_exists] at hsame
    obtain ⟨⟨subject,hsome⟩,hsame⟩ := hsame
    exact iff_of_false (by simp) fun hall => (hall old hold).2.2 subject hsome (hsame ▸ hsome)
  · simp only [List.any_eq_true, not_exists, not_and, decide_eq_true_eq, Bool.and_eq_true,
      Option.isSome_iff_exists] at hid hidentifier hsubject
    refine iff_of_true rfl fun old hold => ⟨hid old hold,hidentifier old hold,?_⟩
    intro subject hsome hrow
    exact hsubject old hold ⟨subject,hsome⟩ (hsome.trans hrow.symm)

end Copies

end OpsPlatform.Auth
