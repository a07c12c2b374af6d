import OpsPlatform.Auth.SelfReset

/-! What each call of the auth service does when it runs alone: the reply it gives together with
the one row it creates or rewrites. The rest of the world answers within a given condition. -/
namespace OpsPlatform.Auth
open OpsPlatform.Go Interaction Program

/-- What a call returns to its caller. -/
inductive Reply
  | done
  | user (user : User)
  | created (user : User) (tempPassword : String)
  | tempPassword (tempPassword : String)
  | session (session : Session)

/-- The method a call invokes, with its result. -/
def Call.respond (lib : Lib) : Call → M Reply
  | .seedBootstrapUsers cfg =>
    (fun _ => .done) <$> Auth.seedBootstrapUsers lib (bootstrapSeedsFromConfig cfg)
  | .createUser actingUserID input =>
    (fun r => .created r.1 r.2) <$> Auth.createUser lib actingUserID input
  | .signUp input => .session <$> Auth.signUp lib input
  | .login identifier password => .session <$> Auth.login identifier password
  | .loginWithGoogle identity => .session <$> Auth.loginWithGoogle lib identity
  | .updateUser userID input => .user <$> Auth.updateUser userID input
  | .resetPassword userID => .tempPassword <$> Auth.resetPassword userID
  | .changePassword userID oldPassword newPassword =>
    (fun _ => .done) <$> Auth.changePassword userID oldPassword newPassword
  | .verifyEmail userID code => (fun _ => .done) <$> Auth.verifyEmail lib userID code
  | .requestPasswordReset identifier =>
    (fun _ => .done) <$> Auth.requestPasswordReset lib identifier
  | .completePasswordReset identifier code newPassword =>
    (fun _ => .done) <$> Auth.completePasswordReset lib identifier code newPassword

theorem Call.program_eq_respond (lib : Lib) (c : Call) :
    c.program lib = (fun _ => ()) <$> c.respond lib := by
  cases c <;> simp only [Call.program, Call.respond, map_eq_pure_bind, bind_assoc, pure_eq, ret_bind]
  all_goals exact (bind_ret _).symm

/-- The in-memory store, in a world that answers as `C` says. -/
def Within (lib : Lib) (C : (op : Op) → op.Res → Prop) (op : Op) (s : State) (r : op.Res)
    (t : State) : Prop := Answers lib op s r t ∧ C op r

/-- A call, its reply, and the states it led between. -/
structure Served where
  call : Call
  before : State
  reply : Except Error Reply
  after : State

/-- One call served, as a labelled step. -/
structure Replies (lib : Lib) (C : (op : Op) → op.Res → Prop) (s : State) (x : Served)
    (t : State) : Prop where
  before : x.before = s
  after : x.after = t
  runs : (x.call.respond lib).Runs (Within lib C) s x.reply t

/-- The state these calls have led to. -/
def lastState (s : State) (xs : List Served) : State :=
  (xs.getLast?.map fun x => x.after).getD s

theorem lastState_eq {lib : Lib} {C : (op : Op) → op.Res → Prop} {s t : State}
    {xs : List Served} (hrun : Trace (Replies lib C) s xs t) : lastState s xs = t :=
  (hrun.ends (fun s => s) Served.before Served.after (fun _ _ _ h => h.before)
    fun _ _ _ h => h.after).2.2

/-- Calls served in order in one world. -/
def answerAll (lib : Lib) (env : Env) (s : State) (calls : List Call) : List Served :=
  labels (fun c s =>
    ⟨c,s,((c.respond lib).run (exec lib env) s).1,((c.respond lib).run (exec lib env) s).2⟩)
    (·.after) s calls

theorem trace_answerAll {lib : Lib} {env : Env} {C : (op : Op) → op.Res → Prop}
    (hC : ∀ op s, C op (exec lib env op s).1) (s : State) (calls : List Call) :
    ∃ t, Trace (Replies lib C) s (answerAll lib env s calls) t :=
  trace_labels (fun c s => ⟨rfl,rfl,runs_run (fun op s =>
    ⟨answers_exec lib env op s,hC op s⟩) (c.respond lib) s⟩) s calls

/-- The account whose password a reply reports as set, and the password. -/
def Call.sets (lib : Lib) (users : MemoryUserStore) : Call → Reply → Option (String × String)
  | .createUser _ _, .created user tempPassword => some (user.id,tempPassword)
  | .signUp input, .session session => some (session.principal.userID,input.password)
  | .resetPassword userID, .tempPassword tempPassword => some (userID,tempPassword)
  | .changePassword userID _ newPassword, .done => some (userID,newPassword)
  | .completePasswordReset identifier _ newPassword, .done =>
    (users.findByIdentifier lib identifier).map fun user => (user.id,newPassword)
  | _, _ => none

/-- The call sets no password. -/
def Call.SetsNothing (lib : Lib) (users : MemoryUserStore) (c : Call) (y : Except Error Reply) :
    Prop := ∀ r, y = .ok r → c.sets lib users r = none

/-- A row is found under its id and written back changed. -/
structure Rewrites (id : String) (old new : User) (s t : State) : Prop where
  found : s.users.findByID id = some old
  writes : Writes id new s t

/-- Only the accounts before a write matter to it. -/
lemma Rewrites.congr {id : String} {old new : User} {s mid t : State}
    (h : Rewrites id old new mid t) (hmid : mid.users = s.users) : Rewrites id old new s t := by
  obtain ⟨hfound,hid,hstored⟩ := h
  rw [hmid] at hfound hstored
  exact ⟨hfound,hid,hstored⟩

lemma replace_replace {id : String} {a : User} (ha : a.id = id) (b : User) (users : List User) :
    MemoryUserStore.replace id b (MemoryUserStore.replace id a users) =
      MemoryUserStore.replace id b users := by
  induction users with
  | nil => rfl
  | cons existing rest ih =>
    by_cases h : existing.id = id
    · simp [MemoryUserStore.replace, h, ha]
    · simp [MemoryUserStore.replace, h, ih]

/-- Of two writes to one row the second counts. -/
lemma Rewrites.trans {id : String} {old old' : User} {f : User → User} {new : User}
    {s mid t : State} (h : Rewrites id old new s mid) (h' : Rewrites id old' (f old') mid t) :
    Rewrites id old (f new) s t := by
  have hfound := h'.found
  rw [h.writes.findByID h.found, if_pos rfl, Option.some.injEq] at hfound
  subst hfound
  refine ⟨h.found,h'.writes.1,?_⟩
  rw [h'.writes.2, h.writes.2, replace_replace h.writes.1]

variable (lib : Lib) (C : (op : Op) → op.Res → Prop)

/-- How a call ends: with the accounts as they were, with one row more, or with one row
rewritten. -/
inductive Outcome (s t : State) : Call → Except Error Reply → Prop
  | idle {c : Call} {y : Except Error Reply} (same : t.users = s.users)
      (sets : c.SetsNothing lib s.users y) : Outcome s t c y
  | seeded {cfg : BootstrapConfig} {y : Except Error Reply} (hashes : List String)
      (hashed : List.Forall₂ (fun seed hash => C (.hash seed.password) (.ok hash))
        ((bootstrapSeedsFromConfig cfg).take hashes.length) hashes)
      (all : y = .ok .done → hashes.length = (bootstrapSeedsFromConfig cfg).length)
      (stored : t.users = (List.zipWith (seedUser lib)
        ((bootstrapSeedsFromConfig cfg).take hashes.length) hashes).foldl
        (MemoryUserStore.seed lib) s.users) :
      Outcome s t (.seedBootstrapUsers cfg) y
  | createUser {actingUserID : String} {input : CreateUserInput} {user row : User}
      {tempPassword : String} (isLocal : user.authProvider = .local)
      (noSubject : user.googleSubjectID = none) (noReset : user.passwordResetCodeHash = none)
      (hashed : C (.hash tempPassword) (.ok user.passwordHash))
      (stored : s.users.create lib user = (.ok row,t.users)) :
      Outcome s t (.createUser actingUserID input) (.ok (.created row tempPassword))
  | signUp {input : SignUpInput} {user row : User} {r : Except Error (String × Time)}
      (isLocal : user.authProvider = .local)
      (noSubject : user.googleSubjectID = none) (noReset : user.passwordResetCodeHash = none)
      (hashed : C (.hash input.password) (.ok user.passwordHash))
      (stored : s.users.create lib user = (.ok row,t.users))
      (issued : C (.issue (principalFromUser row)) r) :
      Outcome s t (.signUp input) (r.map fun token =>
        .session ⟨token.1,token.2,principalFromUser row⟩)
  | google {identity : GoogleIdentity} {user row : User} {y : Except Error Reply}
      (isGoogle : user.authProvider = .google)
      (subject : user.googleSubjectID = some identity.subject)
      (noPassword : user.passwordHash = "") (noChange : user.requiresPasswordChange = false)
      (noReset : user.passwordResetCodeHash = none)
      (stored : s.users.create lib user = (.ok row,t.users)) :
      Outcome s t (.loginWithGoogle identity) y
  | updateUser {userID : String} {input : UpdateUserInput} {old new : User}
      (applied : input.apply old = .ok new) (rewrites : Rewrites userID old new s t) :
      Outcome s t (.updateUser userID input) (.ok (.user new))
  | resetPassword {userID tempPassword passwordHash : String} {old : User}
      (hashed : C (.hash tempPassword) (.ok passwordHash))
      (rewrites : Rewrites userID old { old with passwordHash, requiresPasswordChange := true }
        s t) :
      Outcome s t (.resetPassword userID) (.ok (.tempPassword tempPassword))
  | changePassword {userID oldPassword newPassword passwordHash : String} {old : User}
      (compared : C (.compare old.passwordHash oldPassword) (.ok ()))
      (hashed : C (.hash newPassword) (.ok passwordHash))
      (rewrites : Rewrites userID old { old with passwordHash, requiresPasswordChange := false }
        s t) :
      Outcome s t (.changePassword userID oldPassword newPassword) (.ok .done)
  | checked {c : Call} {kind : CodeKind} {code id : String} {now : Time} {old : User}
      {y : Except Error Reply} (guess : c.guess = some (kind,code))
      (rewrites : Rewrites id old (checkOTP lib now kind code old).1 s t)
      (sets : c.SetsNothing lib s.users y) : Outcome s t c y
  | storedCode {identifier hash : String} {expiresAt : Time} {user old : User}
      {y : Except Error Reply} (found : s.users.findByIdentifier lib identifier = some user)
      (isExternal : user.External)
      (rewrites : Rewrites user.id old (storeResetCode hash expiresAt old) s t) :
      Outcome s t (.requestPasswordReset identifier) y
  | completed {identifier code newPassword passwordHash : String} {now : Time} {user old : User}
      (found : s.users.findByIdentifier lib identifier = some user)
      (accepted : CodeKind.passwordReset.accepts lib now code old = true)
      (hashed : C (.hash newPassword) (.ok passwordHash))
      (rewrites : Rewrites user.id old
        (setPasswordHash passwordHash (CodeKind.passwordReset.redeem old)) s t) :
      Outcome s t (.completePasswordReset identifier code newPassword) (.ok .done)

/-- How a login ends. -/
inductive LoginOutcome (s : State) (identifier password : String) : Except Error Session → Prop
  | unknown (found : s.users.findByIdentifier lib identifier = none) :
      LoginOutcome s identifier password (.error errInvalidCredentials)
  | inactive {user : User} (found : s.users.findByIdentifier lib identifier = some user)
      (isActive : user.isActive = false) :
      LoginOutcome s identifier password (.error errInactiveUser)
  | mismatch {user : User} {err : Error}
      (found : s.users.findByIdentifier lib identifier = some user)
      (isActive : user.isActive = true) (compared : C (.compare user.passwordHash password)
        (.error err)) : LoginOutcome s identifier password (.error errInvalidCredentials)
  | matched {user : User} {r : Except Error (String × Time)}
      (found : s.users.findByIdentifier lib identifier = some user)
      (isActive : user.isActive = true)
      (compared : C (.compare user.passwordHash password) (.ok ()))
      (issued : C (.issue (principalFromUser user)) r) :
      LoginOutcome s identifier password (r.map fun token =>
        ⟨token.1,token.2,principalFromUser user⟩)

section Rules
variable {lib : Lib} {C : (op : Op) → op.Res → Prop} {s : State} {α : Type}
  {Q : Except Error α → State → Prop}

lemma wp_findByIdentifier {identifier : String} {next : Option User → M α}
    (h : (next (s.users.findByIdentifier lib identifier)).Wp (Within lib C) s Q) :
    (call (.findByIdentifier identifier) next).Wp (Within lib C) s Q := by
  rw [wp_call]
  rintro r t ⟨hanswer,-⟩
  cases hanswer
  exact h

lemma wp_findByID {id : String} {next : Option User → M α}
    (h : (next (s.users.findByID id)).Wp (Within lib C) s Q) :
    (call (.findByID id) next).Wp (Within lib C) s Q := by
  rw [wp_call]
  rintro r t ⟨hanswer,-⟩
  cases hanswer
  exact h

lemma wp_findByGoogleSubjectID {subjectID : String} {next : Option User → M α}
    (h : (next (s.users.findByGoogleSubjectID subjectID)).Wp (Within lib C) s Q) :
    (call (.findByGoogleSubjectID subjectID) next).Wp (Within lib C) s Q := by
  rw [wp_call]
  rintro r t ⟨hanswer,-⟩
  cases hanswer
  exact h

lemma wp_now {next : Time → M α}
    (h : ∀ now, (next now).Wp (Within lib C) ⟨s.users,now⟩ Q) :
    (call .now next).Wp (Within lib C) s Q := by
  rw [wp_call]
  rintro r t ⟨hanswer,-⟩
  cases hanswer
  exact h r

/-- The operations that ask the world outside the store. -/
def Op.Asks : Op → Prop
  | .hash _ | .compare _ _ | .issue _ | .parse _ | .send _ _ _ | .sendLater _ _ _ | .randInt _ => True
  | _ => False

lemma wp_asks {op : Op} {next : op.Res → M α} (hop : op.Asks)
    (h : ∀ r, C op r → (next r).Wp (Within lib C) s Q) : (call op next).Wp (Within lib C) s Q := by
  rw [wp_call]
  rintro r t ⟨hanswer,hC⟩
  have ht : t = s := by cases hanswer <;> first | rfl | cases hop
  subst ht
  exact h r hC

/-- A row appended by `Create`. -/
lemma wp_create {user : User} {f : User → M α} (htaken : Q (.error errIdentifierTaken) s)
    (hstored : ∀ row t, s.users.create lib user = (.ok row,t.users) →
      (f row).Wp (Within lib C) t Q) :
    (call (.create user) fromResult >>= f).Wp (Within lib C) s Q := by
  rw [call_bind, wp_call]
  rintro r t ⟨hcreate,-⟩
  cases hcreate
  obtain hstore | ⟨row,_,hstore⟩ := s.users.create_cases lib user
  · rw [hstore, fromResult_error, fail_bind, wp_fail]
    exact htaken
  · have := hstored row ⟨(s.users.create lib user).2,s.clock⟩ (Prod.ext (by rw [hstore]) rfl)
    rw [hstore] at this ⊢
    exact this

/-- A row found before and written back whole by `Update`. -/
lemma wp_update {id : String} {old new : User} {f : User → M α} (hid : new.id = id)
    (hold : s.users.findByID id = some old)
    (hwritten : ∀ t, Rewrites id old new s t → (f new).Wp (Within lib C) t Q) :
    (call (.update new) fromResult >>= f).Wp (Within lib C) s Q := by
  rw [call_bind, wp_call]
  rintro r t ⟨hupdate,-⟩
  cases hupdate
  obtain ⟨hok,hwrites⟩ := writes_of_update hid hold
  rw [hok, fromResult_ok, ret_bind]
  exact hwritten _ ⟨hold,hwrites⟩

/-- A row found by `UpdateAtomic` and replaced by what the closure makes of it. -/
lemma wp_updateAtomic {id : String} {mutate : User → User × OTPCheckResult}
    {f : User × OTPCheckResult → M α} (hnone : s.users.findByID id = none →
      Q (.error errUserNotFound) s)
    (hid : ∀ user, (mutate user).1.id = user.id)
    (hwritten : ∀ old t, Rewrites id old (mutate old).1 s t →
      (f (mutate old)).Wp (Within lib C) t Q) :
    (call (.updateAtomic id fun user => .ok (mutate user)) fromResult >>= f).Wp (Within lib C) s
      Q := by
  rw [call_bind, wp_call]
  rintro r t ⟨hupdate,-⟩
  cases hupdate
  obtain ⟨hfind,hstore⟩ | ⟨old,hfind,hstore⟩ := s.users.updateAtomic_cases id mutate
  · rw [hstore, fromResult_error, fail_bind, wp_fail]
    exact hnone hfind
  · rw [hstore, fromResult_ok, ret_bind]
    exact hwritten old _ ⟨hfind,(hid old).trans (MemoryUserStore.id_of_findByID hfind),rfl⟩

lemma wp_issueSession (user : User) {Q : Except Error Session → State → Prop}
    (h : ∀ r, C (.issue (principalFromUser user)) r →
      Q (r.map fun token => ⟨token.1,token.2,principalFromUser user⟩) s) :
    (issueSession user).Wp (Within lib C) s Q := by
  simp only [issueSession]
  rw [call_bind]
  refine wp_asks trivial fun r hC => ?_
  have := h r hC
  cases r with
  | error e => rwa [fromResult_error, fail_bind, wp_fail]
  | ok token => rwa [fromResult_ok, ret_bind, pure_eq, wp_ret]

/-- Operations that write nothing leave the accounts. -/
lemma wp_quiet {p : M α} (hp : p.Only Op.Quiet) :
    p.Wp (Within lib C) s fun _ (t : State) => t.users = s.users :=
  (wp_of_quiet hp).mono fun _ _ _ _ h => h.1

end Rules

section Calls
variable {lib : Lib} {C : (op : Op) → op.Res → Prop} {s : State}

/-- A call that fails before it has written anything. -/
lemma Outcome.failed {α : Type} {t : State} {c : Call} (e : Error) (f : α → Reply)
    (same : t.users = s.users) : Outcome lib C s t c ((Except.error e).map f) :=
  .idle same fun r hr => by cases hr

theorem wp_createUser (actingUserID : String) (input : CreateUserInput) :
    (createUser lib actingUserID input).Wp (Within lib C) s fun y t =>
      Outcome lib C s t (.createUser actingUserID input) (y.map fun r => .created r.1 r.2) := by
  simp only [createUser]
  rw [wp_failIf_bind]
  refine ⟨fun _ => .failed _ _ rfl,fun _ => ?_⟩
  rw [wp_failIf_bind]
  refine ⟨fun _ => .failed _ _ rfl,fun _ => ?_⟩
  rw [call_bind]
  refine wp_findByIdentifier ?_
  rw [ret_bind, wp_failIf_bind]
  refine ⟨fun _ => .failed _ _ rfl,fun _ => ?_⟩
  refine (wp_quiet (only_drawChars _ _)).andThen (fun tempPassword mid hmid => ?_)
    fun e t ht => .failed _ _ ht
  rw [call_bind]
  refine wp_asks trivial fun r hC => ?_
  cases r with
  | error e =>
    rw [fromResult_error, fail_bind, wp_fail]
    exact .failed _ _ hmid
  | ok passwordHash =>
    rw [fromResult_ok, ret_bind]
    refine wp_create (.failed _ _ hmid) fun row t hstored => ?_
    rw [hmid] at hstored
    exact (wp_ret _).mpr (.createUser rfl rfl rfl hC hstored)

/-- `CreateUser` appends one account, with the role it was asked for, or fails and changes none. -/
theorem wp_createUser_row (actingUserID : String) (input : CreateUserInput) :
    (createUser lib actingUserID input).Wp (Within lib C) s fun y t =>
      (∃ e, y = .error e ∧ t.users = s.users) ∨ ∃ row tempPassword, y = .ok (row,tempPassword) ∧
        t.users.users = s.users.users ++ [row] ∧ (∃ n, row.id = userID n) ∧
        row.roles = [input.role] := by
  simp only [createUser]
  rw [wp_failIf_bind]
  refine ⟨fun _ => .inl ⟨_,rfl,rfl⟩,fun _ => ?_⟩
  rw [wp_failIf_bind]
  refine ⟨fun _ => .inl ⟨_,rfl,rfl⟩,fun _ => ?_⟩
  rw [call_bind]
  refine wp_findByIdentifier ?_
  rw [ret_bind, wp_failIf_bind]
  refine ⟨fun _ => .inl ⟨_,rfl,rfl⟩,fun _ => ?_⟩
  refine (wp_quiet (only_drawChars _ _)).andThen (fun tempPassword mid hmid => ?_)
    fun e t ht => .inl ⟨_,rfl,ht⟩
  rw [call_bind]
  refine wp_asks trivial fun r _ => ?_
  cases r with
  | error e =>
    rw [fromResult_error, fail_bind, wp_fail]
    exact .inl ⟨_,rfl,hmid⟩
  | ok passwordHash =>
    rw [fromResult_ok, ret_bind]
    refine wp_create (.inl ⟨_,rfl,hmid⟩) fun row t hstored => (wp_ret _).mpr ?_
    rw [hmid] at hstored
    obtain hrefused | ⟨row',hrow,hcreated⟩ := MemoryUserStore.create_cases lib s.users _
    · cases hstored.symm.trans hrefused
    · obtain ⟨hok,hstore⟩ := Prod.mk.inj (hstored.symm.trans hcreated)
      obtain rfl := Except.ok.inj hok
      exact .inr ⟨row,tempPassword,rfl,by rw [hstore],⟨_,by rw [hrow]⟩,by rw [hrow]⟩

theorem wp_signUp (input : SignUpInput) :
    (signUp lib input).Wp (Within lib C) s fun y t =>
      Outcome lib C s t (.signUp input) (y.map .session) := by
  simp only [signUp]
  rw [wp_failIf_bind]
  refine ⟨fun _ => .failed _ _ rfl,fun _ => ?_⟩
  rw [wp_failIf_bind]
  refine ⟨fun _ => .failed _ _ rfl,fun _ => ?_⟩
  rw [call_bind]
  refine wp_findByIdentifier ?_
  rw [ret_bind, wp_failIf_bind]
  refine ⟨fun _ => .failed _ _ rfl,fun _ => ?_⟩
  rw [call_bind]
  refine wp_asks trivial fun r hC => ?_
  cases r with
  | error e =>
    rw [fromResult_error, fail_bind, wp_fail]
    exact .failed _ _ rfl
  | ok passwordHash =>
    rw [fromResult_ok, ret_bind]
    refine (wp_quiet only_generateOTP).andThen (fun code mid hmid => ?_)
      fun e t ht => .failed _ _ ht
    rw [call_bind]
    refine wp_asks trivial fun r _ => ?_
    cases r with
    | error e =>
      rw [fromResult_error, fail_bind, wp_fail]
      exact .failed _ _ hmid
    | ok sent =>
      rw [fromResult_ok, ret_bind, call_bind]
      refine wp_now fun now => ?_
      rw [ret_bind]
      refine wp_create (.failed _ _ hmid) fun row t hstored => ?_
      rw [hmid] at hstored
      refine wp_issueSession row fun r hissue => ?_
      cases r <;> exact .signUp rfl rfl rfl hC hstored hissue

theorem wp_login (identifier password : String) :
    (login identifier password).Wp (Within lib C) s fun y t =>
      t = s ∧ LoginOutcome lib C s identifier password y := by
  simp only [login, requireUser]
  rw [call_bind]
  refine wp_findByIdentifier ?_
  cases hfind : s.users.findByIdentifier lib identifier with
  | none =>
    rw [id, fail_bind, wp_fail]
    exact ⟨rfl,.unknown hfind⟩
  | some user =>
    rw [id, ret_bind, wp_failIf_bind]
    refine ⟨fun hinactive => ⟨rfl,.inactive hfind (by simpa using hinactive)⟩,fun hactive => ?_⟩
    rw [call_bind]
    refine wp_asks trivial fun r hC => ?_
    cases r with
    | error e =>
      rw [Except.mapError, fromResult_error, fail_bind, wp_fail]
      exact ⟨rfl,.mismatch hfind (by simpa using hactive) hC⟩
    | ok matched =>
      rw [Except.mapError, fromResult_ok, ret_bind]
      exact wp_issueSession user fun r hissue =>
        ⟨rfl,.matched hfind (by simpa using hactive) hC hissue⟩

theorem wp_loginWithGoogle (identity : GoogleIdentity) :
    (loginWithGoogle lib identity).Wp (Within lib C) s fun y t =>
      Outcome lib C s t (.loginWithGoogle identity) (y.map .session) := by
  have hsets : ∀ y : Except Error Session,
      (Call.loginWithGoogle identity).SetsNothing lib s.users (y.map .session) := by
    intro y r _
    cases r <;> rfl
  simp only [loginWithGoogle]
  rw [call_bind]
  refine wp_findByGoogleSubjectID ?_
  rw [ret_bind]
  cases s.users.findByGoogleSubjectID identity.subject with
  | some existing =>
    dsimp only
    rw [wp_failIf_bind]
    refine ⟨fun _ => .failed _ _ rfl,fun _ => ?_⟩
    exact wp_issueSession existing fun r _ => .idle rfl (hsets _)
  | none =>
    dsimp only
    rw [call_bind]
    refine wp_findByIdentifier ?_
    rw [ret_bind, wp_failIf_bind]
    refine ⟨fun _ => .failed _ _ rfl,fun _ => ?_⟩
    refine wp_create (.failed _ _ rfl) fun row t hstored => ?_
    exact wp_issueSession row fun r _ => .google rfl rfl rfl rfl rfl hstored

/-- The row an id names, or the end of the call. -/
lemma wp_getUser {α : Type} {userID : String} {f : User → M α}
    {Q : Except Error α → State → Prop}
    (hnone : s.users.findByID userID = none → Q (.error errUserNotFound) s)
    (hsome : ∀ user, s.users.findByID userID = some user → (f user).Wp (Within lib C) s Q) :
    (getUser userID >>= f).Wp (Within lib C) s Q := by
  simp only [getUser, requireUser]
  rw [call_bind]
  refine wp_findByID ?_
  cases hfind : s.users.findByID userID with
  | none =>
    rw [id, fail_bind, wp_fail]
    exact hnone hfind
  | some user =>
    rw [id, ret_bind]
    exact hsome user hfind

theorem wp_updateUser (userID : String) (input : UpdateUserInput) :
    (updateUser userID input).Wp (Within lib C) s fun y t =>
      Outcome lib C s t (.updateUser userID input) (y.map .user) := by
  simp only [updateUser]
  refine wp_getUser (fun _ => .failed _ _ rfl) fun old hold => ?_
  cases happly : input.apply old with
  | error e =>
    rw [fromResult_error, fail_bind, wp_fail]
    exact .failed _ _ rfl
  | ok new =>
    have hpatch : (Call.updateUser userID input).Patches old new := .updateUser happly
    have hid : new.id = userID := hpatch.id.trans (MemoryUserStore.id_of_findByID hold)
    rw [fromResult_ok, ret_bind, ← bind_ret (call (Op.update new) fromResult : M User)]
    exact wp_update hid hold fun t hwritten => (wp_ret _).mpr (.updateUser happly hwritten)

theorem outcome_resetPassword (userID : String) :
    (resetPassword userID).Wp (Within lib C) s fun y t =>
      Outcome lib C s t (.resetPassword userID) (y.map .tempPassword) := by
  simp only [resetPassword]
  refine wp_getUser (fun _ => .failed _ _ rfl) fun old hold => ?_
  refine (wp_quiet (only_drawChars _ _)).andThen (fun tempPassword mid hmid => ?_)
    fun e t ht => .failed _ _ ht
  rw [call_bind]
  refine wp_asks trivial fun r hC => ?_
  cases r with
  | error e =>
    rw [fromResult_error, fail_bind, wp_fail]
    exact .failed _ _ hmid
  | ok passwordHash =>
    rw [fromResult_ok, ret_bind]
    have holdID := MemoryUserStore.id_of_findByID hold
    refine wp_update holdID (hmid ▸ hold) fun t hwritten => ?_
    exact (wp_ret _).mpr (.resetPassword hC (hwritten.congr hmid))

theorem wp_changePassword (userID oldPassword newPassword : String) :
    (changePassword userID oldPassword newPassword).Wp (Within lib C) s fun y t =>
      Outcome lib C s t (.changePassword userID oldPassword newPassword)
        (y.map fun _ => .done) := by
  simp only [changePassword]
  refine wp_getUser (fun _ => .failed _ _ rfl) fun old hold => ?_
  rw [call_bind]
  refine wp_asks trivial fun r hcompare => ?_
  cases r with
  | error e =>
    rw [Except.mapError, fromResult_error, fail_bind, wp_fail]
    exact .failed _ _ rfl
  | ok matched =>
    rw [Except.mapError, fromResult_ok, ret_bind, wp_failIf_bind]
    refine ⟨fun _ => .failed _ _ rfl,fun _ => ?_⟩
    rw [call_bind]
    refine wp_asks trivial fun r hhash => ?_
    cases r with
    | error e =>
      rw [fromResult_error, fail_bind, wp_fail]
      exact .failed _ _ rfl
    | ok passwordHash =>
      rw [fromResult_ok, ret_bind]
      have holdID := MemoryUserStore.id_of_findByID hold
      refine wp_update holdID hold fun t hwritten => ?_
      exact (wp_ret _).mpr (.changePassword hcompare hhash hwritten)

/-- The code check: what it reports, and the row it leaves. -/
lemma wp_consume {α : Type} {id code : String} {kind : CodeKind} {f : Unit → M α}
    {Q : Except Error α → State → Prop}
    (hnone : ∀ t, t.users = s.users → Q (.error errUserNotFound) t)
    (hrefused : ∀ old now t err, Rewrites id old (checkOTP lib now kind code old).1 s t →
      Q (.error err) t)
    (haccepted : ∀ old now t, kind.accepts lib now code old = true →
      checkOTP lib now kind code old = (kind.redeem old,⟨true,false⟩) →
      Rewrites id old (kind.redeem old) s t → (f ()).Wp (Within lib C) t Q) :
    (consumeOTP lib id code kind >>= f).Wp (Within lib C) s Q := by
  rw [consumeOTP, call_bind, call_bind]
  refine wp_now fun now => ?_
  rw [ret_bind, bind_assoc]
  refine wp_updateAtomic (fun _ => hnone _ rfl) (fun user => checkOTP_id) fun old t hwritten => ?_
  have hrewrites : Rewrites id old (checkOTP lib now kind code old).1 s t := hwritten.congr rfl
  obtain ⟨_,hcheck⟩ | ⟨_,haccepts,hcheck⟩ | ⟨_,_,hcheck⟩ := checkOTP_cases lib now kind code old
  · rw [hcheck]
    dsimp only
    rw [Program.bind_assoc, wp_failIf_bind]
    exact ⟨fun _ => hrefused old now t _ hrewrites,fun h => (h rfl).elim⟩
  · rw [hcheck] at hrewrites ⊢
    dsimp only
    rw [Program.bind_assoc, wp_failIf_bind]
    refine ⟨fun h => (by cases h),fun _ => ?_⟩
    rw [wp_failIf_bind]
    exact ⟨fun h => (h rfl).elim,fun _ => haccepted old now t haccepts hcheck hrewrites⟩
  · rw [hcheck]
    dsimp only
    rw [Program.bind_assoc, wp_failIf_bind]
    refine ⟨fun h => (by cases h),fun _ => ?_⟩
    rw [wp_failIf_bind]
    exact ⟨fun _ => hrefused old now t _ hrewrites,fun h => (h (by simp)).elim⟩

theorem wp_verifyEmail (userID code : String) :
    (verifyEmail lib userID code).Wp (Within lib C) s fun y t =>
      Outcome lib C s t (.verifyEmail userID code) (y.map fun _ => .done) := by
  rw [verifyEmail, ← bind_ret (consumeOTP lib userID code .emailVerification)]
  refine wp_consume (fun t ht => .failed _ _ ht) (fun old now t err hwritten => ?_)
    fun old now t _ hcheck hwritten => ?_
  · exact .checked rfl hwritten fun r hr => by cases hr
  · have hrow : CodeKind.emailVerification.redeem old =
        (checkOTP lib now .emailVerification code old).1 := by rw [hcheck]
    rw [hrow] at hwritten
    exact (wp_ret _).mpr (.checked rfl hwritten fun r _ => by cases r <;> rfl)

theorem outcome_requestPasswordReset (identifier : String) :
    (requestPasswordReset lib identifier).Wp (Within lib C) s fun y t =>
      Outcome lib C s t (.requestPasswordReset identifier) (y.map fun _ => .done) := by
  have hidle : ∀ (y : Except Error Unit) (t : State), t.users = s.users →
      Outcome lib C s t (.requestPasswordReset identifier) (y.map fun _ => .done) :=
    fun y t ht => .idle ht fun r _ => by cases r <;> rfl
  simp only [requestPasswordReset]
  rw [call_bind]
  refine wp_findByIdentifier ?_
  rw [ret_bind]
  cases hfind : s.users.findByIdentifier lib identifier with
  | none => exact (wp_ret ()).mpr (hidle (.ok ()) s rfl)
  | some user =>
    dsimp only
    split_ifs with hgate
    · exact (wp_ret ()).mpr (hidle (.ok ()) s rfl)
    rw [not_or, not_not, not_not] at hgate
    refine (wp_quiet only_generateOTP).andThen (fun code mid hmid => ?_)
      fun e t ht => hidle (.error e) t ht
    rw [call_bind]
    refine wp_now fun now => ?_
    rw [ret_bind]
    unfold mutation
    refine wp_updateAtomic (fun _ => hidle (.error _) _ hmid) (fun user => rfl) fun old t hwritten => ?_
    refine wp_asks trivial fun _ _ => (wp_ret _).mpr ?_
    exact .storedCode hfind hgate (hwritten.congr hmid)

theorem wp_completePasswordReset (identifier code newPassword : String) :
    (completePasswordReset lib identifier code newPassword).Wp (Within lib C) s fun y t =>
      Outcome lib C s t (.completePasswordReset identifier code newPassword)
        (y.map fun _ => .done) := by
  simp only [completePasswordReset, requireUser]
  rw [call_bind]
  refine wp_findByIdentifier ?_
  cases hfind : s.users.findByIdentifier lib identifier with
  | none =>
    rw [id, fail_bind, wp_fail]
    exact .failed _ _ rfl
  | some user =>
    rw [id, ret_bind]
    refine wp_consume (fun t ht => .failed _ _ ht) (fun old now t err hwritten => ?_)
      fun old now t haccepts hcheck hwritten => ?_
    · exact .checked rfl hwritten fun r hr => by cases hr
    have hrow : CodeKind.passwordReset.redeem old =
        (checkOTP lib now .passwordReset code old).1 := by rw [hcheck]
    -- the code is spent, whatever becomes of the password
    have hspent : ∀ e : Error, Outcome lib C s t
        (.completePasswordReset identifier code newPassword) (.error e) := fun e =>
      .checked rfl (hrow ▸ hwritten) fun r hr => by cases hr
    rw [wp_failIf_bind]
    refine ⟨fun _ => hspent _,fun _ => ?_⟩
    rw [call_bind]
    refine wp_asks trivial fun r hC => ?_
    cases r with
    | error e =>
      rw [fromResult_error, fail_bind, wp_fail]
      exact hspent e
    | ok passwordHash =>
      rw [fromResult_ok, ret_bind]
      unfold mutation
      refine wp_updateAtomic (fun hnone => ?_) (fun user => rfl) fun old' u hset => ?_
      · rw [hwritten.writes.findByID hwritten.found, if_pos rfl] at hnone
        cases hnone
      · exact (wp_ret _).mpr (.completed hfind haccepts hC (hwritten.trans hset))

/-- The seeds are taken in order, up to one whose password cannot be hashed. -/
lemma wp_seedUsers (seeds : List BootstrapSeed) :
    (seedBootstrapUsers lib seeds).Wp (Within lib C) s fun y t => ∃ hashes : List String,
      List.Forall₂ (fun seed hash => C (.hash seed.password) (.ok hash))
        (seeds.take hashes.length) hashes ∧
      (y = .ok () → hashes.length = seeds.length) ∧
      t.users = (List.zipWith (seedUser lib) (seeds.take hashes.length) hashes).foldl
        (MemoryUserStore.seed lib) s.users := by
  induction seeds generalizing s with
  | nil => exact (wp_ret ()).mpr ⟨[],.nil,fun _ => rfl,rfl⟩
  | cons seed rest ih =>
    simp only [seedBootstrapUsers]
    rw [call_bind]
    refine wp_asks trivial fun r hC => ?_
    cases r with
    | error e =>
      rw [fromResult_error, fail_bind, wp_fail]
      exact ⟨[],.nil,fun h => (by cases h),rfl⟩
    | ok hash =>
      rw [fromResult_ok, ret_bind, call_bind, wp_call]
      rintro r t ⟨hseed,-⟩
      cases hseed
      rw [fromResult_ok, ret_bind]
      refine (ih).imp fun y t h => ?_
      obtain ⟨hashes,hhashed,hall,hstored⟩ := h
      exact ⟨hash :: hashes,.cons hC hhashed,fun hy => congrArg (·+1) (hall hy),hstored⟩

/-- Every call ends in one of these ways. -/
theorem Call.outcome (c : Call) :
    (c.respond lib).Wp (Within lib C) s fun y t => Outcome lib C s t c y := by
  cases c with
  | seedBootstrapUsers cfg =>
    rw [Call.respond, wp_map]
    refine (wp_seedUsers _).imp fun y t h => ?_
    obtain ⟨hashes,hhashed,hall,hstored⟩ := h
    refine .seeded hashes hhashed (fun hy => hall ?_) hstored
    cases y with
    | error e => cases hy
    | ok u => rfl
  | createUser => exact (wp_map _ _).mpr (wp_createUser _ _)
  | signUp => exact (wp_map _ _).mpr (wp_signUp _)
  | login =>
    refine (wp_map _ _).mpr ((wp_login _ _).imp fun y t h => .idle (by rw [h.1]) fun r _ => ?_)
    cases r <;> rfl
  | loginWithGoogle => exact (wp_map _ _).mpr (wp_loginWithGoogle _)
  | updateUser => exact (wp_map _ _).mpr (wp_updateUser _ _)
  | resetPassword => exact (wp_map _ _).mpr (outcome_resetPassword _)
  | changePassword => exact (wp_map _ _).mpr (wp_changePassword _ _ _)
  | verifyEmail => exact (wp_map _ _).mpr (wp_verifyEmail _ _)
  | requestPasswordReset => exact (wp_map _ _).mpr (outcome_requestPasswordReset _)
  | completePasswordReset => exact (wp_map _ _).mpr (wp_completePasswordReset _ _ _)

end Calls

section Accounts
variable {lib : Lib} {C : (op : Op) → op.Res → Prop} {s t : State} {x : Served}

lemma Replies.sound (hs : s.users.Sound) (hx : Replies lib C s x t) : t.users.Sound := by
  obtain ⟨rfl,rfl,hruns⟩ := hx
  have hrows : (x.call.program lib).Wp (Answers lib) x.before fun _ t => t.users.Sound :=
    wp_iff.mpr fun _ _ h => (Call.rows hs h).1
  rw [Call.program_eq_respond, wp_map] at hrows
  exact hruns.wp (hrows.mono fun _ _ _ _ h => h.1)

/-- A property of the accounts survives a write of a row that has it. -/
lemma Rewrites.forall {P : User → Prop} {id : String} {old new : User}
    (h : Rewrites id old new s t) (hs : ∀ user ∈ s.users.users, P user)
    (hnew : P old → P new) : ∀ user ∈ t.users.users, P user := by
  rw [h.writes.2]
  intro user huser
  obtain rfl | huser := MemoryUserStore.mem_replace huser
  · exact hnew (hs old (MemoryUserStore.mem_of_findByID h.found))
  · exact hs user huser

/-- So it does when a row that has it is created. -/
lemma forall_create {P : User → Prop} {user row : User}
    (hstored : s.users.create lib user = (.ok row,t.users)) (hs : ∀ user ∈ s.users.users, P user)
    (hrow : P row) : ∀ user ∈ t.users.users, P user := by
  obtain hnone | ⟨row',_,hsome⟩ := s.users.create_cases lib user
  · rw [hnone] at hstored
    cases hstored
  · rw [hsome] at hstored
    obtain ⟨hrow',ht⟩ := Prod.mk.inj hstored
    obtain rfl := Except.ok.inj hrow'
    rw [← ht]
    intro user huser
    obtain huser | huser := List.mem_append.mp huser
    · exact hs user huser
    · rw [List.mem_singleton.mp huser]
      exact hrow

lemma forall_foldl_seed {P : User → Prop} {rows : List User} {users : MemoryUserStore}
    (hs : ∀ user ∈ users.users, P user)
    (hrows : ∀ row ∈ rows, ∀ identifier, P { row with identifier }) :
    ∀ user ∈ (rows.foldl (MemoryUserStore.seed lib) users).users, P user := by
  induction rows generalizing users with
  | nil => exact hs
  | cons row rest ih =>
    obtain ⟨hrow,hrest⟩ := List.forall_mem_cons.mp hrows
    rw [List.foldl_cons]
    refine ih ?_ hrest
    obtain h | ⟨_,rfl,_,h⟩ := users.seed_cases lib row
    · rwa [h]
    · rw [h]
      intro user huser
      obtain huser | huser := List.mem_append.mp huser
      · exact hs user huser
      · rw [List.mem_singleton.mp huser]
        exact hrow _

end Accounts
end OpsPlatform.Auth
