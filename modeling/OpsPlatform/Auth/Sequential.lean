import OpsPlatform.Auth.LostAccountUpdate

/-! The auth service answering one call after another. A call that runs alone keeps, in every
account, what it does not answer for; a code check has the outcome `checkOTP` computes. -/
namespace OpsPlatform.Auth
open OpsPlatform.Go Interaction Program

/-- A call, its result, and the states it led between. -/
structure Exchange where
  call : Call
  before : State
  result : Except Error Unit
  after : State

/-- One call served, as a labelled step. -/
structure Serves (lib : Lib) (s : State) (x : Exchange) (t : State) : Prop where
  before : x.before = s
  after : x.after = t
  runs : (x.call.program lib).Runs (Answers lib) s x.result t

/-- One call served in a given environment. -/
def serve (lib : Lib) (env : Env) (c : Call) (s : State) : Exchange :=
  let reply := (c.program lib).run (exec lib env) s
  ⟨c,s,reply.1,reply.2⟩

/-- Calls served in order, each in an environment of its own. -/
def serveAll (lib : Lib) (s : State) (calls : List (Env × Call)) : List Exchange :=
  labels (fun call => serve lib call.1 call.2) (·.after) s calls

theorem trace_serveAll (lib : Lib) (s : State) (calls : List (Env × Call)) :
    ∃ t, Trace (Serves lib) s (serveAll lib s calls) t :=
  trace_labels (fun call s => ⟨rfl,rfl,runs_run (answers_exec lib call.1) _ s⟩) s calls

/-- The account a code is presented for. -/
def Call.target (lib : Lib) (users : MemoryUserStore) : Call → Option String
  | .verifyEmail userID _ => some userID
  | .completePasswordReset identifier _ _ => (users.findByIdentifier lib identifier).map (·.id)
  | _ => none

/-- No account is lost, and none changes in a field the call does not answer for. -/
def Keeps (c : Call) (s t : State) : Prop :=
  ∀ id old, s.users.findByID id = some old →
    ∃ new, t.users.findByID id = some new ∧ ∀ f ∉ c.responsible, f.Same old new

section Keeps
variable {lib : Lib} {c : Call} {s t u : State} {seen : List (Event Op.Res)}

lemma Keeps.refl (c : Call) (s : State) : Keeps c s s :=
  fun _ old hold => ⟨old,hold,fun f _ => .refl f old⟩

lemma Keeps.trans (h : Keeps c s t) (h' : Keeps c t u) : Keeps c s u := by
  intro id old hold
  obtain ⟨mid,hmid,hsame⟩ := h id old hold
  obtain ⟨new,hnew,hsame'⟩ := h' id mid hmid
  exact ⟨new,hnew,fun f hf => (hsame f hf).trans (hsame' f hf)⟩

/-- No operation a call may issue makes an account vanish. -/
lemma answers_persist {op : Op} {r : op.Res} (hmay : c.May lib seen op)
    (hanswer : Answers lib op s r t) {id : String} {old : User}
    (hold : s.users.findByID id = some old) : ∃ new, t.users.findByID id = some new := by
  have happend : ∀ seq (rows : List User),
      ∃ new, MemoryUserStore.findByID ⟨seq,s.users.users ++ rows⟩ id = some new := by
    intro seq rows
    unfold MemoryUserStore.findByID at hold ⊢
    exact ⟨old,by rw [List.find?_append, hold, Option.some_or]⟩
  have hreplace : ∀ {id' : String} {row found : User}, row.id = id' →
      s.users.findByID id' = some found →
      ∃ new, MemoryUserStore.findByID ⟨s.users.seq,MemoryUserStore.replace id' row s.users.users⟩ id
        = some new := by
    intro id' row found hrow hfound
    rw [MemoryUserStore.findByID_replace hrow hfound]
    split_ifs
    · exact ⟨row,rfl⟩
    · exact ⟨old,hold⟩
  cases hanswer with
  | update user =>
    obtain ⟨_,hstore⟩ | ⟨found,hfound,hstore⟩ := s.users.update_cases user
    · rw [hstore]; exact ⟨old,hold⟩
    · rw [hstore]; exact hreplace rfl hfound
  | create user =>
    obtain hstore | ⟨row,_,hstore⟩ := s.users.create_cases lib user
    · rw [hstore]; exact ⟨old,hold⟩
    · rw [hstore]; exact happend _ _
  | updateAtomic id' mutate =>
    unfold MemoryUserStore.updateAtomic
    cases hfind : s.users.findByID id' with
    | none => exact ⟨old,hold⟩
    | some found =>
      cases hr : mutate found with
      | error err => simp only [hr]; exact ⟨old,hold⟩
      | ok r =>
        simp only [hr]
        exact hreplace ((Call.Mutates.id hmay hr).trans (MemoryUserStore.id_of_findByID hfind)) hfind
  | seed user =>
    unfold MemoryUserStore.seed
    split_ifs
    · exact ⟨old,hold⟩
    · exact happend _ _
  | _ => exact ⟨old,hold⟩

/-- A call alone writes back only rows that are as it found them. -/
theorem Call.keeps {x : Except Error Unit} (hruns : (c.program lib).Runs (Answers lib) s x t) :
    Keeps c s t := by
  have hmay := c.ensures_start lib
  refine (hmay.runs (J := fun seen t => Keeps c s t ∧ ∀ id found,
    ⟨.findByID id,some found⟩ ∈ seen → found.id = id ∧ ∃ stored, t.users.findByID id = some stored ∧
      ∀ f ∉ c.responsible, f.Same found stored) hruns ⟨.refl c s,by simp⟩ ?_).elim
    fun _ h => h.1.1
  rintro seen op t r u hmay ⟨hkeeps,hseen⟩ hanswer
  have hstep : Keeps c t u := by
    have hfresh : Fresh c seen t op := by
      rintro user rfl
      obtain ⟨id,found,hmem,hpatch⟩ := hmay
      obtain ⟨hid,stored,hstored,hsame⟩ := hseen id found hmem
      refine ⟨id,found,hmem,hpatch,fun stored' hstored' => ?_⟩
      rw [hpatch.id, hid, hstored] at hstored'
      cases hstored'
      exact hsame
    intro id old hold
    obtain ⟨new,hnew⟩ := answers_persist hmay hanswer hold
    exact ⟨new,hnew,(kept_iff_fresh (e := ⟨op,r⟩) hmay hanswer).mpr hfresh id old new hold hnew⟩
  refine ⟨trivial,hkeeps.trans hstep,?_⟩
  intro id found hmem
  obtain hmem | hmem := List.mem_append.mp hmem
  · obtain ⟨hid,stored,hstored,hsame⟩ := hseen id found hmem
    obtain ⟨new,hnew,hsame'⟩ := hstep id stored hstored
    exact ⟨hid,new,hnew,fun f hf => (hsame f hf).trans (hsame' f hf)⟩
  · obtain ⟨rfl,hr⟩ := Event.mk.inj (List.mem_singleton.mp hmem)
    cases hr
    generalize hfound : some found = r at hanswer
    cases hanswer
    exact ⟨MemoryUserStore.id_of_findByID hfound.symm,found,hfound.symm,fun f _ => .refl f found⟩

end Keeps

section Effects
variable {lib : Lib} {s t : State} {x : Except Error Unit}

/-- Operations that write nothing leave the accounts. -/
lemma wp_of_quiet {α : Type} {p : M α} (hp : p.Only Op.Quiet) :
    p.Wp (Answers lib) s fun _ (t : State) => t.users = s.users := by
  refine wp_of_only (I := fun t : State => t.users = s.users) hp ?_ rfl
  intro op t r u hop ht hanswer
  cases hanswer <;> first | exact ht | cases hop

theorem getUser_effect {userID : String} {x : Except Error User}
    (hruns : (getUser userID).Runs (Answers lib) s x t) :
    t = s ∧ ∀ user, x = .ok user → s.users.findByID userID = some user := by
  simp only [getUser, requireUser] at hruns
  cases hruns with
  | call hfind hnext =>
    cases hfind
    cases hfound : s.users.findByID userID with
    | none =>
      simp only [hfound, id_eq] at hnext
      cases hnext
      exact ⟨rfl,fun user huser => by cases huser⟩
    | some user =>
      simp only [hfound, id_eq] at hnext
      cases hnext
      exact ⟨rfl,fun user' huser => congrArg some (Except.ok.inj huser)⟩

/-- A row is written back under its own id. -/
def Writes (id : String) (new : User) (s t : State) : Prop :=
  new.id = id ∧ t.users = ⟨s.users.seq,MemoryUserStore.replace id new s.users.users⟩

lemma Writes.findByID {id : String} {old new : User} (h : Writes id new s t)
    (hold : s.users.findByID id = some old) (k : String) :
    t.users.findByID k = if k = id then some new else s.users.findByID k := by
  rw [h.2]
  exact MemoryUserStore.findByID_replace h.1 hold k

/-- Writing back the row that was there is writing nothing. -/
lemma Writes.same {id : String} {old : User} (h : Writes id old s t)
    (hold : s.users.findByID id = some old) : t.users = s.users := by
  rw [h.2, MemoryUserStore.replace_self _ hold]

/-- An `Update` of a row under the id of a stored one. -/
lemma writes_of_update {id : String} {old new : User} (hid : new.id = id)
    (hold : s.users.findByID id = some old) :
    (s.users.update new).1 = .ok new ∧
    Writes id new s { s with users := (s.users.update new).2 } := by
  subst hid
  obtain ⟨hnone,_⟩ | ⟨_,_,hstore⟩ := s.users.update_cases new
  · rw [hold] at hnone
    cases hnone
  · rw [hstore]
    exact ⟨rfl,rfl,rfl⟩

/-- `UpdateUser` patches one account; it leaves all as they are where there is none of this id or
the patch is refused. -/
theorem updateUser_effect {userID : String} {input : UpdateUserInput} {x : Except Error User}
    (hruns : (updateUser userID input).Runs (Answers lib) s x t) :
    (t.users = s.users ∧
      ∀ old, s.users.findByID userID = some old → ∃ err, input.apply old = .error err) ∨
    ∃ old new, s.users.findByID userID = some old ∧ input.apply old = .ok new ∧
      Writes userID new s t := by
  simp only [updateUser, getUser, requireUser, call_bind] at hruns
  cases hruns with
  | call hfind hnext =>
    cases hfind
    cases hfound : s.users.findByID userID with
    | none =>
      simp only [hfound, id_eq, fail_bind] at hnext
      cases hnext
      exact .inl ⟨rfl,fun old hold => by cases hold⟩
    | some old =>
      simp only [hfound, id_eq, ret_bind] at hnext
      cases happly : input.apply old with
      | error err =>
        rw [happly, fromResult_error, fail_bind] at hnext
        cases hnext
        refine .inl ⟨rfl,fun old' hold => ?_⟩
        cases hold
        exact ⟨err,happly⟩
      | ok new =>
        have hpatch : (Call.updateUser userID input).Patches old new := .updateUser happly
        have hid : new.id = userID := hpatch.id.trans (MemoryUserStore.id_of_findByID hfound)
        rw [happly, fromResult_ok, ret_bind] at hnext
        cases hnext with
        | call hupdate hrest =>
          cases hupdate
          obtain ⟨hok,hwrites⟩ := writes_of_update (s := s) hid hfound
          rw [hok] at hrest
          cases hrest
          exact .inr ⟨old,new,rfl,happly,hwrites⟩

/-- `ResetPassword` sets a new password in one account, or changes nothing. -/
theorem wp_resetPassword (userID : String) :
    (resetPassword userID).Wp (Answers lib) s fun _ t =>
      t.users = s.users ∨ ∃ old passwordHash, s.users.findByID userID = some old ∧
        Writes userID { old with passwordHash, requiresPasswordChange := true } s t := by
  simp only [resetPassword, getUser, requireUser, call_bind]
  rw [wp_call]
  intro found _ hfind
  cases hfind
  cases hfound : s.users.findByID userID with
  | none => exact (wp_fail _).mpr (.inl rfl)
  | some old =>
    simp only [id_eq, ret_bind]
    refine (wp_of_quiet (only_drawChars _ _)).andThen (fun _ mid hmid => ?_) fun _ _ h => .inl h
    rw [wp_call]
    intro r _ hhash
    cases hhash
    cases r with
    | error e => exact (wp_fail e).mpr (.inl hmid)
    | ok passwordHash =>
      rw [fromResult_ok, ret_bind, wp_call]
      intro _ _ hupdate
      cases hupdate
      have holdID := MemoryUserStore.id_of_findByID hfound
      have hid : { old with passwordHash, requiresPasswordChange := true }.id = userID := holdID
      obtain ⟨hok,hwrites⟩ := writes_of_update (s := mid) hid (hmid ▸ hfound)
      rw [hok, fromResult_ok, ret_bind]
      refine (wp_ret _).mpr (.inr ⟨old,passwordHash,rfl,hwrites.1,?_⟩)
      rw [hwrites.2, hmid]

/-- `RequestPasswordReset` stores a code in a local account that holds the requester role, or
writes nothing. -/
theorem wp_requestPasswordReset (identifier : String) :
    ((Call.requestPasswordReset identifier).program lib).Wp (Answers lib) s fun _ t =>
      t.users = s.users ∨ ∃ user old hash expiresAt,
        s.users.findByIdentifier lib identifier = some user ∧
        user.hasRole .requester = true ∧ user.authProvider = .local ∧
        s.users.findByID user.id = some old ∧
        ∀ id, t.users.findByID id =
          if id = user.id then some (storeResetCode hash expiresAt old)
          else s.users.findByID id := by
  simp only [Call.program, requestPasswordReset, call_bind, ret_bind]
  rw [wp_call]
  intro found _ hfind
  cases hfind
  cases hfound : s.users.findByIdentifier lib identifier with
  | none => exact (wp_ret ()).mpr (.inl rfl)
  | some user =>
    dsimp only
    split_ifs with hgate
    · exact (wp_ret ()).mpr (.inl rfl)
    rw [not_or, not_not, not_not] at hgate
    refine (wp_of_quiet only_generateOTP).andThen (fun code mid hmid => ?_) fun _ _ h => .inl h
    rw [wp_call]
    intro now _ hnow
    cases hnow
    rw [wp_call]
    intro _ _ hupdate
    cases hupdate
    unfold mutation
    obtain ⟨_,hstore⟩ | ⟨old,hold,hstore⟩ := mid.users.updateAtomic_cases user.id
      fun user => (storeResetCode (hashOTP lib code) (now+otpTTL) user,
        (⟨false,false⟩ : OTPCheckResult))
    · rw [hstore, fromResult_error, fail_bind, wp_fail]
      exact .inl hmid
    · rw [hstore, fromResult_ok, ret_bind, wp_call]
      intro _ _ hsend
      cases hsend
      refine (wp_ret ()).mpr (.inr ⟨user,old,hashOTP lib code,now+otpTTL,rfl,hgate.1,hgate.2,
        hmid ▸ hold,fun id => ?_⟩)
      have hid : (storeResetCode (hashOTP lib code) (now+otpTTL) old).id = user.id := by
        rw [← MemoryUserStore.id_of_findByID hold]; rfl
      rw [← hmid]
      exact MemoryUserStore.findByID_replace hid hold id

end Effects

/-- What a call reports of a code check. -/
def OTPCheckResult.verdict (found : OTPCheckResult) : Except Error Unit :=
  if found.locked then .error errTooManyAttempts
  else if found.valid then .ok ()
  else .error errInvalidOrExpiredCode

section Guess
variable {lib : Lib} {c : Call} {kind : CodeKind} {code id : String} {s t : State}
  {x : Except Error Unit}

lemma wp_consumeOTP {Q : Except Error Unit → State → Prop}
    (hnone : ∀ now, s.users.findByID id = none → Q (.error errUserNotFound) ⟨s.users,now⟩)
    (hsome : ∀ now user, s.users.findByID id = some user →
      Q (checkOTP lib now kind code user).2.verdict
        ⟨⟨s.users.seq,MemoryUserStore.replace id (checkOTP lib now kind code user).1 s.users.users⟩,now⟩) :
    (consumeOTP lib id code kind).Wp (Answers lib) s Q := by
  rw [consumeOTP, call_bind, wp_call]
  intro now _ hnow
  cases hnow
  rw [ret_bind, call_bind, wp_call]
  intro _ _ hupdate
  cases hupdate
  obtain ⟨hfind,hstore⟩ | ⟨user,hfind,hstore⟩ :=
    MemoryUserStore.updateAtomic_cases s.users id (checkOTP lib now kind code)
  · rw [hstore, fromResult_error, fail_bind, wp_fail]
    exact hnone now hfind
  · have h := hsome now user hfind
    rw [hstore, fromResult_ok, ret_bind, wp_failIf_bind, wp_failIf]
    unfold OTPCheckResult.verdict at h
    refine ⟨fun hlocked => ?_,fun hfree => ⟨fun hwrong => ?_,fun hvalid => ?_⟩⟩
    · rwa [if_pos hlocked] at h
    · rwa [if_neg hfree, if_neg hwrong] at h
    · rwa [if_neg hfree, if_pos (not_not.mp hvalid)] at h

/-- What a guess for the account does there and elsewhere. -/
def GuessEffect (lib : Lib) (kind : CodeKind) (code id : String) (s : State)
    (x : Except Error Unit) (t : State) : Prop :=
  (∀ k ≠ id, t.users.findByID k = s.users.findByID k) ∧
  ∀ user, s.users.findByID id = some user →
    (checkOTP lib t.clock kind code user).2.valid = false →
    x = (checkOTP lib t.clock kind code user).2.verdict ∧
    t.users.findByID id = some (checkOTP lib t.clock kind code user).1

lemma findByID_check {user : User} (now : Time) (hfind : s.users.findByID id = some user)
    (k : String) : MemoryUserStore.findByID
      ⟨s.users.seq,MemoryUserStore.replace id (checkOTP lib now kind code user).1 s.users.users⟩ k =
      if k = id then some (checkOTP lib now kind code user).1 else s.users.findByID k :=
  MemoryUserStore.findByID_replace
    (checkOTP_id.trans (MemoryUserStore.id_of_findByID hfind)) hfind k

lemma wp_consumeOTP_effect :
    (consumeOTP lib id code kind).Wp (Answers lib) s (GuessEffect lib kind code id s) := by
  apply wp_consumeOTP
  · intro now hfind
    refine ⟨fun _ _ => rfl,fun user huser => ?_⟩
    rw [hfind] at huser
    cases huser
  · intro now user hfind
    refine ⟨fun k hk => ?_,fun user' huser' _ => ?_⟩
    · rw [findByID_check now hfind, if_neg hk]
    · rw [hfind] at huser'
      cases huser'
      exact ⟨rfl,by rw [findByID_check now hfind, if_pos rfl]⟩

/-- Once the check has succeeded, the rest of the reset writes to the same account only. -/
lemma wp_setPassword {newPassword : String} {Q : Except Error Unit → State → Prop}
    (hQ : ∀ x t, t.clock = s.clock → (∀ k ≠ id, t.users.findByID k = s.users.findByID k) → Q x t) :
    (do
      failIf (badLength newPassword) errInvalidUserInput
      let passwordHash ← call (.hash newPassword) fromResult
      let _ ← call (.updateAtomic id (mutation (setPasswordHash passwordHash))) fromResult
      return () : M Unit).Wp (Answers lib) s Q := by
  rw [wp_failIf_bind]
  refine ⟨fun _ => hQ _ _ rfl fun _ _ => rfl,fun _ => ?_⟩
  rw [call_bind, wp_call]
  intro r _ hhash
  cases hhash
  cases r with
  | error e => exact (wp_fail e).mpr (hQ _ _ rfl fun _ _ => rfl)
  | ok passwordHash =>
    rw [fromResult_ok, ret_bind, call_bind, wp_call]
    intro _ _ hupdate
    cases hupdate
    unfold mutation
    obtain ⟨_,hstore⟩ | ⟨user,hfind,hstore⟩ := s.users.updateAtomic_cases id
      fun user => (setPasswordHash passwordHash user,(⟨false,false⟩ : OTPCheckResult))
    · rw [hstore, fromResult_error, fail_bind, wp_fail]
      exact hQ _ _ rfl fun _ _ => rfl
    · rw [hstore, fromResult_ok, ret_bind]
      refine (wp_ret ()).mpr (hQ _ _ rfl fun k hk => ?_)
      have hid : (setPasswordHash passwordHash user).id = id := by
        rw [← MemoryUserStore.id_of_findByID hfind]; rfl
      exact (MemoryUserStore.findByID_replace hid hfind k).trans (if_neg hk)

end Guess

section GuessCall
variable {lib : Lib} {c : Call} {kind : CodeKind} {code : String} {s t : State}
  {x : Except Error Unit}

/-- The spec of a guess: it reaches its target only, and a wrong one does there what the code
check computes. -/
theorem guess_effect (hguess : c.guess = some (kind,code))
    (hruns : (c.program lib).Runs (Answers lib) s x t) :
    (c.target lib s.users = none → t.users = s.users) ∧
    ∀ id, c.target lib s.users = some id → GuessEffect lib kind code id s x t := by
  cases c with
  | verifyEmail userID code' =>
    cases hguess
    refine ⟨nofun,?_⟩
    rintro id ⟨⟩
    exact hruns.wp wp_consumeOTP_effect
  | completePasswordReset identifier code' newPassword =>
    cases hguess
    simp only [Call.program, completePasswordReset, requireUser, call_bind] at hruns
    cases hruns with
    | call hfind hnext =>
      cases hfind
      cases hfound : s.users.findByIdentifier lib identifier with
      | none =>
        simp only [hfound, id_eq, fail_bind] at hnext
        cases hnext
        refine ⟨fun _ => rfl,?_⟩
        intro id htarget
        simp [Call.target, hfound] at htarget
      | some user =>
        simp only [hfound, id_eq, ret_bind] at hnext
        refine ⟨fun hnone => by simp [Call.target, hfound] at hnone,?_⟩
        intro id htarget
        obtain rfl : user.id = id := by simpa [Call.target, hfound] using htarget
        refine hnext.wp (wp_consumeOTP_effect.andThen (fun _ mid hmid => ?_) fun _ _ h => h)
        refine wp_setPassword fun x t hclock hother => ⟨fun k hk => ?_,fun stored hstored => ?_⟩
        · rw [hother k hk, hmid.1 k hk]
        · intro hwrong
          rw [hclock] at hwrong ⊢
          have hverdict := (hmid.2 stored hstored hwrong).1
          simp only [OTPCheckResult.verdict, hwrong, Bool.false_eq_true, if_false] at hverdict
          split_ifs at hverdict
  | _ => cases hguess

end GuessCall

end OpsPlatform.Auth
