import OpsPlatform.Auth.SelfReset

/-! What a stranger learns from the forgot and reset endpoints. For a missing account every reset
gives one and the same error; an existing one counts the wrong codes, and from the fifth on
answers differently until its lock has run out. -/
namespace OpsPlatform.Auth
open OpsPlatform.Go Interaction Program

/-- An unauthenticated call about some identifier. -/
inductive Probe
  | forgot
  | reset (code newPassword : String)

def Probe.call (identifier : String) : Probe → Call
  | .forgot => .requestPasswordReset identifier
  | .reset code newPassword => .completePasswordReset identifier code newPassword

/-- The result of each probe, made one after another. -/
def probeResults (lib : Lib) (identifier : String) (s : State) (probes : List (Env × Probe)) :
    List (Except Error Unit) :=
  (serveAll lib s (probes.map fun p => (p.1,p.2.call identifier))).map (·.result)

/-- The clock readings of the resets. -/
def resetReadings (probes : List (Env × Probe)) : List Time :=
  probes.filterMap fun
    | (env,.reset _ _) => some env.now
    | _ => none

/-- No presented code is the one stored and in force when it is presented. -/
def NoneCorrect (lib : Lib) (identifier : String) : State → List (Env × Probe) → Prop
  | _, [] => True
  | s, (env,probe) :: rest =>
    (∀ code newPassword, probe = .reset code newPassword →
      ∀ user, s.users.findByIdentifier lib identifier = some user →
        CodeKind.passwordReset.accepts lib env.now code user = false) ∧
    NoneCorrect lib identifier (serve lib env (probe.call identifier) s).after rest

/-- The second state is the first with one more account, which has the identifier. -/
structure AddsAccount (lib : Lib) (identifier : String) (account : User) (s t : State) : Prop where
  clock : s.clock = t.clock
  seq : s.users.seq = t.users.seq
  rows : ∃ front back, s.users.users = front ++ back ∧ t.users.users = front ++ account :: back
  owns : account.identifier = normalizeIdentifier lib identifier
  missing : s.users.findByIdentifier lib identifier = none

section Missing
variable {lib : Lib} {identifier : String} {s : State}

/-- What a probe reports where there is no account. -/
def Probe.blank : Probe → Except Error Unit
  | .forgot => .ok ()
  | .reset _ _ => .error errInvalidOrExpiredCode

lemma serve_missing (hmissing : s.users.findByIdentifier lib identifier = none) (env : Env)
    (probe : Probe) : (serve lib env (probe.call identifier) s).result = probe.blank ∧
      (serve lib env (probe.call identifier) s).after = s := by
  cases probe with
  | forgot =>
    simp [serve, Probe.call, Call.program, requestPasswordReset, exec, hmissing, Probe.blank]
  | reset code newPassword =>
    simp [serve, Probe.call, Call.program, completePasswordReset, requireUser, exec, hmissing,
      Probe.blank]

theorem probeResults_missing (hmissing : s.users.findByIdentifier lib identifier = none)
    (probes : List (Env × Probe)) :
    probeResults lib identifier s probes = probes.map (·.2.blank) := by
  induction probes with
  | nil => rfl
  | cons p rest ih =>
    obtain ⟨env,probe⟩ := p
    obtain ⟨hresult,hafter⟩ := serve_missing hmissing env probe
    have hrest := ih
    unfold probeResults serveAll at hrest ⊢
    simp only [List.map_cons, labels, hresult, hafter, hrest]

end Missing

section Present
variable {lib : Lib} {identifier : String} {s : State} {user row : User}

/-- The account of the identifier, as both ways of looking it up find it. -/
def Watches (lib : Lib) (identifier : String) (s : State) (user : User) : Prop :=
  s.users.findByIdentifier lib identifier = some user ∧ s.users.findByID user.id = some user

lemma findByIdentifier_replace (users : List User) (hsame : row.identifier = user.identifier)
    (hfind : users.find? (fun u => u.identifier = normalizeIdentifier lib identifier) = some user)
    (hfindID : users.find? (fun u => u.id = user.id) = some user) :
    (MemoryUserStore.replace user.id row users).find?
      (fun u => u.identifier = normalizeIdentifier lib identifier) = some row := by
  induction users with
  | nil => cases hfind
  | cons existing rest ih =>
    have howns : user.identifier = normalizeIdentifier lib identifier := by
      simpa using List.find?_some hfind
    unfold MemoryUserStore.replace
    split_ifs with h
    · exact List.find?_cons_of_pos (by simpa [hsame] using howns)
    · rw [List.find?_cons_of_neg (by simpa using h)] at hfindID
      have hother : existing.identifier ≠ normalizeIdentifier lib identifier := by
        intro heq
        rw [List.find?_cons_of_pos (by simpa using heq)] at hfind
        exact h (congrArg User.id (Option.some.inj hfind))
      rw [List.find?_cons_of_neg (by simpa using hother)] at hfind ⊢
      exact ih hfind hfindID

/-- A row that keeps its id and its identifier takes the place of the one before. -/
lemma Watches.replace (h : Watches lib identifier s user) (row : User) (hid : row.id = user.id)
    (hsame : row.identifier = user.identifier) (clock : Time) :
    Watches lib identifier
      ⟨⟨s.users.seq,MemoryUserStore.replace user.id row s.users.users⟩,clock⟩ row := by
  constructor
  · exact findByIdentifier_replace s.users.users hsame h.1 h.2
  · rw [MemoryUserStore.findByID_replace hid h.2, if_pos hid]

variable (env : Env)

/-- The forgot endpoint never fails but where a code for the account cannot be drawn. -/
lemma serve_forgot (h : Watches lib identifier s user) :
    ∃ row, Watches lib identifier (serve lib env (Probe.forgot.call identifier) s).after row ∧
      row.failedOTPAttempts = user.failedOTPAttempts ∧ row.otpLockedUntil = user.otpLockedUntil ∧
      (row.External ↔ user.External) ∧
      ((serve lib env (Probe.forgot.call identifier) s).result = .ok () ↔
        (user.External → ∃ n, env.randInt 1000000 = .ok n)) := by
  simp only [serve, Probe.call, Call.program, requestPasswordReset, call_bind, run_call, exec,
    h.1, ret_bind]
  by_cases hgate : user.External
  · rw [if_neg (by simpa [User.External] using hgate)]
    simp only [generateOTP, call_bind, run_call, exec]
    cases hdraw : env.randInt 1000000 with
    | error e =>
      simp only [Except.mapError, fromResult_error, fail_bind, run_fail]
      exact ⟨user,h,rfl,rfl,Iff.rfl,by simp [hgate]⟩
    | ok n =>
      simp only [Except.mapError, fromResult_ok, pure_eq, ret_bind, run_call, exec,
        MemoryUserStore.updateAtomic, h.2, mutation, run_ret]
      exact ⟨_,h.replace (storeResetCode (hashOTP lib (sprintf06d n)) (env.now+otpTTL) user) rfl rfl _,rfl,rfl,Iff.rfl,by simp⟩
  · rw [if_pos (by simpa [User.External, or_iff_not_imp_left] using hgate)]
    simp only [pure_eq, run_ret]
    exact ⟨user,h,rfl,rfl,Iff.rfl,by simp [hgate]⟩

/-- A wrong code is refused with one error or the other, as the lock says, and counted. -/
lemma serve_reset (h : Watches lib identifier s user) {code : String} (newPassword : String)
    (hwrong : CodeKind.passwordReset.accepts lib env.now code user = false) :
    (serve lib env ((Probe.reset code newPassword).call identifier) s).result =
      (if user.lockedAt env.now then .error errTooManyAttempts else .error errInvalidOrExpiredCode) ∧
    Watches lib identifier
      (serve lib env ((Probe.reset code newPassword).call identifier) s).after
      (if user.lockedAt env.now then user else user.recordFailure env.now) := by
  simp only [serve, Probe.call, Call.program, completePasswordReset, requireUser, consumeOTP,
    call_bind, run_call, exec, h.1, id_eq, ret_bind, MemoryUserStore.updateAtomic, h.2, bind_assoc]
  cases hlocked : user.lockedAt env.now with
  | true =>
    have hcheck : checkOTP lib env.now .passwordReset code user = (user,⟨false,true⟩) := by
      simp [checkOTP, hlocked]
    simp only [hcheck, fromResult_ok, ret_bind, run_failIf_bind, if_true, true_and]
    exact h.replace user rfl rfl _
  | false =>
    have hcheck : checkOTP lib env.now .passwordReset code user =
        (user.recordFailure env.now,⟨false,false⟩) := by
      simp [checkOTP, hlocked, hwrong]
    simp only [hcheck, fromResult_ok, ret_bind, run_failIf_bind]
    simp only [Bool.false_eq_true, if_false, not_false_eq_true, if_true, true_and]
    exact h.replace (user.recordFailure env.now) rfl rfl _

end Present

/-- From this counter and this lock on, no reset comes while the account is locked. -/
def Unlocked : ℕ → Option Time → List Time → Prop
  | _, _, [] => True
  | attempts, lock, now :: rest =>
    (∀ lockedUntil ∈ lock, lockedUntil ≤ now) ∧ Unlocked (attempts+1)
      (if otpMaxAttempts ≤ attempts+1 then some (now+otpLockoutDuration) else lock) rest

section Spacing

/-- Two resets, the second not before a lock that the first has set runs out. -/
def LockApart (a b : Time) : Prop := a+otpLockoutDuration ≤ b

lemma unlocked_iff_isChain {attempts : ℕ} (h : otpMaxAttempts ≤ attempts) (now : Time)
    (rest : List Time) : Unlocked attempts (some (now+otpLockoutDuration)) rest ↔
      (now :: rest).IsChain LockApart := by
  induction rest generalizing attempts now with
  | nil => simp [Unlocked]
  | cons next rest ih =>
    have hnext : otpMaxAttempts ≤ attempts+1 := by omega
    simp [Unlocked, hnext, ih hnext, LockApart]

/-- The first four wrong codes are free; from the fifth on a lockout lies between any two. -/
lemma unlocked_fresh {attempts : ℕ} (h : attempts < otpMaxAttempts) (readings : List Time) :
    Unlocked attempts none readings ↔
      (readings.drop (otpMaxAttempts-1-attempts)).IsChain LockApart := by
  induction readings generalizing attempts with
  | nil => simp [Unlocked]
  | cons now rest ih =>
    by_cases hlast : otpMaxAttempts ≤ attempts+1
    · have hzero : otpMaxAttempts-1-attempts = 0 := by omega
      simp [Unlocked, hlast, hzero, unlocked_iff_isChain]
    · have hsucc : otpMaxAttempts-1-attempts = (otpMaxAttempts-1-(attempts+1))+1 := by omega
      rw [hsucc, List.drop_succ_cons, ← ih (by omega)]
      simp [Unlocked, hlast]

end Spacing

section Results
variable {lib : Lib} {identifier : String} {s t : State} {account : User}

lemma probeResults_cons (lib : Lib) (identifier : String) (s : State) (env : Env) (probe : Probe)
    (rest : List (Env × Probe)) : probeResults lib identifier s ((env,probe) :: rest) =
      (serve lib env (probe.call identifier) s).result ::
        probeResults lib identifier (serve lib env (probe.call identifier) s).after rest := rfl

/-- Every forgot call for an account that may reset its password can draw a code. -/
def DrawsCodes (user : User) (probes : List (Env × Probe)) : Prop :=
  user.External → ∀ p ∈ probes, p.2 = .forgot → ∃ n, p.1.randInt 1000000 = .ok n

lemma drawsCodes_recordFailure (user : User) (now : Time) (probes : List (Env × Probe)) :
    DrawsCodes (user.recordFailure now) probes ↔ DrawsCodes user probes := Iff.rfl

lemma lockedAt_eq_false (user : User) (now : Time) :
    user.lockedAt now = false ↔ ∀ lockedUntil ∈ user.otpLockedUntil, lockedUntil ≤ now := by
  cases hlock : user.otpLockedUntil <;> simp [User.lockedAt, hlock]

/-- Wrong codes are answered as for a missing account exactly as long as none comes during a
lock. -/
theorem probeResults_present {probes : List (Env × Probe)} {user : User}
    (hwatches : Watches lib identifier s user) (hnone : NoneCorrect lib identifier s probes) :
    probeResults lib identifier s probes = probes.map (·.2.blank) ↔
      DrawsCodes user probes ∧
        Unlocked user.failedOTPAttempts user.otpLockedUntil (resetReadings probes) := by
  induction probes generalizing s user with
  | nil => simp [probeResults, serveAll, labels, DrawsCodes, resetReadings, Unlocked]
  | cons p rest ih =>
    obtain ⟨env,probe⟩ := p
    obtain ⟨hwrong,hrest⟩ := hnone
    rw [probeResults_cons, List.map_cons, List.cons.injEq]
    cases probe with
    | forgot =>
      obtain ⟨row,hnext,hattempts,hlock,hmay,hresult⟩ := serve_forgot env hwatches
      have hreadings : resetReadings ((env,.forgot) :: rest) = resetReadings rest := rfl
      rw [Probe.blank, hresult, ih hnext hrest, hattempts, hlock, hreadings]
      simp only [DrawsCodes, hmay, List.forall_mem_cons, forall_const]
      tauto
    | reset code newPassword =>
      obtain ⟨hresult,hnext⟩ := serve_reset env hwatches newPassword
        (hwrong code newPassword rfl user hwatches.1)
      have hreadings : resetReadings ((env,.reset code newPassword) :: rest) =
        env.now :: resetReadings rest := rfl
      have hdraws : DrawsCodes user ((env,.reset code newPassword) :: rest) ↔
          DrawsCodes user rest := by
        simp [DrawsCodes]
      have hunlocked : Unlocked user.failedOTPAttempts user.otpLockedUntil
          (env.now :: resetReadings rest) ↔ user.lockedAt env.now = false ∧
            Unlocked (user.recordFailure env.now).failedOTPAttempts
              (user.recordFailure env.now).otpLockedUntil (resetReadings rest) := by
        rw [lockedAt_eq_false]; rfl
      rw [hresult, hreadings, hdraws, hunlocked]
      cases hlocked : user.lockedAt env.now with
      | true => simp [Probe.blank, errTooManyAttempts, errInvalidOrExpiredCode]
      | false =>
        rw [hlocked] at hnext
        rw [ih hnext hrest]
        simp [Probe.blank, drawsCodes_recordFailure]

/-- Where the two states differ in one account only, the results are the same exactly if no reset
comes while that account is locked. -/
theorem probes_reveal_nothing_iff {probes : List (Env × Probe)}
    (hadds : AddsAccount lib identifier account s t) (hids : (t.users.users.map (·.id)).Nodup)
    (hattempts : account.failedOTPAttempts = 0) (hlock : account.otpLockedUntil = none)
    (hnone : NoneCorrect lib identifier t probes) :
    probeResults lib identifier s probes = probeResults lib identifier t probes ↔
      DrawsCodes account probes ∧
        ((resetReadings probes).drop (otpMaxAttempts-1)).IsChain LockApart := by
  have hfind : t.users.findByIdentifier lib identifier = some account := by
    obtain ⟨front,back,hs,ht⟩ := hadds.rows
    have hfront := hadds.missing
    unfold MemoryUserStore.findByIdentifier at hfront ⊢
    rw [hs, List.find?_append, Option.or_eq_none_iff] at hfront
    rw [ht, List.find?_append, hfront.1, Option.none_or]
    exact List.find?_cons_of_pos (by simpa using hadds.owns)
  have hwatches : Watches lib identifier t account :=
    ⟨hfind,MemoryUserStore.findByID_of_nodup hids (List.mem_of_find?_eq_some hfind)⟩
  have hpresent := probeResults_present hwatches hnone
  rw [hattempts, hlock, unlocked_fresh (by decide), Nat.sub_zero] at hpresent
  rw [probeResults_missing hadds.missing, eq_comm, hpresent]

end Results

/-- Some wrong codes for one account, all at one instant. -/
def wrongCodes (n : ℕ) : List (Env × Probe) :=
  List.replicate n (sampleEnv 0,.reset "000000" "battery staple")

/-- Where the account holds no code, no code is correct. -/
lemma noneCorrect_wrongCodes {lib : Lib} {identifier : String} {s : State} {user : User}
    (hwatches : Watches lib identifier s user) (hcode : CodeKind.passwordReset.code user = none)
    (n : ℕ) : NoneCorrect lib identifier s (wrongCodes n) := by
  induction n generalizing s user with
  | zero => trivial
  | succ n ih =>
    have hwrong : CodeKind.passwordReset.accepts lib (sampleEnv 0).now "000000" user = false := by
      rw [Bool.eq_false_iff, ne_eq, accepts_iff, hcode]
      simp
    have hnext := (serve_reset (sampleEnv 0) hwatches "battery staple" hwrong).2
    constructor
    · rintro code newPassword ⟨⟩ found hfound
      rw [hwatches.1, Option.some.injEq] at hfound
      exact hfound ▸ hwrong
    · refine ih hnext ?_
      split_ifs
      · exact hcode
      · rwa [code_recordFailure]

lemma sampleUser_added : AddsAccount sampleLib "ada@example.org" sampleUser ⟨⟨1,[]⟩,0⟩
    ⟨⟨1,[sampleUser]⟩,0⟩ :=
  ⟨rfl,rfl,⟨[],[],rfl,rfl⟩,by decide +kernel,rfl⟩

lemma sampleUser_watched : Watches sampleLib "ada@example.org" ⟨⟨1,[sampleUser]⟩,0⟩ sampleUser := by
  constructor <;> decide +kernel

/-- Five wrong codes tell nothing. -/
theorem probes_reveal_nothing_iff_five :
    probeResults sampleLib "ada@example.org" ⟨⟨1,[]⟩,0⟩ (wrongCodes 5) =
      probeResults sampleLib "ada@example.org" ⟨⟨1,[sampleUser]⟩,0⟩ (wrongCodes 5) := by
  refine (probes_reveal_nothing_iff sampleUser_added (List.nodup_singleton _) rfl rfl
    (noneCorrect_wrongCodes sampleUser_watched rfl 5)).mpr ⟨?_,?_⟩
  · intro _ p hp hforgot
    rw [List.eq_of_mem_replicate hp] at hforgot
    cases hforgot
  · simp [resetReadings, wrongCodes, List.replicate, otpMaxAttempts]

/-- The sixth one in a row is answered differently where the account exists. -/
theorem sixth_code_reveals :
    ¬ ∀ (lib : Lib) (identifier : String) (account : User) (s t : State)
      (probes : List (Env × Probe)),
      AddsAccount lib identifier account s t → (t.users.users.map (·.id)).Nodup →
      account.failedOTPAttempts = 0 → account.otpLockedUntil = none →
      NoneCorrect lib identifier t probes →
      probeResults lib identifier s probes = probeResults lib identifier t probes := by
  intro h
  have hsame := h sampleLib "ada@example.org" sampleUser _ _ (wrongCodes 6) sampleUser_added
    (List.nodup_singleton _) rfl rfl (noneCorrect_wrongCodes sampleUser_watched rfl 6)
  revert hsame
  decide +kernel

end OpsPlatform.Auth
