import OpsPlatform.Interaction.OneTime
import OpsPlatform.Auth.Footprint

/-! One-time codes under concurrency. The code in an account row is a register that issuing fills
and a successful check empties, whatever the interleaving, because every check is one atomic
call. -/
namespace OpsPlatform.Auth
open OpsPlatform.Go Interaction Program

/-- The code of this kind stored in a row, with its expiry. -/
def CodeKind.code (kind : CodeKind) (u : User) : Option (String × Time) :=
  match kind.getCode u with
  | (some storedHash,some expiresAt) => some (storedHash,expiresAt)
  | _ => none

/-- The calls that issue or check codes. -/
def Call.UsesOTP : Call → Prop
  | .signUp _ | .requestPasswordReset _ | .verifyEmail _ _ | .completePasswordReset _ _ _ => True
  | _ => False

/-- The kind of code a call issues. -/
def Call.issues : Call → Option CodeKind
  | .signUp _ => some .emailVerification
  | .requestPasswordReset _ => some .passwordReset
  | _ => none

/-- The row an event has written for this account. -/
def stored (id : String) : Event Op.Res → Option User
  | ⟨.create _,.ok created⟩ => if created.id = id then some created else none
  | ⟨.updateAtomic id' _,.ok (updated,_)⟩ => if id' = id then some updated else none
  | _ => none

/-- What a code check on this account has found in an event. -/
def checked (id : String) : Event Op.Res → Option OTPCheckResult
  | ⟨.updateAtomic id' _,.ok (_,result)⟩ => if id' = id then some result else none
  | _ => none

section Labels
variable {ι : Type} (calls : ι → Call) (kind : CodeKind) (id : String)

/-- The code a step has issued. -/
def issued (l : ι × Event Op.Res) : Option (String × Time) :=
  if (calls l.1).issues = some kind then (stored id l.2).bind kind.code else none

/-- The step is a code check that succeeds. -/
def succeeds (l : ι × Event Op.Res) : Bool :=
  (checked id l.2).any (·.valid) && decide ((calls l.1).guess.map (·.1) = some kind)

end Labels

section Check
variable {lib : Lib} {now : Time} {kind : CodeKind} {code : String} {user : User}

/-- The row after a successful check. -/
def CodeKind.redeem (kind : CodeKind) (user : User) : User :=
  { kind.onSuccess user with failedOTPAttempts := 0, otpLockedUntil := none }

variable (lib now kind code user) in
/-- The three ways a check ends. -/
theorem checkOTP_cases :
    (user.lockedAt now = true ∧ checkOTP lib now kind code user = (user,⟨false,true⟩)) ∨
    (user.lockedAt now = false ∧ kind.accepts lib now code user = true ∧
      checkOTP lib now kind code user = (kind.redeem user,⟨true,false⟩)) ∨
    (user.lockedAt now = false ∧ kind.accepts lib now code user = false ∧
      checkOTP lib now kind code user = (user.recordFailure now,⟨false,false⟩)) := by
  unfold checkOTP
  cases user.lockedAt now with
  | true => exact .inl ⟨rfl,rfl⟩
  | false =>
    cases kind.accepts lib now code user with
    | true => exact .inr (.inl ⟨rfl,rfl,rfl⟩)
    | false => exact .inr (.inr ⟨rfl,rfl,rfl⟩)

lemma accepts_iff : kind.accepts lib now code user = true ↔
    ∃ storedHash expiresAt, kind.code user = some (storedHash,expiresAt) ∧ now < expiresAt ∧
      hashOTP lib code = storedHash := by
  rcases hcode : kind.getCode user with ⟨hash,expiry⟩
  cases hash with
  | none => simp [CodeKind.accepts, CodeKind.code, hcode]
  | some storedHash =>
    cases expiry with
    | none => simp [CodeKind.accepts, CodeKind.code, hcode]
    | some expiresAt =>
      simp only [CodeKind.accepts, CodeKind.code, hcode, verifyOTP, Bool.and_eq_true,
        decide_eq_true_eq, Option.some.injEq, Prod.mk.injEq]
      constructor
      · rintro ⟨hnow,hhash⟩
        exact ⟨_,_,⟨rfl,rfl⟩,hnow,hhash⟩
      · rintro ⟨_,_,⟨rfl,rfl⟩,hnow,hhash⟩
        exact ⟨hnow,hhash⟩

@[simp] lemma code_redeem (kind kind' : CodeKind) (user : User) :
    kind'.code (kind.redeem user) = if kind = kind' then none else kind'.code user := by
  cases kind <;> cases kind' <;> rfl

@[simp] lemma redeem_id (kind : CodeKind) (user : User) : (kind.redeem user).id = user.id := by
  cases kind <;> rfl

@[simp] lemma code_recordFailure (kind : CodeKind) (user : User) (now : Time) :
    kind.code (user.recordFailure now) = kind.code user := by
  cases kind <;> rfl

@[simp] lemma code_setPasswordHash (kind : CodeKind) (passwordHash : String) (user : User) :
    kind.code (setPasswordHash passwordHash user) = kind.code user := by
  cases kind <;> rfl

@[simp] lemma code_storeResetCode (kind : CodeKind) (storedHash : String) (expiresAt : Time)
    (user : User) : kind.code (storeResetCode storedHash expiresAt user) =
      if kind = .passwordReset then some (storedHash,expiresAt) else kind.code user := by
  cases kind <;> rfl

lemma checkOTP_id : (checkOTP lib now kind code user).1.id = user.id := by
  rcases checkOTP_cases lib now kind code user with ⟨_,h⟩ | ⟨_,_,h⟩ | ⟨_,_,h⟩
  · rw [h]
  · rw [h, redeem_id]
  · rw [h]; rfl

variable (lib now kind code user) in
/-- A check is about no password. -/
lemma passwordHash_checkOTP :
    (checkOTP lib now kind code user).1.passwordHash = user.passwordHash := by
  rcases checkOTP_cases lib now kind code user with ⟨_,h⟩ | ⟨_,_,h⟩ | ⟨_,_,h⟩ <;> rw [h]
  · cases kind <;> rfl
  · rfl

variable (lib now kind code user) in
/-- Only a successful check takes a code away, and only one of its own kind. -/
lemma code_checkOTP (kind' : CodeKind) : kind'.code (checkOTP lib now kind code user).1 =
    if (checkOTP lib now kind code user).2.valid = true ∧ kind = kind' then none
    else kind'.code user := by
  rcases checkOTP_cases lib now kind code user with ⟨_,h⟩ | ⟨_,_,h⟩ | ⟨_,_,h⟩ <;> simp [h]

end Check

section Step
variable {ι : Type} {calls : ι → Call} {kind : CodeKind} {id : String} {lib : Lib} {s t : State}
  {i : ι} {seen : List (Event Op.Res)}

/-- A created account holds the code its sign-up issued, and no other. -/
lemma code_create {user row : User} {r : Except Error User} (hcall : (calls i).UsesOTP)
    (hmay : (calls i).Creates lib seen user) (hr : r = .ok row)
    (hcode : ∀ kind : CodeKind, kind.code row = kind.code user)
    (hfree : s.users.findByID row.id = none) :
    (if id = row.id then some row else s.users.findByID id).bind kind.code =
      OneTime.next (issued calls kind id) (succeeds calls kind id)
        ((s.users.findByID id).bind kind.code) (i,⟨.create user,r⟩) := by
  subst hr
  by_cases hid : id = row.id
  · subst hid
    cases hc : calls i with
    | signUp input =>
      rw [hc] at hmay
      cases hmay with
      | signUp code at_ read hash expiry noReset =>
        cases kind with
        | emailVerification =>
          have hrow : CodeKind.emailVerification.code row = some (hashOTP lib code,at_+otpTTL) := by
            rw [hcode]; simp [CodeKind.code, CodeKind.getCode, hash, expiry]
          simp [OneTime.next, issued, stored, hc, Call.issues, hrow]
        | passwordReset =>
          have hrow : CodeKind.passwordReset.code row = none := by
            rw [hcode]; simp [CodeKind.code, CodeKind.getCode, noReset]
          simp [OneTime.next, issued, succeeds, checked, hc, Call.issues, hrow, hfree]
    | _ =>
      rw [hc] at hcall hmay
      first | exact hcall.elim | cases hmay
  · have hne : ¬ row.id = id := Ne.symm hid
    simp [OneTime.next, issued, succeeds, stored, checked, hid, hne]

variable (kind id) in
/-- What an atomic update by one of the calls makes of the codes in the row. -/
lemma code_mutate {id' : String} {old : User} {mutate : User → Except Error (User × OTPCheckResult)}
    {r : User × OTPCheckResult} (hmay : (calls i).Mutates lib seen mutate)
    (hr : mutate old = .ok r) (hold : s.users.findByID id' = some old) :
    r.1.id = id' ∧
    (if id = id' then some r.1 else s.users.findByID id).bind kind.code =
      OneTime.next (issued calls kind id) (succeeds calls kind id)
        ((s.users.findByID id).bind kind.code) (i,⟨.updateAtomic id' mutate,.ok r⟩) := by
  have holdID := MemoryUserStore.id_of_findByID hold
  generalize hc : calls i = c at hmay
  cases hmay with
  | @check _ kind' code at_ guess read =>
    cases hr
    refine ⟨checkOTP_id.trans holdID,?_⟩
    have hissues : c.issues = none := by cases c <;> first | rfl | cases guess
    by_cases hid : id = id'
    · subst hid
      have hcode := code_checkOTP lib at_ kind' code old kind
      by_cases hkind : kind' = kind
      · subst hkind
        simp [OneTime.next, issued, succeeds, checked, hc, hissues, guess, hold, hcode]
      · simp [OneTime.next, issued, succeeds, hc, hissues, guess, hold, hcode, hkind]
    · have hne : ¬ id' = id := Ne.symm hid
      simp [OneTime.next, issued, succeeds, checked, hc, hissues, hid, hne]
  | @storeCode identifier code at_ read =>
    cases hr
    refine ⟨holdID,?_⟩
    by_cases hid : id = id'
    · subst hid
      cases kind <;>
        simp [OneTime.next, issued, succeeds, stored, checked, hc, Call.issues, Call.guess, hold]
    · have hne : ¬ id' = id := Ne.symm hid
      simp [OneTime.next, issued, succeeds, stored, checked, hid, hne]
  | @setPassword identifier code newPassword passwordHash =>
    cases hr
    refine ⟨holdID,?_⟩
    by_cases hid : id = id'
    · subst hid
      simp [OneTime.next, issued, succeeds, checked, hc, Call.issues, hold]
    · have hne : ¬ id' = id := Ne.symm hid
      simp [OneTime.next, issued, succeeds, checked, hc, Call.issues, hid, hne]

variable (calls kind id i) in
/-- The step lemma: the code in the row is the content of the register. -/
theorem code_step {e : Event Op.Res} (hs : s.users.Sound) (hcall : (calls i).UsesOTP)
    (hmay : (calls i).May lib seen e.op) (hanswer : Answers lib e.op s e.res t) :
    t.users.Sound ∧ (t.users.findByID id).bind kind.code =
      OneTime.next (issued calls kind id) (succeeds calls kind id)
        ((s.users.findByID id).bind kind.code) (i,e) := by
  obtain ⟨op,res⟩ := e
  cases hanswer with
  | create user =>
    obtain h | ⟨row,hrow,h⟩ := s.users.create_cases lib user
    · rw [h]
      exact ⟨hs,by simp [OneTime.next, issued, succeeds, stored, checked]⟩
    · have hid : row.id = userID (s.users.seq+1) := by rw [hrow]
      have hfree : s.users.findByID row.id = none := by rw [hid, MemoryUserStore.findByID_next hs]
      rw [h]
      refine ⟨hs.create hid,?_⟩
      rw [MemoryUserStore.findByID_concat hfree]
      refine code_create hcall hmay rfl ?_ hfree
      intro kind
      rw [hrow]
      cases kind <;> rfl
  | updateAtomic id' mutate =>
    unfold MemoryUserStore.updateAtomic
    cases hfind : s.users.findByID id' with
    | none => exact ⟨hs,by simp [OneTime.next, issued, succeeds, stored, checked]⟩
    | some old =>
      cases hr : mutate old with
      | error err =>
        simp only [hr]
        exact ⟨hs,by simp [OneTime.next, issued, succeeds, stored, checked]⟩
      | ok r =>
        obtain ⟨hid,hcode⟩ := code_mutate kind id hmay hr hfind
        simp only [hr]
        refine ⟨hs.replace hid,?_⟩
        rw [MemoryUserStore.findByID_replace hid hfind]
        exact hcode
  | update user =>
    obtain ⟨_,_,_,hpatch⟩ := hmay
    generalize calls i = c at hcall hpatch
    cases hpatch <;> exact hcall.elim
  | seed user =>
    obtain ⟨cfg,hc,_⟩ := hmay
    rw [hc] at hcall
    exact hcall.elim
  | _ => exact ⟨hs,by simp [OneTime.next, issued, succeeds, stored, checked]⟩

/-- A step that issues a code has read the clock, and the code lasts ten minutes from there. -/
lemma issued_expiry {e : Event Op.Res} (hmay : (calls i).May lib seen e.op)
    (hanswer : Answers lib e.op s e.res t) {storedHash : String} {expiresAt : Time}
    (h : issued calls kind id (i,e) = some (storedHash,expiresAt)) :
    ∃ at_, reading seen = some at_ ∧ expiresAt = at_+otpTTL := by
  obtain ⟨op,res⟩ := e
  unfold issued at h
  split_ifs at h with hissues
  cases hc : calls i with
  | signUp input =>
    simp only [hc, Call.issues, Option.some.injEq] at hissues
    subst hissues
    cases hanswer with
    | create user =>
      rw [hc] at hmay
      cases hmay with
      | signUp code at_ read hash expiry noReset =>
        obtain hstore | ⟨row,hrow,hstore⟩ := s.users.create_cases lib user
        · simp [hstore, stored] at h
        · simp only [hstore, stored] at h
          split_ifs at h
          · rw [Option.bind_some, hrow] at h
            simp only [CodeKind.code, CodeKind.getCode, hash, expiry, Option.some.injEq,
              Prod.mk.injEq] at h
            exact ⟨at_,read,h.2.symm⟩
          · simp at h
    | updateAtomic id' mutate =>
      rw [hc] at hmay
      cases hmay with
      | check at_ guess read => cases guess
    | _ => simp [stored] at h
  | requestPasswordReset identifier =>
    simp only [hc, Call.issues, Option.some.injEq] at hissues
    subst hissues
    cases hanswer with
    | updateAtomic id' mutate =>
      rw [hc] at hmay
      cases hmay with
      | check at_ guess read => cases guess
      | storeCode code at_ read =>
        unfold mutation at h
        obtain ⟨_,hstore⟩ | ⟨old,_,hstore⟩ := s.users.updateAtomic_cases id' fun user =>
          (storeResetCode (hashOTP lib code) (at_+otpTTL) user,(⟨false,false⟩ : OTPCheckResult))
        · simp [hstore, stored] at h
        · simp only [hstore, stored] at h
          split_ifs at h
          · simp only [Option.bind_some, code_storeResetCode, if_true, Option.some.injEq,
              Prod.mk.injEq] at h
            exact ⟨at_,read,h.2.symm⟩
          · simp at h
    | create user =>
      rw [hc] at hmay
      cases hmay
    | _ => simp [stored] at h
  | _ => simp [hc, Call.issues] at hissues

/-- A successful check finds the presented code in the row, in time and outside any lockout. -/
lemma succeeds_check {e : Event Op.Res} (hmay : (calls i).May lib seen e.op)
    (hanswer : Answers lib e.op s e.res t) (h : succeeds calls kind id (i,e) = true) :
    ∃ at_ code old, reading seen = some at_ ∧ (calls i).guess = some (kind,code) ∧
      s.users.findByID id = some old ∧ old.lockedAt at_ = false ∧
      kind.accepts lib at_ code old = true := by
  obtain ⟨op,res⟩ := e
  simp only [succeeds, Bool.and_eq_true, decide_eq_true_eq] at h
  obtain ⟨hvalid,hkind⟩ := h
  cases hanswer with
  | updateAtomic id' mutate =>
    unfold MemoryUserStore.updateAtomic at hvalid
    cases hfind : s.users.findByID id' with
    | none => simp [hfind, checked] at hvalid
    | some old =>
      cases hr : mutate old with
      | error err => simp [hfind, hr, checked] at hvalid
      | ok r =>
        simp only [hfind, hr, checked] at hvalid
        split_ifs at hvalid with hid
        · subst hid
          rw [Option.any_some] at hvalid
          change (calls i).Mutates lib seen mutate at hmay
          generalize calls i = c at hmay hkind ⊢
          cases hmay with
          | @check _ kind' code at_ guess read =>
            rw [guess, Option.map_some, Option.some.injEq] at hkind
            subst hkind
            cases hr
            obtain ⟨_,hcheck⟩ | ⟨hlocked,haccepts,_⟩ | ⟨_,_,hcheck⟩ :=
              checkOTP_cases lib at_ kind' code old
            · rw [hcheck] at hvalid; cases hvalid
            · exact ⟨at_,code,old,read,guess,hfind,hlocked,haccepts⟩
            · rw [hcheck] at hvalid; cases hvalid
          | storeCode => cases hr; cases hvalid
          | setPassword => cases hr; cases hvalid
        · cases hvalid
  | _ => simp [checked] at hvalid

end Step

section Run
variable {ι : Type} [DecidableEq ι] {lib : Lib} {calls : ι → Call} {s : State}
  {ls : List (ι × Event Op.Res)} {p : Calls ι}

/-- In every run the code in a row is what issuing and checking have left in the register, and
every call keeps to its footprint. -/
theorem codes_held (hcalls : ∀ i, (calls i).UsesOTP) (hs : s.users.Sound)
    (hrun : Trace (Pool.Step (Answers lib)) (begin lib calls s) ls p) :
    p.state.users.Sound ∧
    (∀ kind id, (p.state.users.findByID id).bind kind.code =
      OneTime.held (issued calls kind id) (succeeds calls kind id)
        ((s.users.findByID id).bind kind.code) ls) ∧
    ∀ i, (p.thread i).Ensures (fun _ _ => True) ((calls i).May lib) (fun _ _ => True)
      (p.seen i) := by
  refine hrun.inv (I := fun ls p => p.state.users.Sound ∧
    (∀ kind id, (p.state.users.findByID id).bind kind.code =
      OneTime.held (issued calls kind id) (succeeds calls kind id)
        ((s.users.findByID id).bind kind.code) ls) ∧
    ∀ i, (p.thread i).Ensures (fun _ _ => True) ((calls i).May lib) (fun _ _ => True)
      (p.seen i)) ⟨hs,fun _ _ => rfl,fun i => (calls i).ensures_may⟩ ?_
  rintro ls p l q ⟨hsound,hheld,hthreads⟩ hstep
  obtain ⟨hmay,hnext⟩ := hstep.ensures hthreads trivial
  refine ⟨(code_step calls .passwordReset "" l.1 hsound (hcalls _) hmay hstep.answered).1,?_,hnext⟩
  intro kind id
  rw [(code_step calls kind id l.1 hsound (hcalls _) hmay hstep.answered).2, hheld kind id,
    OneTime.held_concat]

/-- A code is honoured at most once after each issue, only while it is the latest one of its kind
and not expired, and never during a lockout. -/
theorem codes_used_once (hcalls : ∀ i, (calls i).UsesOTP) (hs : s.users.Sound)
    (hrun : Trace (Pool.Step (Answers lib)) (begin lib calls s) ls p)
    {l : ι × Event Op.Res} {q : Calls ι} (hstep : Pool.Step (Answers lib) p l q)
    (kind : CodeKind) (id : String) :
    (∀ storedHash expiresAt, issued calls kind id l = some (storedHash,expiresAt) →
      ∃ at_, reading (p.seen l.1) = some at_ ∧ expiresAt = at_+otpTTL) ∧
    (succeeds calls kind id l = true →
      (∀ before l' after, ls = before ++ l' :: after → succeeds calls kind id l' = true →
        ∃ m ∈ after, (issued calls kind id m).isSome) ∧
      ∃ at_ code expiresAt, reading (p.seen l.1) = some at_ ∧
        (calls l.1).guess = some (kind,code) ∧
        OneTime.latest (issued calls kind id) ((s.users.findByID id).bind kind.code) ls =
          some (hashOTP lib code,expiresAt) ∧
        at_ < expiresAt ∧
        ∀ user, p.state.users.findByID id = some user →
          ∀ lockedUntil, user.otpLockedUntil = some lockedUntil → lockedUntil ≤ at_) := by
  obtain ⟨hsound,hheld,hthreads⟩ := codes_held hcalls hs hrun
  obtain ⟨hmay,_⟩ := hstep.ensures hthreads trivial
  refine ⟨fun storedHash expiresAt => issued_expiry hmay hstep.answered,?_⟩
  intro hsucceeds
  obtain ⟨at_,code,old,hread,hguess,hfind,hlocked,haccepts⟩ :=
    succeeds_check hmay hstep.answered hsucceeds
  obtain ⟨storedHash,expiresAt,hcode,hexpiry,hhash⟩ := accepts_iff.mp haccepts
  have hregister := hheld kind id
  rw [hfind, Option.bind_some, hcode] at hregister
  constructor
  · rintro before l' after rfl hspent
    refine OneTime.put_since_spend hspent ?_ hregister.symm
    -- a call that presents a code issues none
    simp only [succeeds, Bool.and_eq_true, decide_eq_true_eq] at hspent
    unfold issued
    cases hc : calls l'.1 <;> simp_all [Call.guess, Call.issues]
  · refine ⟨at_,code,expiresAt,hread,hguess,?_,hexpiry,?_⟩
    · rw [hhash]
      exact OneTime.latest_of_held hregister.symm
    · intro user huser lockedUntil huntil
      rw [hfind] at huser
      cases huser
      simpa [User.lockedAt, huntil] using hlocked

end Run

/-- A sign-up, then the verification of its code. -/
def signUpThenVerify : Bool → Call
  | false => .signUp ⟨"ada@example.org","correct horse","Ada"⟩
  | true => .verifyEmail "user-0001" "000000"

theorem codes_used_once_verified :
    ∃ (ls : List (Bool × Event Op.Res)) (l : Bool × Event Op.Res) (at_ : Time) (code : String)
      (expiresAt : Time), (signUpThenVerify l.1).guess = some (.emailVerification,code) ∧
      OneTime.latest (issued signUpThenVerify .emailVerification "user-0001") none ls =
        some (hashOTP sampleLib code,expiresAt) ∧ at_ < expiresAt := by
  let start : Calls Bool := begin sampleLib signUpThenVerify ⟨.new,0⟩
  let world := exec sampleLib (sampleEnv 0)
  let schedule := List.replicate 7 false ++ [true]
  have hcalls : ∀ i, (signUpThenVerify i).UsesOTP := by intro i; cases i <;> trivial
  have hrun := (Pool.trace_play (answers_exec sampleLib (sampleEnv 0)) (fun _ _ => true) start
    schedule (Pool.passes_true _ _)).imp fun _ _ _ h => h.1
  have hlast : (((start.play world schedule).2.next? world true).map fun x =>
      succeeds signUpThenVerify .emailVerification "user-0001" x.1) = some true := by
    decide +kernel
  obtain ⟨⟨l,q⟩,hnext,hsucceeds⟩ := Option.map_eq_some_iff.mp hlast
  obtain ⟨_,at_,code,expiresAt,_,hguess,hlatest,hexpiry,_⟩ := (codes_used_once hcalls
    MemoryUserStore.new_sound hrun (Pool.step_of_next? (answers_exec sampleLib (sampleEnv 0)) hnext)
    .emailVerification "user-0001").2 hsucceeds
  exact ⟨_,l,at_,code,expiresAt,hguess,hlatest,hexpiry⟩

/-- The account whose code a call checks, by what it has seen. -/
def Call.Checks (seen : List (Event Op.Res)) : Call → String → Prop
  | .verifyEmail userID _, id => userID = id
  | .completePasswordReset identifier _ _, id =>
    ∃ user, ⟨.findByIdentifier identifier,some user⟩ ∈ seen ∧ user.id = id
  | _, _ => False

/-- A call has seen its check of the account's code succeed. -/
def Call.Passed (seen : List (Event Op.Res)) (c : Call) (id : String) : Prop :=
  c.Checks seen id ∧ ∃ e ∈ seen, (checked id e).any (·.valid) = true

/-- What a call that presents a code may write: it sets a password only where its check has
succeeded. -/
def Call.Redeems (c : Call) (seen : List (Event Op.Res)) : Op → Prop
  | .updateAtomic id mutate => ∀ user r, mutate user = .ok r → r.1.id = user.id ∧
    (r.1.passwordHash = user.passwordHash ∨ c.Passed seen id)
  | op => op.Quiet

section Honoured
variable {lib : Lib} {R : List (Event Op.Res) → Event Op.Res → Prop} {c : Call} {kind : CodeKind}
  {id code : String} {seen : List (Event Op.Res)}

lemma Call.Checks.mono {seen' : List (Event Op.Res)} (h : c.Checks seen id) (hseen : seen <+: seen') :
    c.Checks seen' id := by
  cases c with
  | completePasswordReset =>
    obtain ⟨user,hfound,hid⟩ := h
    exact ⟨user,hseen.subset hfound,hid⟩
  | _ => exact h

lemma Call.Passed.mono {seen' : List (Event Op.Res)} (h : c.Passed seen id) (hseen : seen <+: seen') :
    c.Passed seen' id := by
  obtain ⟨hchecks,e,he,hvalid⟩ := h
  exact ⟨hchecks.mono hseen,e,hseen.subset he,hvalid⟩

/-- The check ends without an error only if it has found the code to be valid. -/
lemma passed_consumeOTP (hchecks : c.Checks seen id) :
    (consumeOTP lib id code kind).Ensures R c.Redeems
      (fun seen' x => x = .ok () → c.Passed seen' id) seen := by
  rw [consumeOTP, call_bind, ensures_call]
  refine ⟨trivial,fun now _ => ?_⟩
  rw [ret_bind, call_bind, ensures_call]
  refine ⟨fun user r hr => ?_,fun r _ => ?_⟩
  · cases hr
    exact ⟨checkOTP_id,.inl (passwordHash_checkOTP ..)⟩
  cases r with
  | error err => exact (ensures_fail _).mpr fun h => (by cases h)
  | ok found =>
    obtain ⟨row,result⟩ := found
    rw [fromResult_ok, ret_bind]
    refine (ensures_failIf_bind _ _ _).mpr ⟨fun _ h => (by cases h),fun _ => ?_⟩
    refine (ensures_failIf _ _).mpr ⟨fun _ h => (by cases h),fun hvalid _ => ?_⟩
    refine ⟨hchecks.mono ((List.prefix_append _ _).trans (List.prefix_append _ _)),_,
      List.mem_concat_self,?_⟩
    simpa [checked] using hvalid

/-- What a call with a code writes and how it ends. -/
theorem passed_program (hguess : c.guess.isSome) : (c.program lib).Ensures R c.Redeems
    (fun seen' x => x = .ok () → ∃ id, c.Passed seen' id) [] := by
  cases c with
  | verifyEmail userID code =>
    exact (passed_consumeOTP (c := .verifyEmail userID code) rfl).imp (fun _ _ h => h)
      fun _ _ _ h hx => ⟨userID,h hx⟩
  | completePasswordReset identifier code newPassword =>
    rw [Call.program, completePasswordReset, requireUser, call_bind, ensures_call]
    refine ⟨trivial,fun found _ => ?_⟩
    cases found with
    | none => exact (ensures_fail _).mpr fun h => (by cases h)
    | some user =>
      rw [id, ret_bind, ensures_bind]
      have hchecks : (Call.completePasswordReset identifier code newPassword).Checks
          ([] ++ [⟨.findByIdentifier identifier,some user⟩]) user.id := ⟨user,by simp,rfl⟩
      refine (passed_consumeOTP hchecks).imp (fun _ _ h => h) fun seen' x _ hx => ?_
      cases x with
      | error err => exact fun h => (by cases h)
      | ok _ =>
        have hpassed := hx rfl
        refine (ensures_failIf_bind _ _ _).mpr ⟨fun _ h => (by cases h),fun _ => ?_⟩
        rw [call_bind, ensures_call]
        refine ⟨trivial,fun r _ => ?_⟩
        cases r with
        | error err => exact (ensures_fail _).mpr fun h => (by cases h)
        | ok passwordHash =>
          rw [fromResult_ok, ret_bind, call_bind, ensures_call]
          refine ⟨fun row r hr => ?_,fun r _ => ?_⟩
          · cases hr
            exact ⟨rfl,.inr (hpassed.mono (List.prefix_append _ _))⟩
          cases r with
          | error err => exact (ensures_fail _).mpr fun h => (by cases h)
          | ok written => exact (ensures_ret _).mpr fun _ => ⟨user.id,hpassed.mono (by simp)⟩
  | _ => cases hguess

variable {ι : Type} [DecidableEq ι] {calls : ι → Call} {s : State} {ls : List (ι × Event Op.Res)}
  {p : Calls ι} {i : ι}

/-- What a call has seen to pass is a step that succeeds. -/
lemma Call.Passed.succeeds (hrun : Trace (Pool.Step (Answers lib)) (begin lib calls s) ls p)
    (hguess : (calls i).guess = some (kind,code)) (h : (calls i).Passed (p.seen i) id) :
    (calls i).Checks (p.seen i) id ∧ ∃ e, (i,e) ∈ ls ∧ succeeds calls kind id (i,e) = true := by
  obtain ⟨hchecks,e,he,hvalid⟩ := h
  exact ⟨hchecks,e,(Pool.mem_seen hrun i e).mp he,by simp [Auth.succeeds, hvalid, hguess]⟩

/-- A step sets the password of an account only where its call has seen a check succeed. -/
lemma passed_of_changed {e : Event Op.Res} {t u : State} {old new : User}
    (hwrites : c.Redeems seen e.op) (hanswer : Answers lib e.op t e.res u)
    (hold : t.users.findByID id = some old) (hnew : u.users.findByID id = some new)
    (hchanged : new.passwordHash ≠ old.passwordHash) : c.Passed seen id := by
  have hsame : new ≠ old := by
    rintro rfl
    exact hchanged rfl
  obtain ⟨op,res⟩ := e
  by_cases hquiet : op.Quiet
  · rw [users_of_quiet hquiet hanswer, hold] at hnew
    exact (hsame (Option.some.inj hnew).symm).elim
  cases op with
  | updateAtomic id' mutate =>
    cases hanswer
    obtain h | ⟨rfl,r,hr,rfl⟩ := MemoryUserStore.findByID_updateAtomic
      (fun user r hr => (hwrites user r hr).1) hold hnew
    · exact (hsame h).elim
    · exact (hwrites old r hr).2.resolve_left hchanged
  | create | update | seed => cases hwrites
  | _ => exact (hquiet trivial).elim

/-- A call with a code returns without an error, and sets a password, only after a check of its own
that succeeds on the account it names. -/
theorem honoured_checked (hrun : Trace (Pool.Step (Answers lib)) (begin lib calls s) ls p)
    (hguess : (calls i).guess = some (kind,code)) :
    ((p.thread i).result = some (.ok ()) → ∃ id, (calls i).Checks (p.seen i) id ∧
      ∃ e, (i,e) ∈ ls ∧ succeeds calls kind id (i,e) = true) ∧
    ∀ e q id old new, Pool.Step (Answers lib) p (i,e) q →
      p.state.users.findByID id = some old → q.state.users.findByID id = some new →
      new.passwordHash ≠ old.passwordHash → (calls i).Checks (p.seen i) id ∧
        ∃ e', (i,e') ∈ ls ∧ succeeds calls kind id (i,e') = true := by
  have hthreads : ∀ i, (p.thread i).Ensures (fun _ _ => True)
      (fun seen op => (calls i).guess.isSome → (calls i).Redeems seen op)
      (fun seen x => (calls i).guess.isSome → x = .ok () → ∃ id, (calls i).Passed seen id)
      (p.seen i) := by
    refine hrun.inv (I := fun _ p => ∀ i, (p.thread i).Ensures (fun _ _ => True)
      (fun seen op => (calls i).guess.isSome → (calls i).Redeems seen op)
      (fun seen x => (calls i).guess.isSome → x = .ok () → ∃ id, (calls i).Passed seen id)
      (p.seen i)) (fun i => ?_) fun _ _ _ _ hp hstep => (hstep.ensures hp trivial).2
    by_cases hsome : (calls i).guess.isSome
    · exact (passed_program hsome).imp (fun _ _ h _ => h) fun _ _ _ h _ => h
    · exact (ensures_trivial _ _).imp (fun _ _ _ h => (hsome h).elim)
        fun _ _ _ _ h => (hsome h).elim
  have hsome : (calls i).guess.isSome := by rw [hguess]; rfl
  refine ⟨fun hresult => ?_,fun e q id old new hstep hold hnew hchanged => ?_⟩
  · obtain ⟨id,hpassed⟩ := (hthreads i).result hresult hsome rfl
    exact ⟨id,hpassed.succeeds hrun hguess⟩
  · have hwrites := (hstep.ensures hthreads trivial).1 hsome
    exact (passed_of_changed hwrites hstep.answered hold hnew hchanged).succeeds hrun hguess

end Honoured

end OpsPlatform.Auth
