import OpsPlatform.Auth.Codes

/-! Concurrent edits of one account. Calls that go through `UpdateAtomic` write only what they
answer for; calls that find a row and write the whole row back also write what others have changed
in between. -/
namespace OpsPlatform.Auth
open OpsPlatform.Go Interaction Program

/-- The parts of an account row that calls answer for. -/
inductive Field
  | isActive
  | roles
  | passwordHash
  | requiresPasswordChange
  | emailVerified
  | verificationCode
  | resetCode
  | failedOTPAttempts
  | otpLockedUntil
  | identity
  deriving DecidableEq

/-- Two rows agree on a field. -/
def Field.Same : Field → User → User → Prop
  | .isActive, a, b => a.isActive = b.isActive
  | .roles, a, b => a.roles = b.roles
  | .passwordHash, a, b => a.passwordHash = b.passwordHash
  | .requiresPasswordChange, a, b => a.requiresPasswordChange = b.requiresPasswordChange
  | .emailVerified, a, b => a.emailVerified = b.emailVerified
  | .verificationCode, a, b =>
    CodeKind.emailVerification.getCode a = CodeKind.emailVerification.getCode b
  | .resetCode, a, b => CodeKind.passwordReset.getCode a = CodeKind.passwordReset.getCode b
  | .failedOTPAttempts, a, b => a.failedOTPAttempts = b.failedOTPAttempts
  | .otpLockedUntil, a, b => a.otpLockedUntil = b.otpLockedUntil
  | .identity, a, b => a.id = b.id ∧ a.identifier = b.identifier ∧ a.displayName = b.displayName ∧
      a.createdByUserID = b.createdByUserID ∧ a.authProvider = b.authProvider ∧
      a.googleSubjectID = b.googleSubjectID

namespace Field
variable {f : Field} {a b c : User}

lemma Same.refl (f : Field) (a : User) : f.Same a a := by
  cases f <;> simp [Same]

lemma Same.symm (h : f.Same a b) : f.Same b a := by
  cases f <;> simp_all [Same]

lemma Same.trans (h : f.Same a b) (h' : f.Same b c) : f.Same a c := by
  cases f <;> simp_all [Same]

end Field

/-- The fields a call answers for. Both code flows share the attempt counter and the lock. -/
def Call.responsible : Call → List Field
  | .updateUser _ _ => [.isActive,.roles]
  | .resetPassword _ | .changePassword _ _ _ => [.passwordHash,.requiresPasswordChange]
  | .verifyEmail _ _ => [.emailVerified,.verificationCode,.failedOTPAttempts,.otpLockedUntil]
  | .requestPasswordReset _ => [.resetCode]
  | .completePasswordReset _ _ _ => [.resetCode,.passwordHash,.failedOTPAttempts,.otpLockedUntil]
  | _ => []

/-- No call answers for who the account belongs to. -/
lemma Call.identity_not_responsible (c : Call) : Field.identity ∉ c.responsible := by
  cases c <;> simp [Call.responsible]

section Writes
variable {lib : Lib} {seen : List (Event Op.Res)} {c : Call}

/-- A patch changes what its call answers for and nothing else. -/
lemma Call.Patches.same {old patched : User} (h : c.Patches old patched) {f : Field}
    (hf : f ∉ c.responsible) : f.Same old patched := by
  cases h with
  | @updateUser userID input _ _ applied =>
    unfold UpdateUserInput.apply at applied
    split_ifs at applied
    cases applied
    cases f <;> simp_all [Call.responsible, Field.Same, CodeKind.getCode]
  | resetPassword => cases f <;> simp_all [Call.responsible, Field.Same, CodeKind.getCode]
  | changePassword => cases f <;> simp_all [Call.responsible, Field.Same, CodeKind.getCode]

lemma Call.Patches.id {old patched : User} (h : c.Patches old patched) : patched.id = old.id :=
  (h.same c.identity_not_responsible).1.symm

/-- So does every closure for `UpdateAtomic`, whatever row it is run on. -/
lemma Call.Mutates.same {mutate : User → Except Error (User × OTPCheckResult)}
    (h : c.Mutates lib seen mutate) {old : User} {r : User × OTPCheckResult}
    (hr : mutate old = .ok r) {f : Field} (hf : f ∉ c.responsible) : f.Same old r.1 := by
  cases h with
  | @check _ kind code at_ guess read =>
    cases hr
    obtain ⟨_,h⟩ | ⟨_,_,h⟩ | ⟨_,_,h⟩ := checkOTP_cases lib at_ kind code old
    · rw [h]; exact .refl f old
    · rw [h]
      cases c <;> cases guess <;> cases f <;>
        simp_all [Call.responsible, Field.Same, CodeKind.getCode, CodeKind.redeem,
          CodeKind.onSuccess]
    · rw [h]
      cases c <;> cases guess <;> cases f <;>
        simp_all [Call.responsible, Field.Same, CodeKind.getCode, User.recordFailure]
  | storeCode =>
    cases hr
    cases f <;> simp_all [Call.responsible, Field.Same, CodeKind.getCode, storeResetCode]
  | setPassword =>
    cases hr
    cases f <;> simp_all [Call.responsible, Field.Same, CodeKind.getCode, setPasswordHash]

lemma Call.Mutates.id {mutate : User → Except Error (User × OTPCheckResult)}
    (h : c.Mutates lib seen mutate) {old : User} {r : User × OTPCheckResult}
    (hr : mutate old = .ok r) : r.1.id = old.id :=
  (h.same hr c.identity_not_responsible).1.symm

end Writes

/-- A step of the call changes in no account a field the call does not answer for. -/
def Kept (c : Call) (s t : State) : Prop :=
  ∀ id old new, s.users.findByID id = some old → t.users.findByID id = some new →
    ∀ f ∉ c.responsible, f.Same old new

/-- Where the call writes a whole row back, the row it had found still agrees with the stored one
on every field the call does not answer for. -/
def Fresh (c : Call) (seen : List (Event Op.Res)) (s : State) (op : Op) : Prop :=
  ∀ user, op = .update user → ∃ id found, ⟨.findByID id,some found⟩ ∈ seen ∧
    c.Patches found user ∧
    ∀ stored, s.users.findByID user.id = some stored → ∀ f ∉ c.responsible, f.Same found stored

section Step
variable {lib : Lib} {c : Call} {seen : List (Event Op.Res)} {s t : State}

/-- A row that is replaced must agree with the one it replaces. -/
lemma kept_replace {id : String} {old new : User} (hid : new.id = id)
    (hold : s.users.findByID id = some old) :
    Kept c s { s with users := ⟨s.users.seq,MemoryUserStore.replace id new s.users.users⟩ } ↔
      ∀ f ∉ c.responsible, f.Same old new := by
  constructor
  · intro h
    refine h id old new hold ?_
    rw [MemoryUserStore.findByID_replace hid hold, if_pos rfl]
  · intro h k a b ha hb f hf
    rw [MemoryUserStore.findByID_replace hid hold] at hb
    split_ifs at hb with hk
    · subst hk
      rw [hold] at ha
      cases ha; cases hb
      exact h f hf
    · rw [ha] at hb
      cases hb
      exact .refl f a

/-- Rows appended to the store hide none that was there. -/
lemma kept_append (seq : ℕ) (rows : List User) :
    Kept c s { s with users := ⟨seq,s.users.users ++ rows⟩ } := by
  intro id a b ha hb f _
  unfold MemoryUserStore.findByID at ha hb
  rw [List.find?_append, ha, Option.some_or] at hb
  cases hb
  exact .refl f a

/-- The step lemma: a step keeps what its call does not answer for exactly if it is fresh. -/
theorem kept_iff_fresh {e : Event Op.Res} (hmay : c.May lib seen e.op)
    (hanswer : Answers lib e.op s e.res t) : Kept c s t ↔ Fresh c seen s e.op := by
  obtain ⟨op,res⟩ := e
  have hsame : Kept c s s := by
    intro id a b ha hb f _
    rw [ha] at hb
    cases hb
    exact .refl f a
  cases hanswer with
  | update user =>
    obtain ⟨id,found,hseen,hpatch⟩ := hmay
    obtain ⟨hnone,hstore⟩ | ⟨old,hold,hstore⟩ := s.users.update_cases user
    · rw [hstore]
      refine iff_of_true hsame fun user' huser => ?_
      cases huser
      refine ⟨id,found,hseen,hpatch,fun stored hstored => ?_⟩
      rw [hnone] at hstored
      cases hstored
    · rw [hstore, kept_replace rfl hold]
      constructor
      · intro hkept user' huser
        cases huser
        refine ⟨id,found,hseen,hpatch,fun stored hstored f hf => ?_⟩
        rw [hold] at hstored
        cases hstored
        exact (hpatch.same hf).trans (hkept f hf).symm
      · intro hfresh f hf
        obtain ⟨_,found',_,hpatch',hagree⟩ := hfresh user rfl
        exact (hagree old hold f hf).symm.trans (hpatch'.same hf)
  | create user =>
    refine iff_of_true ?_ fun user' h => by cases h
    obtain hstore | ⟨row,_,hstore⟩ := s.users.create_cases lib user
    · rw [hstore]; exact hsame
    · rw [hstore]; exact kept_append _ _
  | updateAtomic id mutate =>
    refine iff_of_true ?_ fun user' h => by cases h
    unfold MemoryUserStore.updateAtomic
    cases hfind : s.users.findByID id with
    | none => exact hsame
    | some old =>
      cases hr : mutate old with
      | error err => simpa only [hr] using hsame
      | ok r =>
        have hid : r.1.id = id :=
          (Call.Mutates.id hmay hr).trans (MemoryUserStore.id_of_findByID hfind)
        simp only [hr]
        exact (kept_replace hid hfind).mpr fun f hf => Call.Mutates.same hmay hr hf
  | seed user =>
    refine iff_of_true ?_ fun user' h => by cases h
    unfold MemoryUserStore.seed
    split_ifs
    · exact hsame
    · exact kept_append _ _
  | _ => exact iff_of_true hsame fun user' h => by cases h

end Step

section Run
variable {ι : Type} [DecidableEq ι] {lib : Lib} {calls : ι → Call} {s : State}
  {ls : List (ι × Event Op.Res)} {p : Calls ι}

/-- In every run every call keeps to its footprint. -/
lemma threads_may (hrun : Trace (Pool.Step (Answers lib)) (begin lib calls s) ls p) (i : ι) :
    (p.thread i).Ensures (fun _ _ => True) ((calls i).May lib) (fun _ _ => True) (p.seen i) := by
  refine hrun.inv (I := fun _ p => ∀ i, (p.thread i).Ensures (fun _ _ => True) ((calls i).May lib)
    (fun _ _ => True) (p.seen i)) (fun i => (calls i).ensures_may) ?_ i
  intro _ p l q hthreads hstep
  exact (hstep.ensures hthreads trivial).2

/-- No step of a run undoes what its call does not answer for exactly if every row written back
whole is fresh. -/
theorem account_updates_kept_iff :
    Trace (fun p l q => Pool.Step (Answers lib) p l q ∧ Kept (calls l.1) p.state q.state)
      (begin lib calls s) ls p ↔
    Trace (fun p l q => Pool.Step (Answers lib) p l q ∧
      Fresh (calls l.1) (p.seen l.1) p.state l.2.op) (begin lib calls s) ls p := by
  constructor
  · intro h
    induction h with
    | nil => exact .nil
    | snoc htrace hl ih =>
      refine ih.snoc ⟨hl.1,?_⟩
      have hthreads := threads_may (htrace.imp fun _ _ _ h => h.1)
      exact (kept_iff_fresh (hl.1.ensures hthreads trivial).1 hl.1.answered).mp hl.2
  · intro h
    induction h with
    | nil => exact .nil
    | snoc htrace hl ih =>
      refine ih.snoc ⟨hl.1,?_⟩
      have hthreads := threads_may (htrace.imp fun _ _ _ h => h.1)
      exact (kept_iff_fresh (hl.1.ensures hthreads trivial).1 hl.1.answered).mpr hl.2

end Run

/-- An account with the password hash of "correct horse". -/
def sampleUser : User where
  id := "user-0001"
  identifier := "ada@example.org"
  displayName := "Ada"
  passwordHash := "$2a$10$correct horse"
  roles := [.assignee]
  isActive := true
  authProvider := .local
  emailVerified := true

/-- A deactivation, and a password change that is under way. -/
def deactivateAndChange : Bool → Call
  | false => .updateUser "user-0001" ⟨some false,none⟩
  | true => .changePassword "user-0001" "correct horse" "battery staple"

/-- The password change reads the row before the deactivation and writes it back after. -/
theorem deactivation_undone :
    ¬ ∀ (lib : Lib) (calls : Bool → Call) (s : State) (ls : List (Bool × Event Op.Res))
      (p q : Calls Bool) (l : Bool × Event Op.Res),
      Trace (Pool.Step (Answers lib)) (begin lib calls s) ls p → Pool.Step (Answers lib) p l q →
      ∀ (i : Bool) (id : String) (input : UpdateUserInput), i ≠ l.1 →
      calls i = .updateUser id input → (p.thread i).result = some (.ok ()) →
      ∀ f ∈ (calls i).responsible, f ∉ (calls l.1).responsible →
      ∀ old new, p.state.users.findByID id = some old → q.state.users.findByID id = some new →
      f.Same old new := by
  intro h
  let start : Calls Bool := begin sampleLib deactivateAndChange ⟨⟨1,[sampleUser]⟩,0⟩
  let world := exec sampleLib (sampleEnv 0)
  let schedule := [true,false,false,true,true]
  have hrun := (Pool.trace_play (answers_exec sampleLib (sampleEnv 0)) (fun _ _ => true) start
    schedule (Pool.passes_true _ _)).imp fun _ _ _ h => h.1
  have hdone : ((start.play world schedule).2.thread false).result.map (·.toOption) =
      some (some ()) := by decide +kernel
  have hold : ((start.play world schedule).2.state.users.findByID "user-0001").map (·.isActive) =
      some false := by decide +kernel
  have hlast : (((start.play world schedule).2.next? world true).map fun x =>
      (x.1.1,(x.2.state.users.findByID "user-0001").map (·.isActive))) =
      some (true,some true) := by decide +kernel
  obtain ⟨⟨l,q⟩,hnext,hactive⟩ := Option.map_eq_some_iff.mp hlast
  obtain ⟨hthread,hactive⟩ := Prod.mk.inj hactive
  obtain ⟨old,holdRow,holdActive⟩ := Option.map_eq_some_iff.mp hold
  obtain ⟨new,hnewRow,hnewActive⟩ := Option.map_eq_some_iff.mp hactive
  obtain ⟨x,hresult,hx⟩ := Option.map_eq_some_iff.mp hdone
  have hok : x = .ok () := by
    cases x with
    | error e => cases hx
    | ok u => rfl
  have hsame := h sampleLib deactivateAndChange _ _ _ q l hrun
    (Pool.step_of_next? (answers_exec sampleLib (sampleEnv 0)) hnext) false "user-0001" _
    (by rw [hthread]; decide) rfl (hok ▸ hresult) .isActive (by decide)
    (by rw [hthread]; decide) old new holdRow hnewRow
  simp only [Field.Same, holdActive, hnewActive] at hsame
  cases hsame

end OpsPlatform.Auth
