import OpsPlatform.Interaction.Pool
import OpsPlatform.Auth.Memory

/-! What a call may ask of the user store after the answers it has seen. Said once for every call,
it is what all interleavings are judged by. -/
namespace OpsPlatform.Auth
open OpsPlatform.Go Interaction Program

/-- The clock reading in an event. -/
def readingOf : Event Op.Res → Option Time
  | ⟨.now,reading⟩ => some reading
  | _ => none

/-- The last reading of the clock a call has seen. -/
def reading (seen : List (Event Op.Res)) : Option Time := (seen.filterMap readingOf).getLast?

@[simp] lemma reading_concat_now (seen : List (Event Op.Res)) (at_ : Time) :
    reading (seen ++ [⟨.now,at_⟩]) = some at_ := by
  simp [reading, readingOf]

namespace Call

/-- The kind of code a call presents, and the code. -/
def guess : Call → Option (CodeKind × String)
  | .verifyEmail _ code => some (.emailVerification,code)
  | .completePasswordReset _ code _ => some (.passwordReset,code)
  | _ => none

/-- What a call that finds a row and writes it back changes in it. -/
inductive Patches : Call → User → User → Prop
  | updateUser {userID : String} {input : UpdateUserInput} {old patched : User}
      (applied : input.apply old = .ok patched) : Patches (.updateUser userID input) old patched
  | resetPassword {userID : String} {old : User} (passwordHash : String) :
      Patches (.resetPassword userID) old { old with passwordHash, requiresPasswordChange := true }
  | changePassword {userID oldPassword newPassword : String} {old : User} (passwordHash : String) :
      Patches (.changePassword userID oldPassword newPassword) old
        { old with passwordHash, requiresPasswordChange := false }

/-- The rows a call may create. -/
inductive Creates (lib : Lib) (seen : List (Event Op.Res)) : Call → User → Prop
  | signUp {input : SignUpInput} {user : User} (code : String) (at_ : Time)
      (read : reading seen = some at_)
      (hash : user.emailVerificationCodeHash = some (hashOTP lib code))
      (expiry : user.emailVerificationCodeExpiresAt = some (at_+otpTTL))
      (noReset : user.passwordResetCodeHash = none) : Creates lib seen (.signUp input) user
  | createUser {actingUserID : String} {input : CreateUserInput} {user : User}
      (noReset : user.passwordResetCodeHash = none) :
      Creates lib seen (.createUser actingUserID input) user
  | loginWithGoogle {identity : GoogleIdentity} {user : User}
      (noReset : user.passwordResetCodeHash = none) :
      Creates lib seen (.loginWithGoogle identity) user

/-- The closures a call may hand to `UpdateAtomic`. -/
inductive Mutates (lib : Lib) (seen : List (Event Op.Res)) :
    Call → (User → Except Error (User × OTPCheckResult)) → Prop
  | check {c : Call} {kind : CodeKind} {code : String} (at_ : Time) (guess : c.guess = some (kind,code))
      (read : reading seen = some at_) :
      Mutates lib seen c fun user => .ok (checkOTP lib at_ kind code user)
  | storeCode {identifier : String} (code : String) (at_ : Time) (read : reading seen = some at_) :
      Mutates lib seen (.requestPasswordReset identifier)
        (mutation (storeResetCode (hashOTP lib code) (at_+otpTTL)))
  | setPassword {identifier code newPassword : String} (passwordHash : String) :
      Mutates lib seen (.completePasswordReset identifier code newPassword)
        (mutation (setPasswordHash passwordHash))

/-- What a call may ask of the store, having seen these answers. -/
def May (lib : Lib) (c : Call) (seen : List (Event Op.Res)) : Op → Prop
  | .create user => c.Creates lib seen user
  | .update user => ∃ id old, ⟨.findByID id,some old⟩ ∈ seen ∧ c.Patches old user
  | .updateAtomic _ mutate => c.Mutates lib seen mutate
  | .seed user => ∃ cfg, c = .seedBootstrapUsers cfg ∧
      ∃ seed ∈ bootstrapSeedsFromConfig cfg, ∃ passwordHash, user = seedUser lib seed passwordHash
  | _ => True

end Call

/-- An operation that writes nothing. -/
def Op.Quiet : Op → Prop
  | .create _ | .update _ | .updateAtomic _ _ | .seed _ => False
  | _ => True

lemma users_of_quiet {lib : Lib} {s t : State} {op : Op} {r : op.Res} (hop : op.Quiet)
    (h : Answers lib op s r t) : t.users = s.users := by
  cases h <;> first | rfl | cases hop

section
variable {lib : Lib} {c : Call} {R : List (Event Op.Res) → Event Op.Res → Prop}
  {seen : List (Event Op.Res)} {α : Type}

lemma may_of_quiet {op : Op} (hop : op.Quiet) : c.May lib seen op := by
  cases op <;> trivial

/-- A quiet program may do what it likes, and has seen at least what it had seen before. -/
lemma ensures_of_quiet {p : M α} (hp : p.Only Op.Quiet) (seen : List (Event Op.Res)) :
    p.Ensures R (c.May lib) (fun seen' _ => seen <+: seen') seen :=
  (ensures_of_only (R := R) (P := c.May lib) hp (fun _ hop _ => may_of_quiet hop) seen).imp
    (fun _ _ h => h) fun _ _ hh _ => hh

/-- A quiet operation leads on, whatever its answer. -/
lemma ensures_quiet_call {op : Op} {next : op.Res → M α} (hop : op.Quiet)
    (h : ∀ r, (next r).Ensures R (c.May lib) (fun _ _ => True) (seen ++ [⟨op,r⟩])) :
    (call op next).Ensures R (c.May lib) (fun _ _ => True) seen :=
  (ensures_call op next).mpr ⟨may_of_quiet hop,fun r _ => h r⟩

lemma only_drawChars (n : ℕ) (drawn : List Char) : (drawChars n drawn).Only Op.Quiet := by
  induction n generalizing drawn with
  | zero => exact only_ret _
  | succ n ih =>
    exact only_bind (only_call trivial fun r => only_fromResult r) fun i => ih _

lemma only_generateOTP : generateOTP.Only Op.Quiet :=
  only_bind (only_call trivial fun _ => only_fromResult _) fun _ => only_ret _

lemma only_issueSession (user : User) : (issueSession user).Only Op.Quiet :=
  only_bind (only_call trivial fun r => only_fromResult r) fun _ => only_ret _

lemma ensures_trivial_ret {a : α} :
    (ret a : M α).Ensures R (c.May lib) (fun _ _ => True) seen := (ensures_ret a).mpr trivial

lemma ensures_issueSession (user : User) :
    (do let _ ← issueSession user; return () : M Unit).Ensures R (c.May lib) (fun _ _ => True)
      seen :=
  (ensures_of_quiet (only_bind (only_issueSession user) fun _ => only_ret _) seen).imp
    (fun _ _ h => h) fun _ _ _ _ => trivial

/-- Once the row of an id is seen it stays seen. -/
lemma ensures_getUser {userID : String} {f : User → M Unit}
    (hf : ∀ seen' user, ⟨.findByID userID,some user⟩ ∈ seen' →
      (f user).Ensures R (c.May lib) (fun _ _ => True) seen') :
    (getUser userID >>= f).Ensures R (c.May lib) (fun _ _ => True) seen := by
  unfold getUser requireUser
  rw [call_bind]
  refine ensures_quiet_call trivial fun r => ?_
  cases r with
  | none => rw [id, fail_bind, ensures_fail]; trivial
  | some user => exact hf _ user (by simp)

theorem ensures_updateUser (userID : String) (input : UpdateUserInput) :
    ((Call.updateUser userID input).program lib).Ensures R (Call.May lib (.updateUser userID input))
      (fun _ _ => True) seen := by
  simp only [Call.program, updateUser, bind_assoc]
  refine ensures_getUser fun seen' user hseen => ?_
  refine ensures_fromResult_bind fun patched happlied => ?_
  rw [call_bind, ensures_call]
  exact ⟨⟨userID,user,hseen,.updateUser happlied⟩,fun r _ => ensures_fromResult_bind fun _ _ =>
    ensures_trivial_ret⟩

theorem ensures_resetPassword (userID : String) :
    ((Call.resetPassword userID).program lib).Ensures R (Call.May lib (.resetPassword userID))
      (fun _ _ => True) seen := by
  simp only [Call.program, resetPassword, bind_assoc]
  refine ensures_getUser fun seen' user hseen => ?_
  refine (ensures_of_quiet (only_drawChars _ _) seen').andThen fun seen'' _ hmore _ => ?_
  rw [call_bind]
  refine ensures_quiet_call trivial fun r => ensures_fromResult_bind fun passwordHash _ => ?_
  rw [call_bind, ensures_call]
  refine ⟨⟨userID,user,?_,.resetPassword passwordHash⟩,fun r _ => ensures_fromResult_bind fun _ _ =>
    ensures_trivial_ret⟩
  exact List.mem_append_left _ (hmore.subset hseen)

theorem ensures_changePassword (userID oldPassword newPassword : String) :
    ((Call.changePassword userID oldPassword newPassword).program lib).Ensures R
      (Call.May lib (.changePassword userID oldPassword newPassword)) (fun _ _ => True) seen := by
  simp only [Call.program, changePassword]
  refine ensures_getUser fun seen' user hseen => ?_
  rw [call_bind]
  refine ensures_quiet_call trivial fun r => ensures_fromResult_bind fun _ _ => ?_
  refine ensures_failIf_andThen fun _ => ?_
  rw [call_bind]
  refine ensures_quiet_call trivial fun r => ensures_fromResult_bind fun passwordHash _ => ?_
  rw [call_bind, ensures_call]
  refine ⟨⟨userID,user,?_,.changePassword passwordHash⟩,fun r _ => ensures_fromResult_bind fun _ _ =>
    ensures_trivial_ret⟩
  simp [hseen]

theorem ensures_createUser (actingUserID : String) (input : CreateUserInput) :
    ((Call.createUser actingUserID input).program lib).Ensures R
      (Call.May lib (.createUser actingUserID input)) (fun _ _ => True) seen := by
  simp only [Call.program, createUser, bind_assoc]
  refine ensures_failIf_andThen fun _ => ensures_failIf_andThen fun _ => ?_
  rw [call_bind]
  refine ensures_quiet_call trivial fun r => ?_
  rw [ret_bind]
  refine ensures_failIf_andThen fun _ => ?_
  refine (ensures_of_quiet (only_drawChars _ _) _).andThen fun seen' _ _ _ => ?_
  rw [call_bind]
  refine ensures_quiet_call trivial fun r => ensures_fromResult_bind fun passwordHash _ => ?_
  rw [call_bind, ensures_call]
  exact ⟨.createUser rfl,fun r _ => ensures_fromResult_bind fun _ _ => ensures_trivial_ret⟩

theorem ensures_loginWithGoogle (identity : GoogleIdentity) :
    ((Call.loginWithGoogle identity).program lib).Ensures R
      (Call.May lib (.loginWithGoogle identity)) (fun _ _ => True) seen := by
  simp only [Call.program, loginWithGoogle]
  rw [call_bind, call_bind]
  refine ensures_quiet_call trivial fun r => ?_
  rw [ret_bind]
  cases r with
  | some existing =>
    simp only [bind_assoc]
    exact ensures_failIf_andThen fun _ => ensures_issueSession existing
  | none =>
    simp only [bind_assoc]
    rw [call_bind]
    refine ensures_quiet_call trivial fun r => ?_
    rw [ret_bind]
    refine ensures_failIf_andThen fun _ => ?_
    rw [call_bind, ensures_call]
    exact ⟨.loginWithGoogle rfl,fun r _ => ensures_fromResult_bind fun created _ =>
      ensures_issueSession created⟩

theorem ensures_signUp (input : SignUpInput) :
    ((Call.signUp input).program lib).Ensures R (Call.May lib (.signUp input)) (fun _ _ => True)
      seen := by
  simp only [Call.program, signUp, bind_assoc]
  refine ensures_failIf_andThen fun _ => ensures_failIf_andThen fun _ => ?_
  rw [call_bind]
  refine ensures_quiet_call trivial fun r => ?_
  rw [ret_bind]
  refine ensures_failIf_andThen fun _ => ?_
  rw [call_bind]
  refine ensures_quiet_call trivial fun r => ensures_fromResult_bind fun passwordHash _ => ?_
  refine (ensures_of_quiet only_generateOTP _).andThen fun seen' code _ _ => ?_
  rw [call_bind]
  refine ensures_quiet_call trivial fun r => ensures_fromResult_bind fun _ _ => ?_
  rw [call_bind]
  refine ensures_quiet_call trivial fun now => ?_
  rw [ret_bind, call_bind, ensures_call]
  exact ⟨.signUp code now (reading_concat_now _ _) rfl rfl rfl,fun r _ =>
    ensures_fromResult_bind fun created _ => ensures_issueSession created⟩

/-- The code check of either flow; what follows it may rely on nothing but its end. -/
lemma ensures_consumeOTP {userID code : String} {kind : CodeKind} {f : Unit → M Unit}
    (hguess : c.guess = some (kind,code))
    (hf : ∀ seen', (f ()).Ensures R (c.May lib) (fun _ _ => True) seen') :
    (consumeOTP lib userID code kind >>= f).Ensures R (c.May lib) (fun _ _ => True) seen := by
  simp only [consumeOTP, bind_assoc]
  rw [call_bind]
  refine ensures_quiet_call trivial fun now => ?_
  rw [ret_bind, call_bind, ensures_call]
  refine ⟨.check now hguess (reading_concat_now _ _),fun r _ => ?_⟩
  refine ensures_fromResult_bind fun found _ => ?_
  exact ensures_failIf_andThen fun _ => ensures_failIf_andThen fun _ => hf _

theorem ensures_verifyEmail (userID code : String) :
    ((Call.verifyEmail userID code).program lib).Ensures R
      (Call.May lib (.verifyEmail userID code)) (fun _ _ => True) seen := by
  have hguess : (Call.verifyEmail userID code).guess = some (.emailVerification,code) := rfl
  rw [Call.program, verifyEmail, ← bind_ret (consumeOTP _ _ _ _)]
  exact ensures_consumeOTP hguess fun seen' => ensures_trivial_ret

theorem ensures_requestPasswordReset (identifier : String) :
    ((Call.requestPasswordReset identifier).program lib).Ensures R
      (Call.May lib (.requestPasswordReset identifier)) (fun _ _ => True) seen := by
  simp only [Call.program, requestPasswordReset]
  rw [call_bind]
  refine ensures_quiet_call trivial fun r => ?_
  rw [ret_bind]
  cases r with
  | none => exact ensures_trivial_ret
  | some user =>
    dsimp only
    split_ifs
    · exact ensures_trivial_ret
    refine (ensures_of_quiet only_generateOTP _).andThen fun seen' code _ _ => ?_
    rw [call_bind]
    refine ensures_quiet_call trivial fun now => ?_
    rw [ret_bind, call_bind, ensures_call]
    refine ⟨.storeCode code now (reading_concat_now _ _),fun r _ => ?_⟩
    exact ensures_fromResult_bind fun _ _ => ensures_quiet_call trivial fun _ =>
      ensures_trivial_ret

theorem ensures_completePasswordReset (identifier code newPassword : String) :
    ((Call.completePasswordReset identifier code newPassword).program lib).Ensures R
      (Call.May lib (.completePasswordReset identifier code newPassword)) (fun _ _ => True)
      seen := by
  simp only [Call.program, completePasswordReset, requireUser]
  rw [call_bind]
  refine ensures_quiet_call trivial fun r => ?_
  cases r with
  | none => rw [id, fail_bind, ensures_fail]; trivial
  | some user =>
    rw [id, ret_bind]
    refine ensures_consumeOTP rfl fun seen' => ensures_failIf_andThen fun _ => ?_
    rw [call_bind]
    refine ensures_quiet_call trivial fun r => ensures_fromResult_bind fun passwordHash _ => ?_
    rw [call_bind, ensures_call]
    exact ⟨.setPassword passwordHash,fun r _ => ensures_fromResult_bind fun _ _ =>
      ensures_trivial_ret⟩

theorem ensures_seedBootstrapUsers (cfg : BootstrapConfig) :
    ((Call.seedBootstrapUsers cfg).program lib).Ensures R
      (Call.May lib (.seedBootstrapUsers cfg)) (fun _ _ => True) seen := by
  have hseeds : ∀ seeds ⊆ bootstrapSeedsFromConfig cfg, ∀ seen,
      (seedBootstrapUsers lib seeds).Ensures R (Call.May lib (.seedBootstrapUsers cfg))
        (fun _ _ => True) seen := by
    intro seeds
    induction seeds with
    | nil => exact fun _ _ => ensures_trivial_ret
    | cons seed rest ih =>
      intro hsub seen
      obtain ⟨hseed,hrest⟩ := List.cons_subset.mp hsub
      simp only [seedBootstrapUsers]
      rw [call_bind]
      refine ensures_quiet_call trivial fun r => ensures_fromResult_bind fun passwordHash _ => ?_
      rw [call_bind, ensures_call]
      exact ⟨⟨cfg,rfl,seed,hseed,passwordHash,rfl⟩,fun r _ =>
        ensures_fromResult_bind fun _ _ => ih hrest _⟩
  exact hseeds _ (List.Subset.refl _) seen

lemma ensures_login (identifier password : String) :
    ((Call.login identifier password).program lib).Ensures R
      (Call.May lib (.login identifier password)) (fun _ _ => True) seen := by
  simp only [Call.program, login, requireUser, bind_assoc]
  rw [call_bind]
  refine ensures_quiet_call trivial fun r => ?_
  cases r with
  | none => rw [id, fail_bind, ensures_fail]; trivial
  | some user =>
    rw [id, ret_bind]
    refine ensures_failIf_andThen fun _ => ?_
    rw [call_bind]
    exact ensures_quiet_call trivial fun r => ensures_fromResult_bind fun _ _ =>
      ensures_issueSession user

/-- Every call keeps to its footprint. -/
theorem Call.ensures_may (c : Call) :
    (c.program lib).Ensures R (c.May lib) (fun _ _ => True) seen := by
  cases c with
  | seedBootstrapUsers => exact ensures_seedBootstrapUsers _
  | createUser => exact ensures_createUser _ _
  | signUp => exact ensures_signUp _
  | login => exact ensures_login _ _
  | loginWithGoogle => exact ensures_loginWithGoogle _
  | updateUser => exact ensures_updateUser _ _
  | resetPassword => exact ensures_resetPassword _
  | changePassword => exact ensures_changePassword _ _ _
  | verifyEmail => exact ensures_verifyEmail _ _
  | requestPasswordReset => exact ensures_requestPasswordReset _
  | completePasswordReset => exact ensures_completePasswordReset _ _ _

/-- What a call keeps to from its beginning on. -/
theorem Call.ensures_start (lib : Lib) (c : Call) :
    (c.program lib).Ensures (fun _ _ => True) (c.May lib) (fun _ _ => True) [] := c.ensures_may

end

/-- Concurrent calls on one user store. -/
abbrev Calls (ι : Type) := Pool ι Op.Res Error Unit State

/-- All calls at their beginning. -/
def begin {ι : Type} (lib : Lib) (calls : ι → Call) (s : State) : Calls ι :=
  Pool.start s fun i => (calls i).program lib

end OpsPlatform.Auth
