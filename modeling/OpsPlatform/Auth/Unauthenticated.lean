import OpsPlatform.Auth.Footprint

/-! The calls of the auth service that need no session: what each may ask of the stores, the managers
and the mailer, which is of the account its input names and no further. -/
namespace OpsPlatform.Auth
open OpsPlatform.Go Interaction Program

/-- What a call made without a session may ask, having seen these answers. -/
inductive Asks (lib : Lib) (seen : List (Event Op.Res)) : Call → Op → Prop
  | draw {c : Call} (max : ℕ) : Asks lib seen c (.randInt max)
  | clock {c : Call} : Asks lib seen c .now
  | login {identifier password : String} :
      Asks lib seen (.login identifier password) (.findByIdentifier identifier)
  | loginCompare {identifier password : String} {user : User}
      (found : ⟨.findByIdentifier identifier,some user⟩ ∈ seen) (isActive : user.isActive = true) :
      Asks lib seen (.login identifier password) (.compare user.passwordHash password)
  | loginIssue {identifier password : String} {user : User}
      (found : ⟨.findByIdentifier identifier,some user⟩ ∈ seen) (isActive : user.isActive = true)
      (compared : ⟨.compare user.passwordHash password,.ok ()⟩ ∈ seen) :
      Asks lib seen (.login identifier password) (.issue (principalFromUser user))
  | google {identity : GoogleIdentity} :
      Asks lib seen (.loginWithGoogle identity) (.findByGoogleSubjectID identity.subject)
  | googleIssue {identity : GoogleIdentity} {user : User}
      (found : ⟨.findByGoogleSubjectID identity.subject,some user⟩ ∈ seen)
      (isActive : user.isActive = true) :
      Asks lib seen (.loginWithGoogle identity) (.issue (principalFromUser user))
  | googleTaken {identity : GoogleIdentity}
      (unknown : ⟨.findByGoogleSubjectID identity.subject,none⟩ ∈ seen) :
      Asks lib seen (.loginWithGoogle identity)
        (.findByIdentifier (normalizeIdentifier lib identity.email))
  | googleCreate {identity : GoogleIdentity} {user : User}
      (unknown : ⟨.findByGoogleSubjectID identity.subject,none⟩ ∈ seen)
      (free : ⟨.findByIdentifier (normalizeIdentifier lib identity.email),none⟩ ∈ seen)
      (identifier : user.identifier = normalizeIdentifier lib identity.email)
      (subject : user.googleSubjectID = some identity.subject) (roles : user.roles = [.requester]) :
      Asks lib seen (.loginWithGoogle identity) (.create user)
  | signUp {input : SignUpInput} : Asks lib seen (.signUp input)
      (.findByIdentifier (normalizeIdentifier lib input.identifier))
  | signUpHash {input : SignUpInput} : Asks lib seen (.signUp input) (.hash input.password)
  | signUpMail {input : SignUpInput} {subject body : String}
      (free : ⟨.findByIdentifier (normalizeIdentifier lib input.identifier),none⟩ ∈ seen) :
      Asks lib seen (.signUp input) (.send (normalizeIdentifier lib input.identifier) subject body)
  | signUpCreate {input : SignUpInput} {user : User} {subject body : String}
      (free : ⟨.findByIdentifier (normalizeIdentifier lib input.identifier),none⟩ ∈ seen)
      (mailed : ⟨.send (normalizeIdentifier lib input.identifier) subject body,.ok ()⟩ ∈ seen)
      (identifier : user.identifier = normalizeIdentifier lib input.identifier)
      (unverified : user.emailVerified = false) (roles : user.roles = [.requester]) :
      Asks lib seen (.signUp input) (.create user)
  | createdIssue {c : Call} {row user : User} (create : ⟨.create row,.ok user⟩ ∈ seen) :
      Asks lib seen c (.issue (principalFromUser user))
  | forgot {identifier : String} :
      Asks lib seen (.requestPasswordReset identifier) (.findByIdentifier identifier)
  | forgotStore {identifier hash : String} {expiresAt : Time} {user : User}
      (found : ⟨.findByIdentifier identifier,some user⟩ ∈ seen)
      (isRequester : user.hasRole .requester = true) (isLocal : user.authProvider = .local) :
      Asks lib seen (.requestPasswordReset identifier)
        (.updateAtomic user.id (mutation (storeResetCode hash expiresAt)))
  | forgotMail {identifier subject body : String} {user : User}
      (found : ⟨.findByIdentifier identifier,some user⟩ ∈ seen)
      (isRequester : user.hasRole .requester = true) (isLocal : user.authProvider = .local) :
      Asks lib seen (.requestPasswordReset identifier) (.sendLater user.identifier subject body)
  | reset {identifier code newPassword : String} :
      Asks lib seen (.completePasswordReset identifier code newPassword)
        (.findByIdentifier identifier)
  | resetCheck {identifier code newPassword : String} {at_ : Time} {user : User}
      (found : ⟨.findByIdentifier identifier,some user⟩ ∈ seen) :
      Asks lib seen (.completePasswordReset identifier code newPassword)
        (.updateAtomic user.id fun row => .ok (checkOTP lib at_ .passwordReset code row))
  | resetHash {identifier code newPassword : String} :
      Asks lib seen (.completePasswordReset identifier code newPassword) (.hash newPassword)
  | resetStore {identifier code newPassword passwordHash : String} {at_ : Time} {user row : User}
      {result : OTPCheckResult} (found : ⟨.findByIdentifier identifier,some user⟩ ∈ seen)
      (checked : ⟨.updateAtomic user.id fun row => .ok (checkOTP lib at_ .passwordReset code row),
        .ok (row,result)⟩ ∈ seen) (valid : result.valid = true) :
      Asks lib seen (.completePasswordReset identifier code newPassword)
        (.updateAtomic user.id (mutation (setPasswordHash passwordHash)))

section Judgements
variable {lib : Lib} {seen : List (Event Op.Res)} {R : List (Event Op.Res) → Event Op.Res → Prop}
  {α : Type} {c : Call}

/-- A call that leads on whatever its answer. -/
lemma ensures_asked {op : Op} {next : op.Res → M α} (hop : Asks lib seen c op)
    (h : ∀ r, (next r).Ensures R (fun seen => Asks lib seen c) (fun _ _ => True)
      (seen ++ [⟨op,r⟩])) :
    (call op next).Ensures R (fun seen => Asks lib seen c) (fun _ _ => True) seen :=
  (ensures_call op next).mpr ⟨hop,fun r _ => h r⟩

/-- A call whose error ends the program. -/
lemma ensures_asked_result {op : Op} {β : Type} {read : op.Res → Except Error β} {f : β → M α}
    (hop : Asks lib seen c op) (h : ∀ r b, read r = .ok b →
      (f b).Ensures R (fun seen => Asks lib seen c) (fun _ _ => True) (seen ++ [⟨op,r⟩])) :
    (call op (fun r => fromResult (read r)) >>= f).Ensures R (fun seen => Asks lib seen c)
      (fun _ _ => True) seen := by
  rw [call_bind]
  exact ensures_asked hop fun r => ensures_fromResult_bind fun b hb => h r b hb

lemma asks_generateOTP : generateOTP.Ensures R (fun seen => Asks lib seen c)
    (fun seen' _ => seen <+: seen') seen := by
  unfold generateOTP
  rw [call_bind, ensures_call]
  refine ⟨.draw _,fun r _ => ?_⟩
  cases r with
  | error err => exact (ensures_fail _).mpr (List.prefix_append _ _)
  | ok n => exact (ensures_ret _).mpr (List.prefix_append _ _)

lemma asks_issueSession {user : User} (h : Asks lib seen c (.issue (principalFromUser user))) :
    (issueSession user).Ensures R (fun seen => Asks lib seen c) (fun _ _ => True) seen :=
  ensures_asked_result h fun _ _ _ => (ensures_ret _).mpr trivial

lemma asks_login (identifier password : String) : (login identifier password).Ensures R
    (fun seen => Asks lib seen (.login identifier password)) (fun _ _ => True) seen := by
  unfold login requireUser
  rw [call_bind]
  refine ensures_asked .login fun found => ?_
  cases found with
  | none => exact (ensures_fail _).mpr trivial
  | some user =>
    rw [id, ret_bind]
    refine ensures_failIf_andThen fun hactive => ?_
    have hactive : user.isActive = true := by simpa using hactive
    refine ensures_asked_result (.loginCompare (by simp) hactive) fun r _ hcompared => ?_
    cases r with
    | error err => cases hcompared
    | ok u => exact asks_issueSession (.loginIssue (by simp) hactive (by simp))

lemma asks_loginWithGoogle (identity : GoogleIdentity) : (loginWithGoogle lib identity).Ensures R
    (fun seen => Asks lib seen (.loginWithGoogle identity)) (fun _ _ => True) seen := by
  unfold loginWithGoogle
  rw [call_bind]
  refine ensures_asked .google fun found => ?_
  rw [ret_bind]
  cases found with
  | some user =>
    refine ensures_failIf_andThen fun hactive => ?_
    exact asks_issueSession (.googleIssue (by simp) (by simpa using hactive))
  | none =>
    dsimp only
    rw [call_bind]
    refine ensures_asked (.googleTaken (by simp)) fun taken => ?_
    rw [ret_bind]
    refine ensures_failIf_andThen fun hfree => ?_
    obtain rfl := Option.not_isSome_iff_eq_none.mp hfree
    refine ensures_asked_result (.googleCreate (by simp) (by simp) rfl rfl rfl)
      fun r created hcreated => ?_
    subst hcreated
    exact asks_issueSession (.createdIssue List.mem_concat_self)

lemma asks_signUp (input : SignUpInput) : (signUp lib input).Ensures R
    (fun seen => Asks lib seen (.signUp input)) (fun _ _ => True) seen := by
  unfold signUp
  refine ensures_failIf_andThen fun _ => ensures_failIf_andThen fun _ => ?_
  rw [call_bind]
  refine ensures_asked .signUp fun taken => ?_
  rw [ret_bind]
  refine ensures_failIf_andThen fun hfree => ?_
  obtain rfl := Option.not_isSome_iff_eq_none.mp hfree
  refine ensures_asked_result .signUpHash fun _ passwordHash _ => ?_
  refine asks_generateOTP.andThen fun seen' code hseen _ => ?_
  have hfree : ⟨.findByIdentifier (normalizeIdentifier lib input.identifier),none⟩ ∈ seen' :=
    hseen.subset (by simp)
  refine ensures_asked_result (.signUpMail hfree) fun r u hsent => ?_
  subst hsent
  rw [call_bind]
  refine ensures_asked .clock fun now => ?_
  rw [ret_bind]
  refine ensures_asked_result (.signUpCreate (by simp [hfree])
    (List.mem_append_left _ List.mem_concat_self) rfl rfl rfl) fun r created hcreated => ?_
  subst hcreated
  exact asks_issueSession (.createdIssue List.mem_concat_self)

lemma asks_requestPasswordReset (identifier : String) :
    (requestPasswordReset lib identifier).Ensures R
      (fun seen => Asks lib seen (.requestPasswordReset identifier)) (fun _ _ => True) seen := by
  unfold requestPasswordReset
  rw [call_bind]
  refine ensures_asked .forgot fun found => ?_
  rw [ret_bind]
  cases found with
  | none => exact (ensures_ret _).mpr trivial
  | some user =>
    dsimp only
    split_ifs with hother
    · exact (ensures_ret _).mpr trivial
    rw [not_or, not_not, not_not] at hother
    refine asks_generateOTP.andThen fun seen' code hseen _ => ?_
    have hfound : ⟨.findByIdentifier identifier,some user⟩ ∈ seen' := hseen.subset (by simp)
    rw [call_bind]
    refine ensures_asked .clock fun now => ?_
    rw [ret_bind]
    refine ensures_asked_result (.forgotStore (by simp [hfound]) hother.1 hother.2) fun _ _ _ => ?_
    refine ensures_asked (.forgotMail (by simp [hfound]) hother.1 hother.2) fun _ => ?_
    exact (ensures_ret _).mpr trivial

lemma asks_completePasswordReset (identifier code newPassword : String) :
    (completePasswordReset lib identifier code newPassword).Ensures R
      (fun seen => Asks lib seen (.completePasswordReset identifier code newPassword))
      (fun _ _ => True) seen := by
  unfold completePasswordReset requireUser consumeOTP
  rw [call_bind]
  refine ensures_asked .reset fun found => ?_
  cases found with
  | none => exact (ensures_fail _).mpr trivial
  | some user =>
    rw [id, ret_bind, bind_assoc, call_bind]
    refine ensures_asked .clock fun now => ?_
    rw [ret_bind, bind_assoc]
    refine ensures_asked_result (.resetCheck (by simp)) fun r checked hchecked => ?_
    subst hchecked
    obtain ⟨row,result⟩ := checked
    dsimp only
    rw [bind_assoc]
    refine ensures_failIf_andThen fun _ => ensures_failIf_andThen fun hvalid => ?_
    refine ensures_failIf_andThen fun _ => ?_
    refine ensures_asked_result .resetHash fun _ passwordHash _ => ?_
    refine ensures_asked_result (.resetStore (by simp) (List.mem_append_left _ List.mem_concat_self)
      (by simpa using hvalid)) fun _ _ _ => ?_
    exact (ensures_ret _).mpr trivial

end Judgements
end OpsPlatform.Auth
