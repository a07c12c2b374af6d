import OpsPlatform.Auth.Concurrent

/-! What stands behind a session. Whatever runs at the same time, a call hands out a session only for
an active account that the store has shown it, and that its caller has signed in to. -/
namespace OpsPlatform.Auth
open OpsPlatform.Go Interaction Program

/-- The account a call signs in to, by what it has seen. -/
inductive SignedIn (lib : Lib) (seen : List (Event Op.Res)) : Call → User → Prop
  | password {identifier password : String} {user : User}
      (found : ⟨.findByIdentifier identifier,some user⟩ ∈ seen)
      (owns : user.identifier = normalizeIdentifier lib identifier)
      (compared : ⟨.compare user.passwordHash password,.ok ()⟩ ∈ seen) :
      SignedIn lib seen (.login identifier password) user
  | google {identity : GoogleIdentity} {user : User}
      (found : ⟨.findByGoogleSubjectID identity.subject,some user⟩ ∈ seen)
      (owns : user.googleSubjectID = some identity.subject) :
      SignedIn lib seen (.loginWithGoogle identity) user
  | googleCreated {identity : GoogleIdentity} {row user : User}
      (create : ⟨.create row,.ok user⟩ ∈ seen)
      (owns : user.googleSubjectID = some identity.subject) :
      SignedIn lib seen (.loginWithGoogle identity) user
  /-- The mail has gone out before the row is created. -/
  | signUp {input : SignUpInput} {row user : User} {subject body : String}
      {earlier : List (Event Op.Res)}
      (mailed : ⟨.send (normalizeIdentifier lib input.identifier) subject body,.ok ()⟩ ∈ earlier)
      (create : earlier ++ [⟨.create row,.ok user⟩] <+: seen)
      (owns : user.identifier =
        normalizeIdentifier lib (normalizeIdentifier lib input.identifier)) :
      SignedIn lib seen (.signUp input) user

/-- The session is one of this account, issued by the token manager. -/
structure Opened (seen : List (Event Op.Res)) (user : User) (session : Session) : Prop where
  isActive : user.isActive = true
  principal : session.principal = principalFromUser user
  issued : ⟨.issue session.principal,.ok (session.accessToken,session.expiresAt)⟩ ∈ seen

/-- A session in a reply is one of an account the call has signed in to. -/
def SignsIn (lib : Lib) (c : Call) (seen : List (Event Op.Res)) (y : Except Error Reply) : Prop :=
  ∀ session, y = .ok (.session session) →
    ∃ user, SignedIn lib seen c user ∧ Opened seen user session

section Judgements
variable {lib : Lib} {c : Call} {seen seen' : List (Event Op.Res)} {user : User}

lemma SignedIn.mono (hseen : seen <+: seen') (h : SignedIn lib seen c user) :
    SignedIn lib seen' c user := by
  cases h with
  | password found owns compared =>
    exact .password (hseen.subset found) owns (hseen.subset compared)
  | google found owns => exact .google (hseen.subset found) owns
  | googleCreated create owns => exact .googleCreated (hseen.subset create) owns
  | signUp mailed create owns => exact .signUp mailed (create.trans hseen) owns

lemma signsIn_error (err : Error) : SignsIn lib c seen (.error err) :=
  fun _ h => by cases h

/-- The last step of every call that hands out a session. -/
lemma ensures_issue (h : SignedIn lib seen c user) (hactive : user.isActive = true) :
    (issueSession user).Ensures (Answerable lib) (fun _ _ => True)
      (fun seen y => SignsIn lib c seen (y.map .session)) seen := by
  unfold issueSession
  rw [call_bind, ensures_call]
  refine ⟨trivial,fun r _ => ?_⟩
  cases r with
  | error err => exact (ensures_fail _).mpr (signsIn_error err)
  | ok issued =>
    refine (ensures_ret _).mpr ?_
    rintro session hsession
    cases hsession
    exact ⟨user,h.mono (List.prefix_append _ _),hactive,rfl,by simp⟩

lemma ensures_signedIn_login (identifier password : String) :
    ((Call.login identifier password).respond lib).Ensures (Answerable lib) (fun _ _ => True)
      (SignsIn lib (.login identifier password)) seen := by
  rw [Call.respond, ensures_map]
  simp only [login, requireUser]
  rw [call_bind, ensures_call]
  refine ⟨trivial,fun found hfound => ?_⟩
  cases found with
  | none => exact (ensures_fail _).mpr (signsIn_error _)
  | some user =>
    obtain ⟨s,t,hanswer⟩ := hfound
    have howns : user.identifier = normalizeIdentifier lib identifier := by
      generalize hr : some user = r at hanswer
      cases hanswer
      simpa using List.find?_some hr.symm
    rw [id, ret_bind, ensures_failIf_bind]
    refine ⟨fun _ => signsIn_error _,fun hactive => ?_⟩
    rw [call_bind, ensures_call]
    refine ⟨trivial,fun compared _ => ?_⟩
    cases compared with
    | error err => exact (ensures_fail _).mpr (signsIn_error _)
    | ok u => exact ensures_issue (.password (by simp) howns (by simp)) (by simpa using hactive)

/-- What a created row keeps of the row it was created from. -/
lemma of_create {row : User} (h : Answerable lib seen ⟨.create row,.ok user⟩) :
    user.identifier = normalizeIdentifier lib row.identifier ∧ user.isActive = row.isActive ∧
      user.googleSubjectID = row.googleSubjectID := by
  obtain ⟨s,t,hanswer⟩ := h
  generalize hr : Except.ok user = r at hanswer
  cases hanswer
  obtain hstore | ⟨created,hcreated,hstore⟩ := s.users.create_cases lib row
  · rw [hstore] at hr
    cases hr
  · rw [hstore, Except.ok.injEq] at hr
    rw [hr, hcreated]
    exact ⟨rfl,rfl,rfl⟩

lemma ensures_signedIn_google (identity : GoogleIdentity) :
    ((Call.loginWithGoogle identity).respond lib).Ensures (Answerable lib) (fun _ _ => True)
      (SignsIn lib (.loginWithGoogle identity)) seen := by
  rw [Call.respond, ensures_map]
  simp only [loginWithGoogle]
  rw [call_bind, ensures_call]
  refine ⟨trivial,fun found hfound => ?_⟩
  rw [ret_bind]
  cases found with
  | some existing =>
    obtain ⟨s,t,hanswer⟩ := hfound
    have howns : existing.googleSubjectID = some identity.subject := by
      generalize hr : some existing = r at hanswer
      cases hanswer
      simpa using List.find?_some hr.symm
    dsimp only
    rw [ensures_failIf_bind]
    refine ⟨fun _ => signsIn_error _,fun hactive => ?_⟩
    exact ensures_issue (.google (by simp) howns) (by simpa using hactive)
  | none =>
    dsimp only
    rw [call_bind, ensures_call]
    refine ⟨trivial,fun taken _ => ?_⟩
    rw [ret_bind, ensures_failIf_bind]
    refine ⟨fun _ => signsIn_error _,fun _ => ?_⟩
    rw [call_bind, ensures_call]
    refine ⟨trivial,fun r hr => ?_⟩
    cases r with
    | error err => exact (ensures_fail _).mpr (signsIn_error _)
    | ok created =>
      obtain ⟨_,hactive,howns⟩ := of_create hr
      exact ensures_issue (.googleCreated List.mem_concat_self howns) hactive

lemma ensures_signedIn_signUp (input : SignUpInput) :
    ((Call.signUp input).respond lib).Ensures (Answerable lib) (fun _ _ => True)
      (SignsIn lib (.signUp input)) seen := by
  rw [Call.respond, ensures_map]
  simp only [signUp]
  rw [ensures_failIf_bind]
  refine ⟨fun _ => signsIn_error _,fun _ => ?_⟩
  rw [ensures_failIf_bind]
  refine ⟨fun _ => signsIn_error _,fun _ => ?_⟩
  rw [call_bind, ensures_call]
  refine ⟨trivial,fun taken _ => ?_⟩
  rw [ret_bind, ensures_failIf_bind]
  refine ⟨fun _ => signsIn_error _,fun _ => ?_⟩
  rw [call_bind, ensures_call]
  refine ⟨trivial,fun hashed _ => ?_⟩
  cases hashed with
  | error err => exact (ensures_fail _).mpr (signsIn_error _)
  | ok passwordHash =>
    rw [fromResult_ok, ret_bind, ensures_bind]
    refine (ensures_trivial _ _).imp (fun _ _ h => h) fun seen' drawn _ _ => ?_
    cases drawn with
    | error err => exact signsIn_error _
    | ok code =>
      dsimp only
      rw [call_bind, ensures_call]
      refine ⟨trivial,fun sent _ => ?_⟩
      cases sent with
      | error err => exact (ensures_fail _).mpr (signsIn_error _)
      | ok u =>
        rw [fromResult_ok, ret_bind, call_bind, ensures_call]
        refine ⟨trivial,fun now _ => ?_⟩
        rw [ret_bind, call_bind, ensures_call]
        refine ⟨trivial,fun r hr => ?_⟩
        cases r with
        | error err => exact (ensures_fail _).mpr (signsIn_error _)
        | ok created =>
          obtain ⟨howns,hactive,_⟩ := of_create hr
          -- the clock is read between the mail and the row
          exact ensures_issue (.signUp (List.mem_append_left _ List.mem_concat_self)
            List.prefix_rfl howns) hactive

/-- Every call hands out only such sessions. -/
theorem ensures_signsIn (c : Call) (seen : List (Event Op.Res)) :
    (c.respond lib).Ensures (Answerable lib) (fun _ _ => True) (SignsIn lib c) seen := by
  have hnone : ∀ {α : Type} (f : α → Reply) (p : M α), (∀ a session, f a ≠ .session session) →
      (f <$> p).Ensures (Answerable lib) (fun _ _ => True) (SignsIn lib c) seen := by
    intro α f p hf
    rw [ensures_map]
    refine (ensures_trivial _ _).imp (fun _ _ h => h) fun _ x _ _ session h => ?_
    cases x with
    | error err => cases h
    | ok a => exact (hf a session (Except.ok.inj h)).elim
  cases c with
  | login => exact ensures_signedIn_login _ _
  | loginWithGoogle => exact ensures_signedIn_google _
  | signUp => exact ensures_signedIn_signUp _
  | _ => exact hnone _ _ fun _ _ h => by cases h

end Judgements
end OpsPlatform.Auth
