import OpsPlatform.Auth.GoogleAccounts
import OpsPlatform.Auth.Passwords
import OpsPlatform.Http.Router

/-! What a Google account may do: sign in with Google only, and never be held up by the gate that
asks for a new password. Both end where an administrator resets its password. -/
namespace OpsPlatform.Http
open OpsPlatform.Go OpsPlatform.Auth Interaction Program

section Run
variable {lib : Lib} {clock : Time} {t : Auth.State} {xs : List Served} {user : User}

/-- In every state of such a run the accounts are clean. -/
lemma googleClean_run
    (hrun : Trace (fun s x t => Replies lib RefusesEmpty s x t ∧ x.SparesGoogle) ⟨.new,clock⟩ xs t) :
    GoogleClean t.users := by
  induction hrun with
  | nil => exact .new
  | snoc _ hx ih => exact ih.step hx.2 hx.1

/-- As long as no password of a Google account is reset, such an account has none, no login with a
password ends in it, and the password-change gate lets it through. -/
theorem google_accounts_passwordless
    (hrun : Trace (fun s x t => Replies lib RefusesEmpty s x t ∧ x.SparesGoogle) ⟨.new,clock⟩ xs t)
    (huser : user ∈ t.users.users) (hgoogle : user.authProvider = .google) :
    (user.googleSubjectID.isSome = true ∧ user.passwordHash = "" ∧
      user.requiresPasswordChange = false) ∧
    (∀ identifier password session t',
      (login identifier password).Runs (Within lib RefusesEmpty) t (.ok session) t' →
      session.principal.userID ≠ user.id) ∧
    ∀ {Op : Type} {Res : Op → Type},
      (requirePasswordChangeCleared (principalFromUser user) : Program Res Response Unit) =
        ret () := by
  have hclean := googleClean_run hrun
  have hpassword := hclean.passwordLess user huser hgoogle
  refine ⟨hpassword,?_,?_⟩
  · intro identifier password session t' hlogin heq
    obtain ⟨_,houtcome⟩ := hlogin.wp (wp_login identifier password)
    generalize hy : Except.ok session = y at houtcome
    cases houtcome with
    | @matched found r hfound _ compared _ =>
      have hsession : session.principal = principalFromUser found := by
        cases r with
        | error e => cases hy
        | ok token => cases hy; rfl
      have hsame : found = user := List.inj_on_of_nodup_map hclean.sound.nodup
        (List.mem_of_find?_eq_some hfound) huser (by rw [← heq, hsession]; rfl)
      exact compared (hsame ▸ hpassword.2.1) rfl
    | _ => cases hy
  · intro Op Res
    exact failIf_false (by simp [principalFromUser, hpassword.2.2]) _

end Run

lemma refusesEmpty_of_conforms {m : PasswordManager} (hm : m.Lawful) {op : Auth.Op}
    {r : op.Res} (h : m.Conforms op r) : RefusesEmpty op r := by
  cases op with
  | compare hash password =>
    rintro rfl hok
    exact hm.not_accepts_empty password (h.mp hok)
  | _ => trivial

/-- Ada signs in with Google, asks for a reset code and tries to set a password. -/
def googleThenForgot : List Auth.Call :=
  [.loginWithGoogle ⟨"google-1","ada@example.org","Ada"⟩,.requestPasswordReset "ada@example.org",
    .changePassword "user-0001" "" "battery staple"]

/-- Ada signs in with Google, and an administrator resets her password. -/
def googleThenReset : List Auth.Call :=
  [.loginWithGoogle ⟨"google-1","ada@example.org","Ada"⟩,.resetPassword "user-0001"]

lemma trace_sample (calls : List Auth.Call) : ∃ t, Trace (Replies lowerLib RefusesEmpty) ⟨.new,0⟩
    (answerAll lowerLib (sampleEnv 0) ⟨.new,0⟩ calls) t :=
  trace_answerAll (fun op s => refusesEmpty_of_conforms samplePasswords_lawful
    (samplePasswords_conforms op s)) ⟨.new,0⟩ calls

theorem google_accounts_passwordless_forgot : ∃ user : User,
    user.authProvider = .google ∧ user.passwordHash = "" := by
  obtain ⟨t,hrun⟩ := trace_sample googleThenForgot
  have hspares : ∀ x ∈ answerAll lowerLib (sampleEnv 0) ⟨.new,0⟩ googleThenForgot,
      x.SparesGoogle := by
    intro x hx userID user hc
    simp only [answerAll, labels, googleThenForgot, List.mem_cons, List.not_mem_nil,
      or_false] at hx
    obtain rfl | rfl | rfl := hx <;> cases hc
  have hrow : (lastState ⟨.new,0⟩ (answerAll lowerLib (sampleEnv 0) ⟨.new,0⟩
      googleThenForgot)).users.users.map (·.authProvider) = [.google] := by decide +kernel
  rw [lastState_eq hrun] at hrow
  have hmem : AuthProvider.google ∈ t.users.users.map (·.authProvider) := by
    rw [hrow]; simp
  obtain ⟨user,huser,hgoogle⟩ := List.mem_map.mp hmem
  exact ⟨user,hgoogle,
    (google_accounts_passwordless (hrun.and_label hspares) huser hgoogle).1.2.1⟩

/-- After the reset the account has a password, and the gate keeps it out. -/
theorem google_account_locked_out :
    ¬ ∀ (lib : Lib) (xs : List Served) (t : Auth.State),
      Trace (Replies lib RefusesEmpty) ⟨.new,0⟩ xs t → ∀ user ∈ t.users.users,
      user.authProvider = .google →
      user.googleSubjectID.isSome = true ∧ user.passwordHash = "" ∧
        user.requiresPasswordChange = false := by
  intro h
  obtain ⟨t,hrun⟩ := trace_sample googleThenReset
  have hrow : (lastState ⟨.new,0⟩ (answerAll lowerLib (sampleEnv 0) ⟨.new,0⟩
      googleThenReset)).users.users.map
      (fun user => (user.authProvider,user.requiresPasswordChange)) = [(.google,true)] := by
    decide +kernel
  rw [lastState_eq hrun] at hrow
  have hmem : (AuthProvider.google,true) ∈ t.users.users.map
      (fun user => (user.authProvider,user.requiresPasswordChange)) := by
    rw [hrow]; simp
  obtain ⟨user,huser,hfields⟩ := List.mem_map.mp hmem
  obtain ⟨hgoogle,hchange⟩ := Prod.mk.inj hfields
  have hclean := (h lowerLib _ t hrun user huser hgoogle).2.2
  rw [hchange] at hclean
  cases hclean

end OpsPlatform.Http
