import OpsPlatform.Auth.Identity

/-! Accounts that sign in with Google. They have no password, and need none, as long as no
administrator resets one: `ResetPassword` does not ask how the account signs in. -/
namespace OpsPlatform.Auth
open OpsPlatform.Go Interaction Program

/-- What an account that signs in with Google is documented to look like. -/
def User.PasswordLess (u : User) : Prop :=
  u.authProvider = .google →
    u.googleSubjectID.isSome = true ∧ u.passwordHash = "" ∧ u.requiresPasswordChange = false

/-- Only an account with a password may hold a code to reset it. -/
def User.CodeLocal (u : User) : Prop :=
  (CodeKind.passwordReset.code u).isSome = true → u.authProvider = .local

/-- `Compare` succeeds on no empty hash. -/
def RefusesEmpty : (op : Op) → op.Res → Prop
  | .compare hash _, r => hash = "" → r ≠ .ok ()
  | _, _ => True

/-- The call resets no password of an account that signs in with Google. -/
def Served.SparesGoogle (x : Served) : Prop :=
  ∀ userID user, x.call = .resetPassword userID → x.before.users.findByID userID = some user →
    user.authProvider ≠ .google

/-- The accounts of a store in which nobody has reset a Google account. -/
structure GoogleClean (users : MemoryUserStore) : Prop where
  sound : users.Sound
  passwordLess : ∀ user ∈ users.users, user.PasswordLess
  codeLocal : ∀ user ∈ users.users, user.CodeLocal

section Step
variable {lib : Lib} {s t : State} {x : Served} {old : User}

lemma passwordLess_of_local {user : User} (h : user.authProvider = .local) : user.PasswordLess := by
  intro hgoogle
  rw [h] at hgoogle
  cases hgoogle

lemma codeLocal_of_none {user : User} (h : user.passwordResetCodeHash = none) :
    user.CodeLocal := by
  intro hcode
  simp [CodeKind.code, CodeKind.getCode, h] at hcode

lemma clean_of_created {users users' : MemoryUserStore} {user row : User}
    (hstored : users.create lib user = (.ok row,users')) (hpassword : user.PasswordLess)
    (hreset : user.passwordResetCodeHash = none) : row.PasswordLess ∧ row.CodeLocal := by
  obtain ⟨_,rfl,_⟩ := MemoryUserStore.create_ok hstored
  exact ⟨hpassword,codeLocal_of_none hreset⟩

/-- A code check leaves both as they were. -/
lemma checkOTP_clean (lib : Lib) (now : Time) (kind : CodeKind) (code : String)
    (hpassword : old.PasswordLess) (hcode : old.CodeLocal) :
    (checkOTP lib now kind code old).1.PasswordLess ∧
      (checkOTP lib now kind code old).1.CodeLocal := by
  obtain ⟨_,h⟩ | ⟨_,_,h⟩ | ⟨_,_,h⟩ := checkOTP_cases lib now kind code old
  · rw [h]
    exact ⟨hpassword,hcode⟩
  · rw [h]
    cases kind with
    | emailVerification => exact ⟨hpassword,hcode⟩
    | passwordReset => exact ⟨hpassword,codeLocal_of_none rfl⟩
  · rw [h]
    exact ⟨hpassword,hcode⟩

lemma GoogleClean.new : GoogleClean .new := by
  refine ⟨MemoryUserStore.new_sound,?_,?_⟩ <;>
  · intro user huser
    cases huser

/-- The step lemma. -/
theorem GoogleClean.step (h : GoogleClean s.users) (hspares : x.SparesGoogle)
    (hx : Replies lib RefusesEmpty s x t) : GoogleClean t.users := by
  suffices hboth : ∀ user ∈ t.users.users, user.PasswordLess ∧ user.CodeLocal from
    ⟨hx.sound h.sound,fun user huser => (hboth user huser).1,
      fun user huser => (hboth user huser).2⟩
  have hs : ∀ user ∈ s.users.users, user.PasswordLess ∧ user.CodeLocal :=
    fun user huser => ⟨h.passwordLess user huser,h.codeLocal user huser⟩
  obtain ⟨rfl,rfl,hruns⟩ := hx
  have houtcome := hruns.wp (Call.outcome x.call)
  obtain ⟨c,s,y,t⟩ := x
  dsimp only at *
  cases houtcome with
  | idle same =>
    rw [same]
    exact hs
  | @seeded cfg _ hashes hhashed _ stored =>
    rw [stored]
    refine forall_foldl_seed hs fun row hrow identifier => ?_
    obtain ⟨seed,_,hash,_,rfl⟩ := mem_seedRows hhashed hrow
    exact ⟨passwordLess_of_local rfl,codeLocal_of_none rfl⟩
  | createUser isLocal _ noReset _ stored =>
    exact forall_create stored hs (clean_of_created stored (passwordLess_of_local isLocal) noReset)
  | signUp isLocal _ noReset _ stored =>
    exact forall_create stored hs (clean_of_created stored (passwordLess_of_local isLocal) noReset)
  | google _ subject noPassword noChange noReset stored =>
    have hpassword : User.PasswordLess _ := fun _ => ⟨by rw [subject]; rfl,noPassword,noChange⟩
    exact forall_create stored hs (clean_of_created stored hpassword noReset)
  | @updateUser userID input old new applied rewrites =>
    refine rewrites.forall hs fun hold => ?_
    unfold UpdateUserInput.apply at applied
    split_ifs at applied
    cases applied
    exact hold
  | @resetPassword userID _ _ old _ rewrites =>
    refine rewrites.forall hs fun hold => ⟨fun hgoogle => ?_,hold.2⟩
    exact (hspares userID old rfl rewrites.found hgoogle).elim
  | @changePassword _ _ _ _ old compared _ rewrites =>
    refine rewrites.forall hs fun hold => ⟨fun hgoogle => ?_,hold.2⟩
    exact (compared (hold.1 hgoogle).2.1 rfl).elim
  | @checked _ kind code _ now old _ _ rewrites =>
    exact rewrites.forall hs fun hold => checkOTP_clean lib now kind code hold.1 hold.2
  | @storedCode _ _ _ user old _ found isExternal rewrites =>
    have huser := MemoryUserStore.findByID_of_findByIdentifier h.sound found
    obtain rfl := Option.some.inj (huser.symm.trans rewrites.found)
    exact rewrites.forall hs fun hold => ⟨hold.1,fun _ => isExternal.2⟩
  | @completed _ _ _ _ now _ old _ accepted _ rewrites =>
    refine rewrites.forall hs fun hold => ?_
    obtain ⟨_,_,hcode,_⟩ := accepts_iff.mp accepted
    have hlocal : old.authProvider = .local := hold.2 (by rw [hcode]; rfl)
    exact ⟨passwordLess_of_local hlocal,codeLocal_of_none rfl⟩

end Step
end OpsPlatform.Auth
