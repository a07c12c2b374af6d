import OpsPlatform.Auth.Concurrent
import OpsPlatform.Auth.Reach

/-! Roles under concurrent calls. One operation of a call changes the roles of an account only where
the call gives a role to that account. -/
namespace OpsPlatform.Auth
open OpsPlatform.Go Interaction Program

/-- Every role of the row is one this relation knows. -/
def User.Holds (K : String → Role → Prop) (row : User) : Prop := ∀ role ∈ row.roles, K row.id role

/-- What one event leaves of the roles a call may give: those of the account it has created, and the
role it was called to give. -/
structure Call.Gives (K : String → Role → Prop) (c : Call) (e : Event Op.Res) : Prop where
  creates : ∀ user created roles, e = ⟨.create user,.ok created⟩ → c.newRoles = some roles →
    ∀ role ∈ roles, K created.id role
  updates : ∀ userID input role, c = .updateUser userID input → input.role = some role →
    K userID role

section Step
variable {lib : Lib} {c : Call} {seen : List (Event Op.Res)} {s t : State} {e : Event Op.Res}
  {K : String → Role → Prop} {old row : User}

lemma User.Holds.of_same (h : old.Holds K) (hid : row.id = old.id) (hroles : row.roles = old.roles) :
    row.Holds K := by
  intro role hrole
  rw [hid]
  exact h role (hroles ▸ hrole)

/-- A row that an answer shows is stored. -/
lemma mem_of_shown (h : Answers lib e.op s e.res t) (hrow : shown e = some row) :
    row ∈ t.users.users := by
  obtain ⟨op,r⟩ := e
  cases h with
  | findByID id => exact MemoryUserStore.mem_of_findByID hrow
  | findByGoogleSubjectID id => exact List.mem_of_find?_eq_some hrow
  | create user =>
    obtain hstore | ⟨created,_,hstore⟩ := s.users.create_cases lib user
    · rw [hstore] at hrow
      cases hrow
    · rw [hstore] at hrow ⊢
      cases hrow
      simp
  | _ => cases hrow

/-- A row a call writes back holds what it held, and the role the call gives. -/
lemma Call.Patches.holds {userID : String} (h : c.Patches old row) (hnames : c.names = some userID)
    (hid : old.id = userID) (hgives : c.Gives K e) (hold : old.Holds K) : row.Holds K := by
  cases h with
  | @updateUser userID' input old row happlied =>
    obtain rfl := Option.some.inj hnames
    unfold UpdateUserInput.apply at happlied
    split_ifs at happlied
    cases happlied
    cases hrole : input.role with
    | none => exact hold
    | some role =>
      intro given hgiven
      obtain rfl := List.mem_singleton.mp hgiven
      rw [hid]
      exact hgives.updates _ input given rfl hrole
  | resetPassword | changePassword => exact hold

/-- The closures of `UpdateAtomic` leave the roles. -/
lemma Call.Mutates.holds {mutate : User → Except Error (User × OTPCheckResult)}
    {r : User × OTPCheckResult} (h : c.Mutates lib seen mutate) (hr : mutate old = .ok r)
    (hold : old.Holds K) : r.1.Holds K := by
  have hroles : Field.roles ∉ c.responsible := by
    cases h with
    | check at_ guess => cases c <;> cases guess <;> simp [Call.responsible]
    | storeCode | setPassword => simp [Call.responsible]
  exact hold.of_same (h.same hr c.identity_not_responsible).1.symm (h.same hr hroles).symm

/-- The step lemma. -/
theorem roles_step (hcall : ∀ cfg, c ≠ .seedBootstrapUsers cfg)
    (hs : ∀ user ∈ s.users.users, user.Holds K)
    (hseen : ∀ id row, ⟨.findByID id,some row⟩ ∈ seen → row.id = id ∧ row.Holds K)
    (hwrites : c.Writes lib seen e.op) (hgives : c.Gives K e)
    (hanswer : Answers lib e.op s e.res t) : ∀ user ∈ t.users.users, user.Holds K := by
  obtain ⟨op,r⟩ := e
  cases hanswer with
  | create user =>
    obtain hstore | ⟨row,hrow,hstore⟩ := s.users.create_cases lib user
    · rw [hstore]
      exact hs
    · rw [hstore] at hgives ⊢
      intro other hother
      obtain hother | hother := List.mem_append.mp hother
      · exact hs other hother
      · obtain rfl := List.mem_singleton.mp hother
        have hroles := hwrites.creates user rfl
        intro role hrole
        exact hgives.creates user other user.roles rfl hroles role (by rwa [hrow] at hrole)
  | update user =>
    obtain ⟨userID,old,hnames,hfound,hpatch⟩ := hwrites.updates
    obtain ⟨hid,hold⟩ := hseen userID old hfound
    obtain ⟨_,hstore⟩ | ⟨was,_,hstore⟩ := s.users.update_cases user
    · rw [hstore]
      exact hs
    · have hnew : user.Holds K := hpatch.holds hnames hid hgives hold
      rw [hstore]
      intro other hother
      obtain rfl | hother := MemoryUserStore.mem_replace hother
      · exact hnew
      · exact hs other hother
  | updateAtomic id mutate =>
    unfold MemoryUserStore.updateAtomic
    cases hfind : s.users.findByID id with
    | none => exact hs
    | some old =>
      cases hr : mutate old with
      | error err =>
        simp only [hr]
        exact hs
      | ok r =>
        simp only [hr]
        intro other hother
        obtain rfl | hother := MemoryUserStore.mem_replace hother
        · exact Call.Mutates.holds hwrites.may hr (hs old (MemoryUserStore.mem_of_findByID hfind))
        · exact hs other hother
  | seed user =>
    obtain ⟨cfg,hc,_⟩ := hwrites.may
    exact (hcall cfg hc).elim
  | _ => exact hs

end Step
end OpsPlatform.Auth
