import OpsPlatform.Auth.Sequential

/-! Self-service password resets over sequential runs. The role is looked at when a reset code is
requested and not when it is used, so what matters in between is that no account leaves the
requester role while it holds a code. -/
namespace OpsPlatform.Auth
open OpsPlatform.Go Interaction Program

/-- An account that may reset its password by itself. -/
def User.External (u : User) : Prop := u.hasRole .requester = true ∧ u.authProvider = .local

/-- Only external accounts hold a reset code. -/
def ResetCodesExternal (users : MemoryUserStore) : Prop :=
  ∀ id user, users.findByID id = some user → (CodeKind.passwordReset.code user).isSome →
    user.External

/-- The call gives no account that holds a reset code a role other than requester. -/
def Exchange.LeavesRequesters (x : Exchange) : Prop :=
  ∀ userID input role user, x.call = .updateUser userID input → input.role = some role →
    isKnownRole role = true → x.before.users.findByID userID = some user →
    (CodeKind.passwordReset.code user).isSome → role = .requester

section Rows
variable {lib : Lib} {c : Call} {s t : State} {x : Except Error Unit}

/-- The bootstrap ids are none that `Create` will give. -/
lemma bootstrap_unissued {cfg : BootstrapConfig} {seed : BootstrapSeed}
    (hseed : seed ∈ bootstrapSeedsFromConfig cfg) (n : ℕ) : seed.id ≠ userID n := by
  have hids : seed.id ∈ (bootstrapSeedsFromConfig cfg).map (·.id) := List.mem_map_of_mem hseed
  have hstem : ∃ rest : String, seed.id = "user-" ++ rest ∧ '-' ∈ rest.toList := by
    simp only [bootstrapSeedsFromConfig, BootstrapIdentity.seed, List.map_cons, List.map_nil,
      List.mem_cons, List.not_mem_nil, or_false] at hids
    obtain h | h | h | h := hids
    · exact ⟨"admin-001",by simp [h],by decide⟩
    · exact ⟨"assignee-001",by simp [h],by decide⟩
    · exact ⟨"supervisor-001",by simp [h],by decide⟩
    · exact ⟨"requester-001",by simp [h],by decide⟩
  obtain ⟨rest,hid,hdash⟩ := hstem
  rw [hid]
  exact ne_sprintf04d "user-" hdash rfl n

/-- The calls that add accounts. -/
def Call.Adds : Call → Prop
  | .seedBootstrapUsers _ | .createUser _ _ | .signUp _ | .loginWithGoogle _ => True
  | _ => False

/-- A call keeps the ids apart, and the accounts it adds hold no reset code. -/
theorem Call.rows (hs : s.users.Sound) (hruns : (c.program lib).Runs (Answers lib) s x t) :
    t.users.Sound ∧ ∀ id new, t.users.findByID id = some new →
      (∃ old, s.users.findByID id = some old) ∨ CodeKind.passwordReset.code new = none := by
  have hmay := c.ensures_start lib
  refine (hmay.runs (J := fun _ t => t.users.Sound ∧
      (c.Adds → ∀ user ∈ t.users.users, user ∈ s.users.users ∨
        CodeKind.passwordReset.code user = none) ∧
      (¬ c.Adds → t.users.users.map (·.id) = s.users.users.map (·.id)))
    hruns ⟨hs,fun _ user huser => .inl huser,fun _ => rfl⟩ ?_).elim ?_
  · rintro seen op t r u hmay ⟨ht,hadds,hkeeps⟩ hanswer
    refine ⟨trivial,?_⟩
    have hconcat : ∀ row : User, CodeKind.passwordReset.code row = none → c.Adds →
        (c.Adds → ∀ user ∈ t.users.users ++ [row], user ∈ s.users.users ∨
          CodeKind.passwordReset.code user = none) ∧
        (¬ c.Adds → (t.users.users ++ [row]).map (·.id) = s.users.users.map (·.id)) := by
      refine fun row hrow hc => ⟨fun _ user huser => ?_,fun hnot => (hnot hc).elim⟩
      obtain huser | huser := List.mem_append.mp huser
      · exact hadds hc user huser
      · rw [List.mem_singleton.mp huser]
        exact .inr hrow
    cases hanswer with
    | create user =>
      change c.Creates lib seen user at hmay
      have hnone : CodeKind.passwordReset.code user = none ∧ c.Adds := by
        cases hmay with
        | signUp _ _ _ _ _ noReset => simp [CodeKind.code, CodeKind.getCode, noReset, Call.Adds]
        | createUser noReset => simp [CodeKind.code, CodeKind.getCode, noReset, Call.Adds]
        | loginWithGoogle noReset => simp [CodeKind.code, CodeKind.getCode, noReset, Call.Adds]
      obtain hstore | ⟨row,hrow,hstore⟩ := t.users.create_cases lib user
      · rw [hstore]; exact ⟨ht,hadds,hkeeps⟩
      · rw [hstore]
        exact ⟨ht.create (by rw [hrow]),hconcat row (by rw [hrow]; exact hnone.1) hnone.2⟩
    | seed user =>
      obtain ⟨cfg,rfl,seed,hseed,passwordHash,rfl⟩ := hmay
      obtain hstore | ⟨row,hrow,hnew,hstore⟩ := t.users.seed_cases lib (seedUser lib seed passwordHash)
      · rw [hstore]; exact ⟨ht,hadds,hkeeps⟩
      · rw [hstore]
        have hid : row.id = seed.id := by rw [hrow]; rfl
        refine ⟨ht.concat le_rfl (hid ▸ hnew) fun n _ => ?_,hconcat row (by rw [hrow]; rfl) trivial⟩
        rw [hid]
        exact bootstrap_unissued hseed n
    | update user =>
      obtain ⟨_,_,_,hpatch⟩ := hmay
      have hc : ¬ c.Adds := by cases hpatch <;> exact not_false
      obtain ⟨_,hstore⟩ | ⟨old,_,hstore⟩ := t.users.update_cases user
      · rw [hstore]; exact ⟨ht,hadds,hkeeps⟩
      · rw [hstore]
        exact ⟨ht.replace rfl,fun h => (hc h).elim,fun _ =>
          (MemoryUserStore.map_id_replace rfl _).trans (hkeeps hc)⟩
    | updateAtomic id mutate =>
      change c.Mutates lib seen mutate at hmay
      have hc : ¬ c.Adds := by
        cases hmay with
        | check _ guess => cases c <;> first | exact not_false | cases guess
        | storeCode => exact not_false
        | setPassword => exact not_false
      unfold MemoryUserStore.updateAtomic
      cases hfind : t.users.findByID id with
      | none => exact ⟨ht,hadds,hkeeps⟩
      | some old =>
        cases hr : mutate old with
        | error err => simp only [hr]; exact ⟨ht,hadds,hkeeps⟩
        | ok r =>
          have hid : r.1.id = id := (hmay.id hr).trans (MemoryUserStore.id_of_findByID hfind)
          simp only [hr]
          exact ⟨ht.replace hid,fun h => (hc h).elim,fun _ =>
            (MemoryUserStore.map_id_replace hid _).trans (hkeeps hc)⟩
    | _ => exact ⟨ht,hadds,hkeeps⟩
  · rintro _ ⟨⟨ht,hadds,hkeeps⟩,_⟩
    refine ⟨ht,fun id new hnew => ?_⟩
    have hid := MemoryUserStore.id_of_findByID hnew
    have hmem := MemoryUserStore.mem_of_findByID hnew
    by_cases hc : c.Adds
    · obtain hold | hnone := hadds hc new hmem
      · exact .inl ⟨new,hid ▸ MemoryUserStore.findByID_of_mem hs hold⟩
      · exact .inr hnone
    · have hids : new.id ∈ s.users.users.map (·.id) := hkeeps hc ▸ List.mem_map_of_mem hmem
      obtain ⟨old,hold,holdID⟩ := List.mem_map.mp hids
      exact .inl ⟨old,hid ▸ holdID ▸ MemoryUserStore.findByID_of_mem hs hold⟩

/-- A call that issues no code leaves those in force, or takes them away. -/
lemma codes_kept (hs : s.users.Sound) (hcall : c.UsesOTP) (hissues : c.issues = none)
    (hruns : (c.program lib).Runs (Answers lib) s x t) (kind : CodeKind) (id : String) :
    (t.users.findByID id).bind kind.code = none ∨
    (t.users.findByID id).bind kind.code = (s.users.findByID id).bind kind.code := by
  have hmay := c.ensures_start lib
  refine (hmay.runs (J := fun _ t => t.users.Sound ∧
    ((t.users.findByID id).bind kind.code = none ∨
      (t.users.findByID id).bind kind.code = (s.users.findByID id).bind kind.code))
    hruns ⟨hs,.inr rfl⟩ ?_).elim fun _ h => h.1.2
  rintro seen op t r u hmay ⟨ht,hcodes⟩ hanswer
  obtain ⟨hu,hnext⟩ := code_step (fun _ : Unit => c) kind id () (e := ⟨op,r⟩) ht hcall hmay hanswer
  refine ⟨trivial,hu,?_⟩
  rw [hnext]
  simp only [OneTime.next, issued, hissues, reduceCtorEq, if_false]
  split_ifs
  · exact .inl rfl
  · exact hcodes

lemma code_congr {a b : User} (h : Field.resetCode.Same a b) :
    CodeKind.passwordReset.code a = CodeKind.passwordReset.code b := by
  unfold CodeKind.code
  rw [show CodeKind.passwordReset.getCode a = CodeKind.passwordReset.getCode b from h]

/-- A requester stays one where no patch gives another known role. -/
lemma hasRole_apply {input : UpdateUserInput} {old new : User} (happly : input.apply old = .ok new)
    (hrequester : old.hasRole .requester = true)
    (hleaves : ∀ role, input.role = some role → isKnownRole role = true → role = .requester) :
    new.hasRole .requester = true := by
  unfold UpdateUserInput.apply at happly
  split_ifs at happly with hknown
  cases happly
  cases hrole : input.role with
  | none => simpa [User.hasRole, hrole] using hrequester
  | some role =>
    obtain rfl := hleaves role hrole (by simpa [hrole] using hknown)
    simp [User.hasRole]

end Rows

section Run
variable {lib : Lib} {s t : State} {x : Exchange} {xs : List Exchange}

/-- The step lemma. -/
theorem resetCodesExternal_step (hs : s.users.Sound) (hcodes : ResetCodesExternal s.users)
    (hx : Serves lib s x t) (hleaves : x.LeavesRequesters) : ResetCodesExternal t.users := by
  obtain ⟨rfl,rfl,hruns⟩ := hx
  intro id new hnew hcode
  obtain ⟨old,hold⟩ | hnone := (Call.rows hs hruns).2 id new hnew
  swap
  · rw [hnone] at hcode
    cases hcode
  obtain ⟨new',hnew',hsame⟩ := Call.keeps hruns id old hold
  obtain rfl : new = new' := Option.some.inj (hnew.symm.trans hnew')
  have hprovider : new.authProvider = old.authProvider :=
    (hsame .identity x.call.identity_not_responsible).2.2.2.2.1.symm
  -- where neither the roles nor the code change, the account was external before
  have hkept : Field.Same .roles old new →
      CodeKind.passwordReset.code new = CodeKind.passwordReset.code old → new.External := by
    intro hroles hsameCode
    obtain ⟨hrole,hlocal⟩ := hcodes id old hold (hsameCode ▸ hcode)
    refine ⟨?_,hprovider.trans hlocal⟩
    rwa [User.hasRole, ← show old.roles = new.roles from hroles]
  cases hc : x.call with
  | updateUser userID input =>
    have hsameCode : CodeKind.passwordReset.code new = CodeKind.passwordReset.code old :=
      (code_congr (hsame .resetCode (by simp [hc, Call.responsible]))).symm
    have hexternal : old.External := hcodes id old hold (hsameCode ▸ hcode)
    rw [hc] at hruns
    obtain ⟨_,hruns⟩ := hruns.of_discard
    obtain ⟨hnothing,_⟩ | ⟨old',new',hold',happly,hwrites⟩ := updateUser_effect hruns
    · rw [hnothing, hold] at hnew
      cases hnew
      exact hexternal
    · rw [hwrites.findByID hold'] at hnew
      split_ifs at hnew with hid
      · subst hid
        cases hnew
        obtain rfl := Option.some.inj (hold.symm.trans hold')
        refine ⟨hasRole_apply happly hexternal.1 fun role hrole hknown => ?_,
          hprovider.trans hexternal.2⟩
        exact hleaves id input role old hc hrole hknown hold (hsameCode ▸ hcode)
      · rw [hold] at hnew
        cases hnew
        exact hexternal
  | requestPasswordReset identifier =>
    rw [hc] at hruns
    obtain hnothing | ⟨user,old',hash,expiresAt,hidentifier,hrole,hlocal,hold',hfind⟩ :=
      hruns.wp (wp_requestPasswordReset identifier)
    · rw [hnothing, hold] at hnew
      cases hnew
      exact hcodes id new hold hcode
    · rw [hfind] at hnew
      split_ifs at hnew with hid
      · subst hid
        cases hnew
        have huser := MemoryUserStore.findByID_of_findByIdentifier hs hidentifier
        obtain rfl := Option.some.inj (huser.symm.trans hold')
        exact ⟨hrole,hlocal⟩
      · rw [hold] at hnew
        cases hnew
        exact hcodes id new hold hcode
  | completePasswordReset identifier code newPassword =>
    have hroles := hsame .roles (by simp [hc, Call.responsible])
    rw [hc] at hruns
    have hcodes' := codes_kept hs (by trivial) rfl hruns .passwordReset id
    rw [hnew, hold, Option.bind_some, Option.bind_some] at hcodes'
    obtain hnone | hsameCode := hcodes'
    · rw [hnone] at hcode
      cases hcode
    · exact hkept hroles hsameCode
  | _ =>
    exact hkept (hsame .roles (by simp [hc, Call.responsible]))
      (code_congr (hsame .resetCode (by simp [hc, Call.responsible]))).symm

/-- A reset that changes a password found a valid reset code in that very account. -/
lemma code_of_reset {identifier code newPassword id : String} {old new : User}
    {result : Except Error Unit}
    (hruns : ((Call.completePasswordReset identifier code newPassword).program lib).Runs
      (Answers lib) s result t)
    (hold : s.users.findByID id = some old) (hnew : t.users.findByID id = some new)
    (hchanged : new.passwordHash ≠ old.passwordHash) :
    (CodeKind.passwordReset.code old).isSome := by
  obtain ⟨hnothing,heffect⟩ := guess_effect rfl hruns
  cases htarget : (Call.completePasswordReset identifier code newPassword).target lib s.users with
  | none =>
    rw [hnothing htarget, hold] at hnew
    cases hnew
    exact (hchanged rfl).elim
  | some id' =>
    obtain ⟨hother,hwrong⟩ := heffect id' htarget
    by_cases hid : id = id'
    · subst hid
      -- a row that only counts an attempt keeps its password
      have hrefused : ∀ row found, checkOTP lib t.clock .passwordReset code old = (row,found) →
          found.valid = false → row.passwordHash ≠ old.passwordHash := by
        intro row found hcheck hno
        have hrow := (hwrong old hold (by rw [hcheck, hno])).2
        rw [hcheck, hnew] at hrow
        obtain rfl := Option.some.inj hrow
        exact hchanged
      obtain ⟨_,hcheck⟩ | ⟨_,haccepts,_⟩ | ⟨_,_,hcheck⟩ :=
        checkOTP_cases lib t.clock .passwordReset code old
      · exact (hrefused _ _ hcheck rfl rfl).elim
      · obtain ⟨storedHash,expiresAt,hcode,_⟩ := accepts_iff.mp haccepts
        rw [hcode]
        rfl
      · exact (hrefused _ _ hcheck rfl rfl).elim
    · rw [hother id hid, hold] at hnew
      cases hnew
      exact (hchanged rfl).elim

/-- As long as no holder of a reset code leaves the requester role, a self-service reset changes
the passwords of local requesters only. -/
theorem self_reset_external {clock : Time}
    (hrun : Trace (fun s x t => Serves lib s x t ∧ x.LeavesRequesters) ⟨.new,clock⟩ xs t) :
    ∀ x ∈ xs, ∀ identifier code newPassword,
      x.call = .completePasswordReset identifier code newPassword →
      ∀ id old new, x.before.users.findByID id = some old → x.after.users.findByID id = some new →
      new.passwordHash ≠ old.passwordHash → old.External ∧ new.External := by
  suffices h : (t.users.Sound ∧ ResetCodesExternal t.users) ∧ ∀ x ∈ xs,
      ∀ identifier code newPassword,
      x.call = .completePasswordReset identifier code newPassword →
      ∀ id old new, x.before.users.findByID id = some old → x.after.users.findByID id = some new →
      new.passwordHash ≠ old.passwordHash → old.External ∧ new.External from h.2
  induction hrun with
  | nil =>
    refine ⟨⟨MemoryUserStore.new_sound,?_⟩,by simp⟩
    intro id user huser
    cases huser
  | @snoc s t xs x _ hx ih =>
    obtain ⟨⟨hsound,hcodes⟩,hresets⟩ := ih
    obtain ⟨hserves,hleaves⟩ := hx
    refine ⟨⟨(Call.rows hsound hserves.runs).1,
      resetCodesExternal_step hsound hcodes hserves hleaves⟩,?_⟩
    intro y hy
    obtain hy | hy := List.mem_append.mp hy
    · exact hresets y hy
    obtain rfl := List.mem_singleton.mp hy
    intro identifier code newPassword hc id old new hold hnew hchanged
    obtain ⟨rfl,rfl,hruns⟩ := hserves
    obtain ⟨new',hnew',hsame⟩ := Call.keeps hruns id old hold
    obtain rfl : new = new' := Option.some.inj (hnew.symm.trans hnew')
    have hroles : old.roles = new.roles := hsame .roles (by simp [hc, Call.responsible])
    have hprovider := (hsame .identity y.call.identity_not_responsible).2.2.2.2.1
    rw [hc] at hruns
    have hexternal := hcodes id old hold (code_of_reset hruns hold hnew hchanged)
    refine ⟨hexternal,?_,hprovider.symm.trans hexternal.2⟩
    rw [User.hasRole, ← hroles]
    exact hexternal.1

end Run

def adaSignUp : SignUpInput := ⟨"ada@example.org","correct horse","Ada"⟩

/-- A requester signs up, asks for a reset code and uses it. -/
def requesterReset : List (Env × Call) :=
  [(sampleEnv 0,.signUp adaSignUp), (sampleEnv 0,.requestPasswordReset "ada@example.org"),
    (sampleEnv 0,.completePasswordReset "ada@example.org" "000000" "battery staple")]

theorem self_reset_external_requester :
    ∃ old new : User, new.passwordHash ≠ old.passwordHash ∧ old.External ∧ new.External := by
  obtain ⟨t,hrun⟩ := trace_serveAll sampleLib ⟨.new,0⟩ requesterReset
  have hleaves : ∀ x ∈ serveAll sampleLib ⟨.new,0⟩ requesterReset, x.LeavesRequesters := by
    intro x hx userID input role user hc
    simp only [serveAll, labels, requesterReset, List.mem_cons, List.not_mem_nil, or_false] at hx
    obtain rfl | rfl | rfl := hx <;> cases hc
  have hlast : ((serveAll sampleLib ⟨.new,0⟩ requesterReset)[2]?.bind fun x =>
      (x.before.users.findByID "user-0001").bind fun old =>
      (x.after.users.findByID "user-0001").map fun new => (old.passwordHash,new.passwordHash)) =
      some ("$2a$10$correct horse","$2a$10$battery staple") := by decide +kernel
  obtain ⟨x,hx,hrows⟩ := Option.bind_eq_some_iff.mp hlast
  obtain ⟨old,hold,hrows⟩ := Option.bind_eq_some_iff.mp hrows
  obtain ⟨new,hnew,hhashes⟩ := Option.map_eq_some_iff.mp hrows
  obtain ⟨hoff,hnow⟩ := Prod.mk.inj hhashes
  have hchanged : new.passwordHash ≠ old.passwordHash := by
    rw [hoff, hnow]
    decide
  have hcall : x.call = .completePasswordReset "ada@example.org" "000000" "battery staple" := by
    obtain ⟨r,s,hr,rfl⟩ := request_of_label hx
    rw [← Option.some.inj hr]
    rfl
  exact ⟨old,new,hchanged,self_reset_external (hrun.and_label hleaves) x
    (List.mem_of_getElem? hx) _ _ _ hcall _ old new hold hnew hchanged⟩

/-- The requester becomes an admin between asking for the code and using it. -/
def promotedReset : List (Env × Call) :=
  [(sampleEnv 0,.signUp adaSignUp), (sampleEnv 0,.requestPasswordReset "ada@example.org"),
    (sampleEnv 0,.updateUser "user-0001" ⟨none,some .admin⟩),
    (sampleEnv 0,.completePasswordReset "ada@example.org" "000000" "battery staple")]

theorem admin_password_reset :
    ¬ ∀ (lib : Lib) (xs : List Exchange) (t : State), Trace (Serves lib) ⟨.new,0⟩ xs t →
      ∀ x ∈ xs, ∀ identifier code newPassword,
      x.call = .completePasswordReset identifier code newPassword →
      ∀ id old new, x.before.users.findByID id = some old → x.after.users.findByID id = some new →
      new.passwordHash ≠ old.passwordHash → new.External := by
  intro h
  obtain ⟨t,hrun⟩ := trace_serveAll sampleLib ⟨.new,0⟩ promotedReset
  have hlast : ((serveAll sampleLib ⟨.new,0⟩ promotedReset)[3]?.bind fun x =>
      (x.before.users.findByID "user-0001").bind fun old =>
      (x.after.users.findByID "user-0001").map fun new =>
        (old.passwordHash,new.passwordHash,new.roles)) =
      some ("$2a$10$correct horse","$2a$10$battery staple",[.admin]) := by decide +kernel
  obtain ⟨x,hx,hrows⟩ := Option.bind_eq_some_iff.mp hlast
  obtain ⟨old,hold,hrows⟩ := Option.bind_eq_some_iff.mp hrows
  obtain ⟨new,hnew,hfields⟩ := Option.map_eq_some_iff.mp hrows
  obtain ⟨hoff,hfields⟩ := Prod.mk.inj hfields
  obtain ⟨hnow,hroles⟩ := Prod.mk.inj hfields
  have hcall : x.call = .completePasswordReset "ada@example.org" "000000" "battery staple" := by
    obtain ⟨r,s,hr,rfl⟩ := request_of_label hx
    rw [← Option.some.inj hr]
    rfl
  have hexternal := h sampleLib _ t hrun x (List.mem_of_getElem? hx) _ _ _ hcall "user-0001" old new
    hold hnew (by rw [hoff, hnow]; decide)
  have hrole := hexternal.1
  simp [User.hasRole, hroles] at hrole

end OpsPlatform.Auth
