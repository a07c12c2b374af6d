import OpsPlatform.Auth.Identity

/-! Which password an account has. Five operations set one, each under rules of its own; what
`Login` accepts is what the last of them that succeeded has set. -/
namespace OpsPlatform.Auth
open OpsPlatform.Go Interaction Program

/-- A password manager: the hashes `Hash` may return, and what `Compare` accepts. -/
structure PasswordManager where
  hashes : String → String → Prop
  accepts : String → String → Prop

namespace PasswordManager

/-- A hash accepts the password it was made from and no other; an empty one accepts none. -/
structure Lawful (m : PasswordManager) : Prop where
  accepts_hash : ∀ {password hash : String} (q : String), m.hashes password hash →
    (m.accepts hash q ↔ password = q)
  not_accepts_empty : ∀ q, ¬ m.accepts "" q

/-- A world with this password manager, in which a token can always be issued. -/
def Conforms (m : PasswordManager) : (op : Op) → op.Res → Prop
  | .hash password, r => ∀ hash, r = .ok hash → m.hashes password hash
  | .compare hash password, r => r = .ok () ↔ m.accepts hash password
  | .issue _, r => ∃ token, r = .ok token
  | _, _ => True

/-- What the hash of an account must be for the password last set, if one was. -/
def Fits (m : PasswordManager) : Option String → String → Prop
  | none, hash => hash = ""
  | some password, hash => m.hashes password hash

end PasswordManager

/-- The password a served call has set, and the account. -/
def Served.sets (lib : Lib) (x : Served) : Option (String × String) :=
  match x.reply with
  | .ok r => x.call.sets lib x.before.users r
  | .error _ => none

/-- The passwords set for an account, from its seed on. -/
def passwordsSet (lib : Lib) (cfg : BootstrapConfig) (xs : List Served) (id : String) :
    List String :=
  (((bootstrapSeedsFromConfig cfg).filter fun seed => seed.id = id).map (·.password)) ++
  ((xs.filterMap (·.sets lib)).filter fun p => p.1 = id).map (·.2)

def lastPassword (lib : Lib) (cfg : BootstrapConfig) (xs : List Served) (id : String) :
    Option String := (passwordsSet lib cfg xs id).getLast?

/-- The last passwords after one more may have been set. -/
def afterSetting (last : String → Option String) : Option (String × String) →
    String → Option String
  | none => last
  | some (id,password) => Function.update last id (some password)

lemma lastPassword_concat (lib : Lib) (cfg : BootstrapConfig) (xs : List Served) (x : Served) :
    lastPassword lib cfg (xs ++ [x]) = afterSetting (lastPassword lib cfg xs) (x.sets lib) := by
  funext id
  unfold lastPassword passwordsSet
  rw [List.filterMap_append]
  cases hsets : x.sets lib with
  | none => simp [hsets, afterSetting]
  | some p =>
    obtain ⟨id',password⟩ := p
    by_cases hid : id' = id
    · subst hid
      simp [hsets, afterSetting, ← List.append_assoc]
    · simp [hsets, afterSetting, hid, Function.update_of_ne (Ne.symm hid)]

/-- Every account has a hash of the password last set for it. -/
structure PasswordsHeld (m : PasswordManager) (last : String → Option String)
    (users : MemoryUserStore) : Prop where
  distinct : users.Distinct
  fits : ∀ user ∈ users.users, m.Fits (last user.id) user.passwordHash
  known : ∀ id, (last id).isSome → ∃ user ∈ users.users, user.id = id

section Step
variable {lib : Lib} {m : PasswordManager} {last : String → Option String} {s t : State}
  {id : String} {old new user row : User}

/-- A row written back has the password set for it, or the one it had. -/
lemma PasswordsHeld.rewrites (h : PasswordsHeld m last s.users) (hrewrites : Rewrites id old new s t)
    (hsame : Field.identity.Same old new) {set : Option (String × String)}
    (hset : ∀ p ∈ set, p.1 = id ∧ m.hashes p.2 new.passwordHash)
    (hkept : set = none → new.passwordHash = old.passwordHash) :
    PasswordsHeld m (afterSetting last set) t.users := by
  have hold := MemoryUserStore.mem_of_findByID hrewrites.found
  have holdID := MemoryUserStore.id_of_findByID hrewrites.found
  have hdistinct : t.users.Distinct := by
    rw [hrewrites.writes.2]
    exact h.distinct.replace hrewrites.found hsame
  have hrows : ∀ user ∈ t.users.users, user = new ∨ (user ∈ s.users.users ∧ user.id ≠ id) := by
    intro user huser
    have hfind := MemoryUserStore.findByID_of_mem hdistinct.sound huser
    rw [hrewrites.writes.findByID hrewrites.found] at hfind
    split_ifs at hfind with hid
    · exact .inl (Option.some.inj hfind).symm
    · exact .inr ⟨MemoryUserStore.mem_of_findByID hfind,hid⟩
  have hids : ∀ user ∈ s.users.users, ∃ user' ∈ t.users.users, user'.id = user.id := by
    intro user huser
    have hmem := List.mem_map_of_mem (f := (·.id)) huser
    rw [← MemoryUserStore.map_id_replace hrewrites.writes.1] at hmem
    rw [hrewrites.writes.2]
    exact List.mem_map.mp hmem
  refine ⟨hdistinct,?_,?_⟩
  · intro user huser
    obtain rfl | ⟨hmem,hne⟩ := hrows user huser
    · cases set with
      | none =>
        rw [hkept rfl, hrewrites.writes.1, ← holdID]
        exact h.fits old hold
      | some p =>
        obtain ⟨hid,hhash⟩ := hset p rfl
        rw [afterSetting, hrewrites.writes.1, ← hid, Function.update_self]
        exact hhash
    · cases set with
      | none => exact h.fits user hmem
      | some p =>
        obtain ⟨hid,_⟩ := hset p rfl
        rw [afterSetting, Function.update_of_ne (hid ▸ hne)]
        exact h.fits user hmem
  · intro id' hlast
    have hknown : ∃ user ∈ s.users.users, user.id = id' := by
      cases set with
      | none => exact h.known id' hlast
      | some p =>
        obtain ⟨hid,_⟩ := hset p rfl
        by_cases heq : id' = p.1
        · exact ⟨old,hold,by rw [holdID, heq, hid]⟩
        · rw [afterSetting, Function.update_of_ne heq] at hlast
          exact h.known id' hlast
    obtain ⟨user,huser,rfl⟩ := hknown
    exact hids user huser

/-- A row just created has the password set for it, or none. -/
lemma PasswordsHeld.create (h : PasswordsHeld m last s.users)
    (hstored : s.users.create lib user = (.ok row,t.users)) {set : Option (String × String)}
    (hset : ∀ p ∈ set, p.1 = row.id ∧ m.hashes p.2 user.passwordHash)
    (hnone : set = none → user.passwordHash = "") :
    PasswordsHeld m (afterSetting last set) t.users := by
  obtain ⟨_,hrow,ht⟩ := MemoryUserStore.create_ok hstored
  have hhash : row.passwordHash = user.passwordHash := by rw [hrow]
  have hfresh : ∀ existing ∈ s.users.users, existing.id ≠ row.id := by
    intro existing hexisting
    rw [show row.id = userID (s.users.seq+1) by rw [hrow]]
    exact h.distinct.sound.unissued existing hexisting _ (Nat.lt_succ_self _)
  refine ⟨h.distinct.create hstored,?_,?_⟩
  · rw [ht]
    intro existing hexisting
    obtain hexisting | hexisting := List.mem_append.mp hexisting
    · cases set with
      | none => exact h.fits existing hexisting
      | some p =>
        obtain ⟨hid,_⟩ := hset p rfl
        rw [afterSetting, Function.update_of_ne (hid ▸ hfresh existing hexisting)]
        exact h.fits existing hexisting
    · obtain rfl := List.mem_singleton.mp hexisting
      cases set with
      | none =>
        have hnew : last existing.id = none := by
          by_contra hsome
          obtain ⟨user,huser,hid⟩ := h.known _ (Option.isSome_iff_ne_none.mpr hsome)
          exact hfresh user huser hid
        rw [afterSetting, hnew, hhash]
        exact hnone rfl
      | some p =>
        obtain ⟨hid,hp⟩ := hset p rfl
        rw [afterSetting, ← hid, Function.update_self, hhash]
        exact hp
  · rw [ht]
    intro id hlast
    have hknown : id = row.id ∨ (last id).isSome := by
      cases set with
      | none => exact .inr hlast
      | some p =>
        by_cases heq : id = p.1
        · exact .inl (heq.trans (hset p rfl).1)
        · rw [afterSetting, Function.update_of_ne heq] at hlast
          exact .inr hlast
    obtain rfl | hsome := hknown
    · exact ⟨row,by simp,rfl⟩
    · obtain ⟨user,huser,hid⟩ := h.known id hsome
      exact ⟨user,List.mem_append_left _ huser,hid⟩

lemma sets_eq_none {x : Served} (h : x.call.SetsNothing lib x.before.users x.reply) :
    x.sets lib = none := by
  unfold Served.sets
  cases hreply : x.reply with
  | error e => rfl
  | ok r => exact h r hreply

/-- A code check is about no password and about nobody else. -/
lemma checkOTP_same (lib : Lib) (now : Time) (kind : CodeKind) (code : String) (old : User) :
    Field.identity.Same old (checkOTP lib now kind code old).1 ∧
      (checkOTP lib now kind code old).1.passwordHash = old.passwordHash := by
  refine ⟨?_,passwordHash_checkOTP ..⟩
  obtain ⟨_,h⟩ | ⟨_,_,h⟩ | ⟨_,_,h⟩ := checkOTP_cases lib now kind code old
  · rw [h]; exact .refl _ old
  · rw [h]; cases kind <;> exact ⟨rfl,rfl,rfl,rfl,rfl,rfl⟩
  · rw [h]; exact ⟨rfl,rfl,rfl,rfl,rfl,rfl⟩

/-- The step lemma: whatever a call does, every account has the password last set for it. -/
theorem PasswordsHeld.step {x : Served} (h : PasswordsHeld m last s.users)
    (hcall : ∀ cfg, x.call ≠ .seedBootstrapUsers cfg) (hx : Replies lib m.Conforms s x t) :
    PasswordsHeld m (afterSetting last (x.sets lib)) t.users := by
  obtain ⟨rfl,rfl,hruns⟩ := hx
  have houtcome := hruns.wp (Call.outcome x.call)
  obtain ⟨c,s,y,t⟩ := x
  dsimp only at *
  cases houtcome with
  | idle same sets =>
    rw [sets_eq_none sets, same]
    exact h
  | seeded => exact (hcall _ rfl).elim
  | @createUser _ _ user row tempPassword _ _ _ hashed stored =>
    exact h.create stored (by rintro p ⟨⟩; exact ⟨rfl,hashed _ rfl⟩) (by rintro ⟨⟩)
  | @signUp input user row r _ _ _ hashed stored issued =>
    obtain ⟨token,rfl⟩ := issued
    exact h.create stored (by rintro p ⟨⟩; exact ⟨rfl,hashed _ rfl⟩) (by rintro ⟨⟩)
  | @google identity _ _ _ _ _ noPassword _ _ stored =>
    have hnone : Served.sets lib ⟨.loginWithGoogle identity,s,y,t⟩ = none :=
      sets_eq_none fun r _ => by cases r <;> rfl
    rw [hnone]
    exact h.create stored (by rintro p ⟨⟩) fun _ => noPassword
  | @updateUser userID input old new applied rewrites =>
    have hpatch : (Call.updateUser userID input).Patches old new := .updateUser applied
    exact h.rewrites rewrites (hpatch.same (Call.identity_not_responsible _)) (by rintro p ⟨⟩)
      fun _ => (hpatch.same (f := .passwordHash) (by simp [Call.responsible])).symm
  | @resetPassword userID tempPassword passwordHash old hashed rewrites =>
    exact h.rewrites rewrites ⟨rfl,rfl,rfl,rfl,rfl,rfl⟩
      (by rintro p ⟨⟩; exact ⟨rfl,hashed _ rfl⟩) (by rintro ⟨⟩)
  | @changePassword userID oldPassword newPassword passwordHash old _ hashed rewrites =>
    exact h.rewrites rewrites ⟨rfl,rfl,rfl,rfl,rfl,rfl⟩
      (by rintro p ⟨⟩; exact ⟨rfl,hashed _ rfl⟩) (by rintro ⟨⟩)
  | @checked _ kind code id now old _ guess rewrites sets =>
    obtain ⟨hsame,hhash⟩ := checkOTP_same lib now kind code old
    rw [sets_eq_none sets]
    exact h.rewrites rewrites hsame (by rintro p ⟨⟩) fun _ => hhash
  | @storedCode identifier _ _ _ _ _ _ _ rewrites =>
    have hnone : Served.sets lib ⟨.requestPasswordReset identifier,s,y,t⟩ = none :=
      sets_eq_none fun r _ => by cases r <;> rfl
    rw [hnone]
    exact h.rewrites rewrites ⟨rfl,rfl,rfl,rfl,rfl,rfl⟩ (by rintro p ⟨⟩) fun _ => rfl
  | @completed identifier code newPassword passwordHash now user old found _ hashed rewrites =>
    have hsets : Served.sets lib ⟨.completePasswordReset identifier code newPassword,s,
        .ok .done,t⟩ = some (user.id,newPassword) := by
      simp [Served.sets, Call.sets, found]
    rw [hsets]
    exact h.rewrites rewrites ⟨rfl,rfl,rfl,rfl,rfl,rfl⟩
      (by rintro p ⟨⟩; exact ⟨rfl,hashed _ rfl⟩) (by rintro ⟨⟩)

end Step

section Run
variable {lib : Lib} {m : PasswordManager} {cfg : BootstrapConfig} {clock : Time} {s t : State}
  {xs : List Served}

/-- The seeded accounts have the passwords of the configuration. -/
lemma PasswordsHeld.seeded (hnorm : ∀ x, normalizeIdentifier lib (normalizeIdentifier lib x) =
    normalizeIdentifier lib x) (hseeded : Seeded lib m.Conforms cfg clock s)
    (hidentifiers : ((bootstrapSeedsFromConfig cfg).map fun seed =>
      normalizeIdentifier lib seed.identifier).Nodup) :
    PasswordsHeld m (lastPassword lib cfg []) s.users := by
  obtain ⟨hashes,hhashed,hstored⟩ := hseeded.rows hnorm
  refine ⟨hseeded.distinct hnorm hidentifiers,?_,?_⟩
  · rw [hstored]
    intro user huser
    obtain ⟨seed,hseed,hash,hhash,rfl⟩ := mem_seedRows hhashed huser
    have hlast : lastPassword lib cfg [] seed.id = some seed.password := by
      simp only [bootstrapSeedsFromConfig, BootstrapIdentity.seed, List.mem_cons,
        List.not_mem_nil, or_false] at hseed
      obtain rfl | rfl | rfl | rfl := hseed <;> rfl
    rw [show (seedUser lib seed hash).id = seed.id from rfl, hlast]
    exact hhash hash rfl
  · intro id hlast
    have hseed : ∃ seed ∈ bootstrapSeedsFromConfig cfg, seed.id = id := by
      by_contra hnone
      have hempty : (bootstrapSeedsFromConfig cfg).filter (fun seed => seed.id = id) = [] := by
        simpa using hnone
      simp [lastPassword, passwordsSet, hempty] at hlast
    obtain ⟨seed,hseed,rfl⟩ := hseed
    have hmem : seed.id ∈ s.users.users.map (·.id) := by
      rw [hstored, map_zipWith_seedUser (·.id) (·.id) (fun _ _ => rfl)
        hhashed.length_eq.symm]
      exact List.mem_map_of_mem hseed
    obtain ⟨user,huser,hid⟩ := List.mem_map.mp hmem
    exact ⟨user,huser,hid⟩

/-- The run lemma. -/
theorem passwords_held (hnorm : ∀ x, normalizeIdentifier lib (normalizeIdentifier lib x) =
    normalizeIdentifier lib x) (hseeded : Seeded lib m.Conforms cfg clock s)
    (hidentifiers : ((bootstrapSeedsFromConfig cfg).map fun seed =>
      normalizeIdentifier lib seed.identifier).Nodup)
    (hrun : Trace (Replies lib m.Conforms) s xs t)
    (hcalls : ∀ x ∈ xs, ∀ cfg, x.call ≠ .seedBootstrapUsers cfg) :
    PasswordsHeld m (lastPassword lib cfg xs) t.users := by
  induction hrun with
  | nil => exact .seeded hnorm hseeded hidentifiers
  | snoc _ hx ih =>
    rw [lastPassword_concat]
    exact (ih fun x hx => hcalls x (by simp [hx])).step (hcalls _ (by simp)) hx

/-- A login with the identifier of an account succeeds exactly if the account is active and the
password is the one last set for it; the session is that account's. -/
theorem login_accepts_last_password (hm : m.Lawful)
    (hnorm : ∀ x, normalizeIdentifier lib (normalizeIdentifier lib x) =
      normalizeIdentifier lib x) (hseeded : Seeded lib m.Conforms cfg clock s)
    (hidentifiers : ((bootstrapSeedsFromConfig cfg).map fun seed =>
      normalizeIdentifier lib seed.identifier).Nodup)
    (hrun : Trace (Replies lib m.Conforms) s xs t)
    (hcalls : ∀ x ∈ xs, ∀ cfg, x.call ≠ .seedBootstrapUsers cfg)
    {u : User} (hu : u ∈ t.users.users) {i : String}
    (hi : normalizeIdentifier lib i = u.identifier) (q : String) {y : Except Error Session}
    {t' : State} (hlogin : (login i q).Runs (Within lib m.Conforms) t y t') :
    ((∃ session, y = .ok session) ↔ u.isActive = true ∧ lastPassword lib cfg xs u.id = some q) ∧
    ∀ session, y = .ok session → session.principal = principalFromUser u := by
  have hheld := passwords_held hnorm hseeded hidentifiers hrun hcalls
  have hfind := hheld.distinct.findByIdentifier hu hi
  have hfits := hheld.fits u hu
  have haccepts : m.accepts u.passwordHash q ↔ lastPassword lib cfg xs u.id = some q := by
    cases hlast : lastPassword lib cfg xs u.id with
    | none =>
      rw [hlast] at hfits
      rw [show u.passwordHash = "" from hfits]
      simp [hm.not_accepts_empty q]
    | some password =>
      rw [hlast] at hfits
      rw [hm.accepts_hash q hfits, Option.some.injEq]
  rw [← haccepts]
  obtain ⟨_,houtcome⟩ := hlogin.wp (wp_login i q)
  cases houtcome with
  | unknown found =>
    rw [hfind] at found
    cases found
  | inactive found isActive =>
    obtain rfl := Option.some.inj (hfind.symm.trans found)
    simp [isActive]
  | mismatch found isActive compared =>
    obtain rfl := Option.some.inj (hfind.symm.trans found)
    have hrejects : ¬ m.accepts u.passwordHash q := fun h => by cases compared.mpr h
    simp [hrejects]
  | matched found isActive compared issued =>
    obtain rfl := Option.some.inj (hfind.symm.trans found)
    obtain ⟨token,rfl⟩ := issued
    refine ⟨iff_of_true ⟨_,rfl⟩ ⟨isActive,compared.mp rfl⟩,?_⟩
    rintro session h
    cases h
    rfl

end Run

/-- The password manager of the sample world. -/
def samplePasswords : PasswordManager where
  hashes password hash := hash = "$2a$10$" ++ password
  accepts hash password := hash = "$2a$10$" ++ password

lemma samplePasswords_lawful : samplePasswords.Lawful where
  accepts_hash := by
    rintro password _ q rfl
    simp [samplePasswords]
  not_accepts_empty := by
    intro q h
    have hlists := congrArg String.toList (show "" = "$2a$10$" ++ q from h)
    simp at hlists

lemma samplePasswords_conforms (op : Op) (s : State) :
    samplePasswords.Conforms op (exec lowerLib (sampleEnv 0) op s).1 := by
  cases op with
  | hash password => rintro hash ⟨⟩; rfl
  | compare hash password =>
    simp only [PasswordManager.Conforms, exec, sampleEnv, samplePasswords]
    split_ifs with h <;> simp [h]
  | issue principal => exact ⟨_,rfl⟩
  | _ => trivial

/-- A requester signs up and changes the password. -/
def signUpThenChange : List Call :=
  [.signUp adaSignUp,.changePassword "user-0001" "correct horse" "battery staple"]

theorem login_accepts_last_password_changed :
    ∃ session : Session, session.principal.userID = "user-0001" := by
  obtain ⟨t,hrun⟩ := trace_answerAll samplePasswords_conforms sampleSeeded signUpThenChange
  have hrow : ((lastState sampleSeeded (answerAll lowerLib (sampleEnv 0) sampleSeeded
      signUpThenChange)).users.findByID "user-0001").map (fun u => (u.identifier,u.isActive)) =
      some ("ada@example.org",true) := by decide +kernel
  rw [lastState_eq hrun] at hrow
  obtain ⟨u,hu,hfields⟩ := Option.map_eq_some_iff.mp hrow
  obtain ⟨hidentifier,hactive⟩ := Prod.mk.inj hfields
  have hcalls : ∀ x ∈ answerAll lowerLib (sampleEnv 0) sampleSeeded signUpThenChange, ∀ cfg,
      x.call ≠ .seedBootstrapUsers cfg := by
    intro x hx cfg hc
    simp only [answerAll, labels, signUpThenChange, List.mem_cons, List.not_mem_nil,
      or_false] at hx
    obtain rfl | rfl := hx <;> cases hc
  obtain ⟨haccepts,hsession⟩ := login_accepts_last_password samplePasswords_lawful
    normalizeIdentifier_lowerLib (seeded_sampleSeeded (samplePasswords_conforms · ·))
    sampleBootstrap_nodup hrun hcalls (MemoryUserStore.mem_of_findByID hu)
    (i := "ada@example.org") (by rw [hidentifier]; decide +kernel) "battery staple"
    (runs_run (fun op s => ⟨answers_exec lowerLib (sampleEnv 0) op s,
      samplePasswords_conforms op s⟩) _ t)
  have hid := MemoryUserStore.id_of_findByID hu
  obtain ⟨session,hok⟩ := haccepts.mpr ⟨hactive,by rw [hid]; decide +kernel⟩
  exact ⟨session,by rw [hsession session hok, ← hid]; rfl⟩

end OpsPlatform.Auth
