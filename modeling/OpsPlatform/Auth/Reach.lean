import OpsPlatform.Auth.Identity

/-! How far one call of the auth service reaches when it runs alone: the account it may rewrite, the
fields it may change there, and the account it may add. -/
namespace OpsPlatform.Auth
open OpsPlatform.Go Interaction Program

namespace Call

/-- The account a call may rewrite. -/
def rewrites (lib : Lib) (users : MemoryUserStore) : Call → Option String
  | .updateUser userID _ | .resetPassword userID | .changePassword userID _ _
  | .verifyEmail userID _ => some userID
  | .requestPasswordReset identifier | .completePasswordReset identifier _ _ =>
    (users.findByIdentifier lib identifier).map (·.id)
  | _ => none

/-- The account a call finds by its id and writes back. -/
def names : Call → Option String
  | .updateUser userID _ | .resetPassword userID | .changePassword userID _ _ => some userID
  | _ => none

/-- The roles of the account a call may add. -/
def newRoles : Call → Option (List Role)
  | .createUser _ input => some [input.role]
  | .signUp _ | .loginWithGoogle _ => some [.requester]
  | _ => none

end Call

lemma only_getUser (userID : String) : (getUser userID).Only Op.Quiet := by
  refine only_call trivial fun found => ?_
  cases found
  · exact only_fail _
  · exact only_ret _

/-- An operation that adds at most an account with these roles. -/
def Op.AddsOnly (roles : List Role) : Op → Prop
  | .create user => user.roles = roles
  | op => op.Quiet

section Added
variable {lib : Lib} {s t : State} {roles : List Role} {α : Type}

lemma Op.Quiet.addsOnly {op : Op} (h : op.Quiet) : op.AddsOnly roles := by
  cases op <;> first | exact h | cases h

lemma only_addsOnly {p : M α} (h : p.Only Op.Quiet) : p.Only (Op.AddsOnly roles) :=
  h.imp fun _ hop => hop.addsOnly

/-- The call asks for one answer and goes on with it. -/
lemma only_ask {op : Op} {β : Type} {r : op.Res → M α} {f : α → M β} (hop : op.AddsOnly roles)
    (hr : ∀ x, (r x).Only (Op.AddsOnly roles)) (hf : ∀ a, (f a).Only (Op.AddsOnly roles)) :
    (call op r >>= f).Only (Op.AddsOnly roles) :=
  only_bind (only_call hop hr) hf

lemma addsOnly_createUser (actingUserID : String) (input : CreateUserInput) :
    (createUser lib actingUserID input).Only (Op.AddsOnly [input.role]) := by
  unfold createUser
  refine only_bind (only_failIf _ _) fun _ => only_bind (only_failIf _ _) fun _ => ?_
  refine only_ask trivial (fun _ => only_ret _) fun _ => only_bind (only_failIf _ _) fun _ => ?_
  refine only_bind (only_addsOnly (only_drawChars _ _)) fun _ => ?_
  refine only_ask trivial (fun _ => only_fromResult _) fun _ => ?_
  exact only_ask rfl (fun _ => only_fromResult _) fun _ => only_ret _

lemma addsOnly_signUp (input : SignUpInput) :
    (signUp lib input).Only (Op.AddsOnly [.requester]) := by
  unfold signUp
  refine only_bind (only_failIf _ _) fun _ => only_bind (only_failIf _ _) fun _ => ?_
  refine only_ask trivial (fun _ => only_ret _) fun _ => only_bind (only_failIf _ _) fun _ => ?_
  refine only_ask trivial (fun _ => only_fromResult _) fun _ => ?_
  refine only_bind (only_addsOnly only_generateOTP) fun _ => ?_
  refine only_ask trivial (fun _ => only_fromResult _) fun _ => ?_
  refine only_ask trivial (fun _ => only_ret _) fun _ => ?_
  exact only_ask rfl (fun _ => only_fromResult _) fun _ => only_addsOnly (only_issueSession _)

lemma addsOnly_loginWithGoogle (identity : GoogleIdentity) :
    (loginWithGoogle lib identity).Only (Op.AddsOnly [.requester]) := by
  unfold loginWithGoogle
  refine only_ask trivial (fun _ => only_ret _) fun found => ?_
  cases found with
  | some existing =>
    exact only_bind (only_failIf _ _) fun _ => only_addsOnly (only_issueSession _)
  | none =>
    refine only_ask trivial (fun _ => only_ret _) fun _ => only_bind (only_failIf _ _) fun _ => ?_
    exact only_ask rfl (fun _ => only_fromResult _) fun _ => only_addsOnly (only_issueSession _)

/-- The accounts such operations leave. -/
lemma wp_addsOnly {p : M α} (hp : p.Only (Op.AddsOnly roles)) :
    p.Wp (Answers lib) s fun _ t =>
      ∀ user ∈ t.users.users, user ∈ s.users.users ∨ user.roles = roles := by
  refine wp_of_only hp ?_ fun user huser => .inl huser
  intro op t r u hop ht hanswer
  cases hanswer with
  | create user =>
    obtain hstore | ⟨row,hrow,hstore⟩ := t.users.create_cases lib user
    · rw [hstore]
      exact ht
    · rw [hstore]
      intro other hother
      obtain hother | hother := List.mem_append.mp hother
      · exact ht other hother
      · rw [List.mem_singleton.mp hother, hrow]
        exact .inr hop
  | update | updateAtomic | seed => cases hop
  | _ => exact ht

end Added

/-- An update writes back the account the call names. -/
def Call.Updates (c : Call) (seen : List (Event Op.Res)) : Op → Prop
  | .update user => ∃ userID old, c.names = some userID ∧ ⟨.findByID userID,some old⟩ ∈ seen ∧
      c.Patches old user
  | _ => True

/-- What a call may write: its footprint, updates of the account it names, and accounts with the
roles it gives. -/
structure Call.Writes (lib : Lib) (c : Call) (seen : List (Event Op.Res)) (op : Op) : Prop where
  may : c.May lib seen op
  updates : c.Updates seen op
  creates : ∀ user, op = .create user → c.newRoles = some user.roles

section Writes
variable {lib : Lib} {c : Call} {R : List (Event Op.Res) → Event Op.Res → Prop} {α : Type}
  {seen : List (Event Op.Res)}

lemma updates_of_quiet {op : Op} (hop : op.Quiet) : c.Updates seen op := by
  cases op <;> trivial

lemma updates_quiet {p : M α} (hp : p.Only Op.Quiet) :
    p.Ensures R c.Updates (fun seen' _ => seen <+: seen') seen :=
  (ensures_of_only hp (fun _ hop _ => updates_of_quiet hop) seen).imp (fun _ _ h => h)
    fun _ _ hh _ => hh

/-- A quiet operation between the row and its update. -/
lemma updates_ask {op : Op} {r : op.Res → M α} {f : α → M Unit} (hop : op.Quiet)
    (hr : ∀ x, (r x).Only Op.Quiet)
    (hf : ∀ seen' a, seen <+: seen' → (f a).Ensures R c.Updates (fun _ _ => True) seen') :
    (call op r >>= f).Ensures R c.Updates (fun _ _ => True) seen :=
  (updates_quiet (only_call hop hr)).andThen fun seen' a hseen _ => hf seen' a hseen

lemma updates_getUser {userID : String} {f : User → M Unit}
    (hf : ∀ seen' user, ⟨.findByID userID,some user⟩ ∈ seen' →
      (f user).Ensures R c.Updates (fun _ _ => True) seen') :
    (getUser userID >>= f).Ensures R c.Updates (fun _ _ => True) seen := by
  unfold getUser requireUser
  rw [call_bind, ensures_call]
  refine ⟨trivial,fun r _ => ?_⟩
  cases r with
  | none => rw [id, fail_bind, ensures_fail]; trivial
  | some user => exact hf _ user (by simp)

/-- The update a call ends with. -/
lemma updates_end {userID : String} {old user : User} {f : User → M Unit}
    (hnames : c.names = some userID) (hseen : ⟨.findByID userID,some old⟩ ∈ seen)
    (hpatch : c.Patches old user) (hf : ∀ row, (f row).Only Op.Quiet) :
    (call (.update user) fromResult >>= f).Ensures R c.Updates (fun _ _ => True) seen := by
  rw [call_bind, ensures_call]
  refine ⟨⟨userID,old,hnames,hseen,hpatch⟩,fun r _ => ?_⟩
  exact ensures_fromResult_bind fun row _ =>
    (updates_quiet (hf row)).imp (fun _ _ h => h) fun _ _ _ _ => trivial

lemma Call.ensures_updates (c : Call) (seen : List (Event Op.Res)) :
    (c.program lib).Ensures R c.Updates (fun _ _ => True) seen := by
  have hnone : (∀ old user, ¬ c.Patches old user) →
      (c.program lib).Ensures R c.Updates (fun _ _ => True) seen := by
    intro hpatches
    have hmay : (c.program lib).Ensures R (c.May lib) (fun _ _ => True) seen := c.ensures_may
    refine hmay.imp (fun seen op h => ?_) fun _ _ _ _ => trivial
    cases op with
    | update user =>
      obtain ⟨id,old,_,hpatch⟩ := h
      exact (hpatches old user hpatch).elim
    | _ => trivial
  cases c with
  | updateUser userID input =>
    simp only [program, Auth.updateUser, Program.bind_assoc]
    refine updates_getUser fun seen' user hseen => ensures_fromResult_bind fun patched happlied => ?_
    exact updates_end rfl hseen (.updateUser happlied) fun _ => only_ret _
  | resetPassword userID =>
    simp only [program, Auth.resetPassword, Program.bind_assoc]
    refine updates_getUser fun seen' user hseen => ?_
    refine (updates_quiet (only_drawChars _ _)).andThen fun _ _ hdrawn _ => ?_
    refine updates_ask trivial (fun _ => only_fromResult _) fun _ passwordHash hhash => ?_
    exact updates_end rfl ((hdrawn.trans hhash).subset hseen) (.resetPassword passwordHash)
      fun _ => only_ret _
  | changePassword userID oldPassword newPassword =>
    simp only [program, Auth.changePassword]
    refine updates_getUser fun seen' user hseen => ?_
    refine updates_ask trivial (fun _ => only_fromResult _) fun _ _ hcompare => ?_
    refine ensures_failIf_andThen fun _ => ?_
    refine updates_ask trivial (fun _ => only_fromResult _) fun _ passwordHash hhash => ?_
    exact updates_end rfl ((hcompare.trans hhash).subset hseen) (.changePassword passwordHash)
      fun _ => only_ret _
  | _ => exact hnone fun _ _ h => by cases h

/-- Every call keeps to it. -/
theorem Call.ensures_writes (c : Call) (seen : List (Event Op.Res)) :
    (c.program lib).Ensures R (c.Writes lib) (fun _ _ => True) seen := by
  have hmay : (c.program lib).Ensures R (c.May lib) (fun _ _ => True) seen := c.ensures_may
  have hboth := hmay.and (c.ensures_updates seen)
  have hadds : ∀ {roles : List Role} {α : Type} {p : M α}, p.Only (Op.AddsOnly roles) →
      c.newRoles = some roles → c.program lib = (do let _ ← p; return ()) →
      (c.program lib).Ensures R (c.Writes lib) (fun _ _ => True) seen := by
    intro roles α p hp hroles hprogram
    have honly : (c.program lib).Only (Op.AddsOnly roles) := by
      rw [hprogram]
      exact only_bind hp fun _ => only_ret _
    refine (hboth.and (ensures_of_only honly (fun op hop _ => hop) seen)).imp
      (fun _ op h => ⟨h.1.1,h.1.2,?_⟩) fun _ _ _ _ => trivial
    rintro user rfl
    rw [hroles, show user.roles = roles from h.2]
  have hnone : (∀ seen user, ¬ c.Creates lib seen user) →
      (c.program lib).Ensures R (c.Writes lib) (fun _ _ => True) seen := by
    refine fun hcreates => hboth.imp (fun seen op h => ⟨h.1,h.2,?_⟩) fun _ _ _ _ => trivial
    rintro user rfl
    exact (hcreates seen user h.1).elim
  cases c with
  | createUser => exact hadds (addsOnly_createUser _ _) rfl rfl
  | signUp => exact hadds (addsOnly_signUp _) rfl rfl
  | loginWithGoogle => exact hadds (addsOnly_loginWithGoogle _) rfl rfl
  | _ => exact hnone fun _ _ h => by cases h

end Writes

/-- What one call leaves of the accounts it found, and what it adds. -/
structure Reaches (lib : Lib) (c : Call) (s t : State) : Prop where
  sound : t.users.Sound
  kept : ∀ id old, s.users.findByID id = some old → ∃ new, t.users.findByID id = some new ∧
    (∀ f ∉ c.responsible, f.Same old new) ∧ (new ≠ old → c.rewrites lib s.users = some id)
  added : ∀ id new, s.users.findByID id = none → t.users.findByID id = some new →
    c.newRoles = some new.roles ∧ ∃ n, id = userID n

section Reach
variable {lib : Lib} {c : Call} {s t : State} {x : Except Error Unit} {id : String} {old new : User}

lemma Call.exists_outcome (hruns : (c.program lib).Runs (Answers lib) s x t) :
    ∃ y, Outcome lib (fun _ _ => True) s t c y := by
  have houtcome : (c.respond lib).Wp (Answers lib) s fun y t =>
      Outcome lib (fun _ _ => True) s t c y :=
    c.outcome.mono fun _ _ _ _ h => ⟨h,trivial⟩
  have hprogram : (c.program lib).Wp (Answers lib) s fun _ t =>
      ∃ y, Outcome lib (fun _ _ => True) s t c y := by
    rw [program_eq_respond, wp_map]
    exact houtcome.imp fun y _ h => ⟨y,h⟩
  exact hruns.wp hprogram

/-- An account found before a row is appended is still found. -/
lemma findByID_of_create {user row : User} (hstored : s.users.create lib user = (.ok row,t.users))
    (hold : s.users.findByID id = some old) : t.users.findByID id = some old := by
  obtain ⟨_,_,hrows⟩ := MemoryUserStore.create_ok hstored
  rw [hrows]
  unfold MemoryUserStore.findByID at hold ⊢
  rw [List.find?_append, hold, Option.some_or]

/-- Every account but the one a call may rewrite is as it was. -/
lemma Call.others (hc : ∀ cfg, c ≠ .seedBootstrapUsers cfg)
    (hruns : (c.program lib).Runs (Answers lib) s x t) (hid : c.rewrites lib s.users ≠ some id)
    (hold : s.users.findByID id = some old) : t.users.findByID id = some old := by
  obtain ⟨y,houtcome⟩ := Call.exists_outcome hruns
  have hwrites : ∀ {k : String} {was row : User}, c.rewrites lib s.users = some k →
      Rewrites k was row s t → t.users.findByID id = some old := by
    intro k was row hk hrewrites
    have hne : id ≠ k := by
      rintro rfl
      exact hid hk
    rw [hrewrites.writes.findByID hrewrites.found, if_neg hne, hold]
  cases houtcome with
  | idle same => rw [same, hold]
  | seeded => exact (hc _ rfl).elim
  | createUser _ _ _ _ stored | signUp _ _ _ _ stored | google _ _ _ _ _ stored =>
    exact findByID_of_create stored hold
  | updateUser _ rewrites | resetPassword _ rewrites | changePassword _ _ rewrites =>
    exact hwrites rfl rewrites
  | storedCode found _ rewrites | completed found _ _ rewrites =>
    exact hwrites (by rw [Call.rewrites, found]; rfl) rewrites
  | checked guess =>
    obtain ⟨hnone,htarget⟩ := guess_effect guess hruns
    have hsame : c.target lib s.users = c.rewrites lib s.users := by
      cases c <;> first | rfl | cases guess
    rw [hsame] at hnone htarget
    cases hreach : c.rewrites lib s.users with
    | none => rw [hnone hreach, hold]
    | some k =>
      have hne : id ≠ k := by
        rintro rfl
        exact hid hreach
      rw [(htarget k hreach).1 id hne, hold]

/-- The roles of a new account. -/
lemma roles_of_added {α : Type} {p : M α} {roles : List Role} {y : Except Error α}
    (hs : s.users.Sound) (hp : p.Only (Op.AddsOnly roles)) (hruns : p.Runs (Answers lib) s y t)
    (hnone : s.users.findByID id = none) (hnew : t.users.findByID id = some new) :
    roles = new.roles := by
  obtain hold | hroles := hruns.wp (wp_addsOnly hp) new (MemoryUserStore.mem_of_findByID hnew)
  · have hfound := MemoryUserStore.findByID_of_mem hs hold
    rw [MemoryUserStore.id_of_findByID hnew, hnone] at hfound
    cases hfound
  · exact hroles.symm

/-- A new account has an id the store has issued. -/
lemma id_of_added {user row : User} (hs : s.users.Sound)
    (hstored : s.users.create lib user = (.ok row,t.users)) (hnone : s.users.findByID id = none)
    (hnew : t.users.findByID id = some new) : ∃ n, id = userID n := by
  obtain ⟨_,hrow,hrows⟩ := MemoryUserStore.create_ok hstored
  have hmem := MemoryUserStore.mem_of_findByID hnew
  rw [hrows] at hmem
  obtain hmem | hmem := List.mem_append.mp hmem
  · have hfound := MemoryUserStore.findByID_of_mem hs hmem
    rw [MemoryUserStore.id_of_findByID hnew, hnone] at hfound
    cases hfound
  · rw [List.mem_singleton.mp hmem, hrow] at hnew
    exact ⟨_,(MemoryUserStore.id_of_findByID hnew).symm⟩

lemma Call.added (hc : ∀ cfg, c ≠ .seedBootstrapUsers cfg) (hs : s.users.Sound)
    (hruns : (c.program lib).Runs (Answers lib) s x t) (hnone : s.users.findByID id = none)
    (hnew : t.users.findByID id = some new) :
    c.newRoles = some new.roles ∧ ∃ n, id = userID n := by
  obtain ⟨y,houtcome⟩ := Call.exists_outcome hruns
  have hwritten : ∀ {k : String} {was row : User}, ¬ Rewrites k was row s t := by
    intro k was row hrewrites
    rw [hrewrites.writes.findByID hrewrites.found] at hnew
    split_ifs at hnew with hid
    · rw [hid, hrewrites.found] at hnone
      cases hnone
    · rw [hnone] at hnew
      cases hnew
  cases houtcome with
  | idle same =>
    rw [same, hnone] at hnew
    cases hnew
  | seeded => exact (hc _ rfl).elim
  | createUser _ _ _ _ stored =>
    obtain ⟨_,hp⟩ := Runs.of_discard hruns
    exact ⟨congrArg some (roles_of_added hs (addsOnly_createUser _ _) hp hnone hnew),
      id_of_added hs stored hnone hnew⟩
  | signUp _ _ _ _ stored =>
    obtain ⟨_,hp⟩ := Runs.of_discard hruns
    exact ⟨congrArg some (roles_of_added hs (addsOnly_signUp _) hp hnone hnew),
      id_of_added hs stored hnone hnew⟩
  | google _ _ _ _ _ stored =>
    obtain ⟨_,hp⟩ := Runs.of_discard hruns
    exact ⟨congrArg some (roles_of_added hs (addsOnly_loginWithGoogle _) hp hnone hnew),
      id_of_added hs stored hnone hnew⟩
  | updateUser _ rewrites | resetPassword _ rewrites | changePassword _ _ rewrites
  | checked _ rewrites | storedCode _ _ rewrites | completed _ _ _ rewrites =>
    exact (hwritten rewrites).elim

/-- The reach of every call the server makes while it runs. -/
theorem Call.reaches (hc : ∀ cfg, c ≠ .seedBootstrapUsers cfg) (hs : s.users.Sound)
    (hruns : (c.program lib).Runs (Answers lib) s x t) : Reaches lib c s t where
  sound := (Call.rows hs hruns).1
  kept id old hold := by
    obtain ⟨new,hnew,hsame⟩ := Call.keeps hruns id old hold
    refine ⟨new,hnew,hsame,fun hne => ?_⟩
    by_contra hid
    rw [Call.others hc hruns hid hold] at hnew
    exact hne (Option.some.inj hnew).symm
  added _ _ hnone hnew := Call.added hc hs hruns hnone hnew

end Reach
end OpsPlatform.Auth
