import OpsPlatform.Auth.Identity

/-! Accounts under concurrent calls. Whatever the interleaving, the checks inside `Create` keep the
accounts apart, and a Google login ends in the account of its subject or in none. -/
namespace OpsPlatform.Auth
open OpsPlatform.Go Interaction Program

/-- The account row an answer has shown to a call, its own id included. -/
def shown : Event Op.Res → Option User
  | ⟨.findByID _,found⟩ => found
  | ⟨.findByGoogleSubjectID _,found⟩ => found
  | ⟨.create _,.ok created⟩ => some created
  | _ => none

/-- The store still holds this account, which belongs to whom it belonged. -/
def Knows (users : MemoryUserStore) (row : User) : Prop :=
  ∃ stored, users.findByID row.id = some stored ∧ Field.identity.Same row stored

section Step
variable {lib : Lib} {c : Call} {seen : List (Event Op.Res)} {s t : State} {e : Event Op.Res}

lemma Knows.of_mem {users : MemoryUserStore} {row : User} (h : users.Sound)
    (hrow : row ∈ users.users) : Knows users row :=
  ⟨row,MemoryUserStore.findByID_of_mem h hrow,.refl _ row⟩

/-- A row written back over one of the same identity. -/
lemma knows_replace {users : MemoryUserStore} {id : String} {old new row : User}
    (hold : users.findByID id = some old) (hsame : Field.identity.Same old new)
    (h : Knows users row) :
    Knows ⟨users.seq,MemoryUserStore.replace id new users.users⟩ row := by
  have hid : new.id = id := hsame.1.symm.trans (MemoryUserStore.id_of_findByID hold)
  obtain ⟨stored,hstored,hrow⟩ := h
  unfold Knows
  rw [MemoryUserStore.findByID_replace hid hold]
  split_ifs with hk
  · rw [hk, hold, Option.some.injEq] at hstored
    subst hstored
    exact ⟨new,rfl,hrow.trans hsame⟩
  · exact ⟨stored,hstored,hrow⟩

/-- The step lemma: no operation of a call makes two accounts one, loses one, or gives one to
somebody else. -/
theorem distinct_step (hs : s.users.Distinct)
    (hseen : ∀ e ∈ seen, ∀ row, shown e = some row → Knows s.users row)
    (hcall : ∀ cfg, c ≠ .seedBootstrapUsers cfg) (hmay : c.May lib seen e.op)
    (hanswer : Answers lib e.op s e.res t) :
    t.users.Distinct ∧ (∀ row, Knows s.users row → Knows t.users row) ∧
      ∀ row, shown e = some row → Knows t.users row := by
  obtain ⟨op,r⟩ := e
  cases hanswer with
  | findByID id =>
    refine ⟨hs,fun _ h => h,fun row hrow => ?_⟩
    exact .of_mem hs.sound (MemoryUserStore.mem_of_findByID hrow)
  | findByGoogleSubjectID subjectID =>
    refine ⟨hs,fun _ h => h,fun row hrow => ?_⟩
    exact .of_mem hs.sound (List.mem_of_find?_eq_some hrow)
  | create user =>
    obtain hstore | ⟨row,hrow,hstore⟩ := s.users.create_cases lib user
    · rw [hstore]
      exact ⟨hs,fun _ h => h,fun row hrow => by cases hrow⟩
    · have hdistinct := hs.create hstore
      rw [hstore]
      refine ⟨hdistinct,fun known h => ?_,fun shownRow hshown => ?_⟩
      · obtain ⟨stored,hstored,hsame⟩ := h
        have hmem := MemoryUserStore.mem_of_findByID hstored
        refine ⟨stored,?_,hsame⟩
        rw [hsame.1]
        exact MemoryUserStore.findByID_of_mem hdistinct.sound (List.mem_append_left _ hmem)
      · obtain rfl := Option.some.inj hshown
        exact .of_mem hdistinct.sound (by simp)
  | update user =>
    obtain ⟨id,found,hfound,hpatch⟩ := hmay
    obtain ⟨_,hstore⟩ | ⟨old,hold,hstore⟩ := s.users.update_cases user
    · rw [hstore]
      exact ⟨hs,fun _ h => h,fun row hrow => by cases hrow⟩
    · have hpatched := hpatch.same c.identity_not_responsible
      obtain ⟨stored,hstored,hsame⟩ := hseen _ hfound found rfl
      rw [hpatched.1, hold, Option.some.injEq] at hstored
      subst hstored
      have hkept := hsame.symm.trans hpatched
      rw [hstore]
      exact ⟨hs.replace hold hkept,fun row => knows_replace hold hkept,
        fun row hrow => by cases hrow⟩
  | updateAtomic id mutate =>
    unfold MemoryUserStore.updateAtomic
    cases hfind : s.users.findByID id with
    | none => exact ⟨hs,fun _ h => h,fun row hrow => by cases hrow⟩
    | some old =>
      cases hr : mutate old with
      | error err =>
        simp only [hr]
        exact ⟨hs,fun _ h => h,fun row hrow => by cases hrow⟩
      | ok r =>
        have hkept := Call.Mutates.same hmay hr c.identity_not_responsible
        simp only [hr]
        exact ⟨hs.replace hfind hkept,fun row => knows_replace hfind hkept,
          fun row hrow => by cases hrow⟩
  | seed user =>
    obtain ⟨cfg,hc,_⟩ := hmay
    exact (hcall cfg hc).elim
  | _ => exact ⟨hs,fun _ h => h,fun row hrow => by cases hrow⟩

end Step

lemma subject_of_create {lib : Lib} {s t : State} {user row : User}
    (h : Answers lib (.create user) s (.ok row) t) :
    row.googleSubjectID = user.googleSubjectID := by
  generalize hr : Except.ok row = r at h
  cases h
  obtain hstore | ⟨created,hcreated,hstore⟩ := s.users.create_cases lib user
  · rw [hstore] at hr
    cases hr
  · rw [hstore, Except.ok.injEq] at hr
    rw [hr, hcreated]

/-- What the store may answer. -/
def Answerable (lib : Lib) (_ : List (Event Op.Res)) (e : Event Op.Res) : Prop :=
  ∃ s t, Answers lib e.op s e.res t

/-- A Google login that succeeds has been shown the account of its subject. -/
def GoogleSession (identity : GoogleIdentity) (seen : List (Event Op.Res))
    (y : Except Error Reply) : Prop :=
  ∀ session, y = .ok (.session session) → ∃ e ∈ seen, ∃ user, shown e = some user ∧
    user.googleSubjectID = some identity.subject ∧ session.principal = principalFromUser user

theorem ensures_googleSession (lib : Lib) (identity : GoogleIdentity) :
    ((Call.loginWithGoogle identity).respond lib).Ensures (Answerable lib) (fun _ _ => True)
      (GoogleSession identity) [] := by
  have hissue : ∀ seen user e, shown e = some user →
      user.googleSubjectID = some identity.subject →
      (issueSession user).Ensures (Answerable lib) (fun _ _ => True)
        (fun seen y => GoogleSession identity seen (y.map .session)) (seen ++ [e]) := by
    intro seen user e hshown hsubject
    simp only [issueSession]
    rw [call_bind, ensures_call]
    refine ⟨trivial,fun r _ => ?_⟩
    cases r with
    | error err =>
      rw [fromResult_error, fail_bind, ensures_fail]
      exact fun session h => by cases h
    | ok token =>
      rw [fromResult_ok, ret_bind, pure_eq, ensures_ret]
      rintro session h
      cases h
      exact ⟨e,by simp,user,hshown,hsubject,rfl⟩
  rw [Call.respond, ensures_map]
  simp only [loginWithGoogle]
  rw [call_bind, ensures_call]
  refine ⟨trivial,fun r hr => ?_⟩
  rw [ret_bind]
  cases r with
  | some existing =>
    obtain ⟨s,t,hanswer⟩ := hr
    have hsubject : existing.googleSubjectID = some identity.subject := by
      generalize hfound : some existing = r at hanswer
      cases hanswer
      simpa using List.find?_some hfound.symm
    dsimp only
    rw [ensures_failIf_bind]
    refine ⟨fun _ session h => (by cases h),fun _ => ?_⟩
    exact hissue _ existing _ rfl hsubject
  | none =>
    dsimp only
    rw [call_bind, ensures_call]
    refine ⟨trivial,fun r _ => ?_⟩
    rw [ret_bind, ensures_failIf_bind]
    refine ⟨fun _ session h => (by cases h),fun _ => ?_⟩
    rw [call_bind, ensures_call]
    refine ⟨trivial,fun r hr => ?_⟩
    cases r with
    | error err =>
      rw [fromResult_error, fail_bind, ensures_fail]
      exact fun session h => by cases h
    | ok created =>
      rw [fromResult_ok, ret_bind]
      obtain ⟨s,t,hanswer⟩ := hr
      exact hissue _ created _ rfl (subject_of_create hanswer)

section Run
variable {ι : Type} [DecidableEq ι] {lib : Lib} {calls : ι → Call} {s : State}
  {ls : List (ι × Event Op.Res)}

/-- Concurrent calls that keep their results. -/
abbrev Responses (ι : Type) := Pool ι Op.Res Error Reply State

/-- All calls at their beginning. -/
def beginResponses (lib : Lib) (calls : ι → Call) (s : State) : Responses ι :=
  Pool.start s fun i => (calls i).respond lib

/-- Each call keeps to its footprint, and ends a Google login as it must. -/
lemma ensures_respond (lib : Lib) (c : Call) :
    (c.respond lib).Ensures (Answerable lib) (c.May lib)
      (fun seen y => ∀ identity, c = .loginWithGoogle identity → GoogleSession identity seen y)
      [] := by
  have hmay : (c.program lib).Ensures (Answerable lib) (c.May lib) (fun _ _ => True) [] :=
    c.ensures_may
  rw [Call.program_eq_respond, ensures_map] at hmay
  cases c with
  | loginWithGoogle identity =>
    refine (hmay.and (ensures_googleSession lib identity)).imp (fun _ _ h => h.1) ?_
    rintro seen y _ ⟨_,hgoogle⟩ identity' ⟨⟩
    exact hgoogle
  | _ => exact hmay.imp (fun _ _ h => h) fun _ _ _ _ identity h => by cases h

/-- In every reachable state the accounts are apart, every account a call was shown is still
there, and every call keeps to its judgement. -/
theorem accounts_distinct (hcalls : ∀ i cfg, calls i ≠ .seedBootstrapUsers cfg)
    (hs : s.users.Distinct) {p : Responses ι}
    (hrun : Trace (Pool.Step (Answers lib)) (beginResponses lib calls s) ls p) :
    p.state.users.Distinct ∧
    (∀ i, ∀ e ∈ p.seen i, ∀ row, shown e = some row → Knows p.state.users row) ∧
    ∀ i, (p.thread i).Ensures (Answerable lib) ((calls i).May lib) (fun seen y =>
      ∀ identity, calls i = .loginWithGoogle identity → GoogleSession identity seen y)
      (p.seen i) := by
  refine hrun.inv (I := fun _ p => p.state.users.Distinct ∧
    (∀ i, ∀ e ∈ p.seen i, ∀ row, shown e = some row → Knows p.state.users row) ∧
    ∀ i, (p.thread i).Ensures (Answerable lib) ((calls i).May lib) (fun seen y =>
      ∀ identity, calls i = .loginWithGoogle identity → GoogleSession identity seen y)
      (p.seen i)) ⟨hs,fun i e he => (by cases he),fun i => ensures_respond lib (calls i)⟩ ?_
  rintro _ p l q ⟨hdistinct,hseen,hthreads⟩ hstep
  obtain ⟨hmay,hnext⟩ := hstep.ensures hthreads ⟨_,_,hstep.answered⟩
  obtain ⟨hdistinct',hkept,hshown⟩ :=
    distinct_step hdistinct (hseen l.1) (hcalls l.1) hmay hstep.answered
  refine ⟨hdistinct',fun i e he row hrow => ?_,hnext⟩
  rw [hstep.seen, Function.update_apply] at he
  split_ifs at he with hi
  · obtain he | he := List.mem_append.mp he
    · exact hkept row (hseen l.1 e he row hrow)
    · rw [List.mem_singleton.mp he] at hrow
      exact hshown row hrow
  · exact hkept row (hseen i e he row hrow)

/-- In every interleaving the accounts stay apart, and a Google login that succeeds returns the
account of its subject, the same one each time. -/
theorem google_login_own_account {C : (op : Op) → op.Res → Prop} {cfg : BootstrapConfig}
    {clock : Time} (hnorm : ∀ x, normalizeIdentifier lib (normalizeIdentifier lib x) =
      normalizeIdentifier lib x) (hseeded : Seeded lib C cfg clock s)
    (hidentifiers : ((bootstrapSeedsFromConfig cfg).map fun seed =>
      normalizeIdentifier lib seed.identifier).Nodup)
    (hcalls : ∀ i cfg, calls i ≠ .seedBootstrapUsers cfg) {p : Responses ι}
    (hrun : Trace (Pool.Step (Answers lib)) (beginResponses lib calls s) ls p) :
    p.state.users.Distinct ∧
    ∀ i identity session, calls i = .loginWithGoogle identity →
      (p.thread i).result = some (.ok (.session session)) →
      (∃ user ∈ p.state.users.users, user.id = session.principal.userID ∧
        user.googleSubjectID = some identity.subject) ∧
      (∀ user ∈ p.state.users.users, user.id = session.principal.userID ↔
        user.googleSubjectID = some identity.subject) ∧
      ∀ j identity' session', calls j = .loginWithGoogle identity' →
        (p.thread j).result = some (.ok (.session session')) →
        identity'.subject = identity.subject →
        session'.principal.userID = session.principal.userID := by
  obtain ⟨hdistinct,hseen,hthreads⟩ :=
    accounts_distinct hcalls (hseeded.distinct hnorm hidentifiers) hrun
  have haccount : ∀ i identity session, calls i = .loginWithGoogle identity →
      (p.thread i).result = some (.ok (.session session)) →
      ∃ user ∈ p.state.users.users, user.id = session.principal.userID ∧
        user.googleSubjectID = some identity.subject := by
    intro i identity session hc hresult
    obtain ⟨e,he,row,hrow,hsubject,hprincipal⟩ :=
      (hthreads i).result hresult identity hc session rfl
    obtain ⟨stored,hstored,hsame⟩ := hseen i e he row hrow
    refine ⟨stored,MemoryUserStore.mem_of_findByID hstored,?_,?_⟩
    · rw [hprincipal]
      exact hsame.1.symm
    · rw [← hsubject]
      exact hsame.2.2.2.2.2.symm
  refine ⟨hdistinct,fun i identity session hc hresult => ?_⟩
  obtain ⟨user,huser,hid,hsubject⟩ := haccount i identity session hc hresult
  refine ⟨⟨user,huser,hid,hsubject⟩,fun other hother => ⟨fun heq => ?_,fun heq => ?_⟩,?_⟩
  · rw [List.inj_on_of_nodup_map hdistinct.sound.nodup hother huser (heq.trans hid.symm)]
    exact hsubject
  · rw [hdistinct.subject_inj hother huser heq hsubject]
    exact hid
  · intro j identity' session' hc' hresult' hsame
    obtain ⟨user',huser',hid',hsubject'⟩ := haccount j identity' session' hc' hresult'
    rw [← hid', ← hid, hdistinct.subject_inj huser' huser (hsame ▸ hsubject') hsubject]

end Run

/-- Two logins of one Google account, the first of them its first. -/
def googleTwice : Bool → Call := fun _ => .loginWithGoogle ⟨"google-1","ada@example.org","Ada"⟩

/-- The session a finished call has returned. -/
def sessionOf (p : Responses Bool) (i : Bool) : Option Session :=
  match (p.thread i).result with
  | some (.ok (.session session)) => some session
  | _ => none

lemma result_of_sessionOf {p : Responses Bool} {i : Bool} {session : Session}
    (h : sessionOf p i = some session) :
    (p.thread i).result = some (.ok (.session session)) := by
  unfold sessionOf at h
  split at h
  · rename_i heq
    rw [heq, Option.some.inj h]
  · cases h

theorem google_login_own_account_twice : ∃ session session' : Session,
    session.principal.userID = "user-0001" ∧
    session'.principal.userID = session.principal.userID := by
  let start : Responses Bool := beginResponses lowerLib googleTwice sampleSeeded
  let world := exec lowerLib (sampleEnv 0)
  let schedule := List.replicate 4 false ++ List.replicate 2 true
  have hrun := (Pool.trace_play (answers_exec lowerLib (sampleEnv 0)) (fun _ _ => true) start
    schedule (Pool.passes_true _ _)).imp fun _ _ _ h => h.1
  have hfirst : (sessionOf (start.play world schedule).2 false).map (·.principal.userID) =
      some "user-0001" := by decide +kernel
  have hsecond : (sessionOf (start.play world schedule).2 true).isSome = true := by
    decide +kernel
  obtain ⟨session,hsession,hid⟩ := Option.map_eq_some_iff.mp hfirst
  obtain ⟨session',hsession'⟩ := Option.isSome_iff_exists.mp hsecond
  obtain ⟨_,hlogins⟩ := google_login_own_account normalizeIdentifier_lowerLib
    (seeded_sampleSeeded (C := fun _ _ => True) fun _ _ => trivial) sampleBootstrap_nodup
    (fun _ _ => by simp [googleTwice]) hrun
  obtain ⟨_,_,hsame⟩ := hlogins false _ session rfl (result_of_sessionOf hsession)
  exact ⟨session,session',hid,hsame true _ session' rfl (result_of_sessionOf hsession') rfl⟩

end OpsPlatform.Auth
