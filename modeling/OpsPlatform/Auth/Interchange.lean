import OpsPlatform.Auth.Memory
import OpsPlatform.Auth.PostgresStore
import OpsPlatform.Interaction.Interchange

/-! The in-memory and the Postgres user store. The table has constraints where the slice has a
loop, and its numbers are not given back; where neither makes a difference the stores answer
alike. -/
namespace OpsPlatform.Auth
open OpsPlatform.Go OpsPlatform.Db Interaction

/-- The accounts that a call hands out. -/
def UserOp.found : (op : UserOp) → op.Res → List User
  | .findByIdentifier _,r | .findByID _,r | .findByGoogleSubjectID _,r => r.toList
  | .list,.ok users => users
  | .create _,.ok user | .update _,.ok user | .updateAtomic _ _,.ok user => [user]
  | _,_ => []

def HasRead (es : List (Event UserOp.Res)) (user : User) : Prop := ∃ e ∈ es, user ∈ e.op.found e.res

/-- A call as `SeedBootstrapUsers` and the service issue it: an account is seeded as a bootstrap
account, a new one has failed no attempt, and an update leaves alone who an account belongs to. -/
def UserIssued (lib : Lib) (es : List (Event UserOp.Res)) : UserOp → Prop
  | .seed user => ∃ seed passwordHash, user = seedUser lib seed passwordHash
  | .create user => user.failedOTPAttempts = 0
  | .update user => ∃ old, HasRead es old ∧ SameAccount old user
  | .updateAtomic _ mutate => ∀ old new, mutate old = .ok new → SameAccount old new
  | _ => True

/-- A `Create` that found its identifier or its Google subject taken. -/
def Refused : Event UserOp.Res → Prop
  | ⟨.create _,r⟩ => ∃ err, r = .error err
  | _ => False

/-- The memory after these calls. -/
def stateAfter (lib : Lib) (es : List (Event UserOp.Res)) : MemoryUserStore :=
  es.foldl (fun s e => (s.exec lib e.op).2) .new

lemma stateAfter_concat (lib : Lib) (es : List (Event UserOp.Res)) (e : Event UserOp.Res) :
    stateAfter lib (es ++ [e]) = ((stateAfter lib es).exec lib e.op).2 := by
  simp [stateAfter]

/-- The columns keep the account as it is. -/
structure Representable (timestamptz : Time → Time) (user : User) : Prop where
  instants : PostgresUserStore.stored timestamptz user = user
  attempts : user.failedOTPAttempts ≤ PostgresUserStore.int4Max

/-- A call for which the stores make no difference, after the calls so far. A seeded account takes
no identifier of another; a created one takes no id of a seeded one, and its number comes after no
number lost by a refused `Create`. -/
def Common (lib : Lib) (timestamptz : Time → Time) (es : List (Event UserOp.Res)) : UserOp → Prop
  | .seed user => (stateAfter lib es).findByID user.id = none →
    (stateAfter lib es).findByIdentifier lib user.identifier = none
  | .create user => (stateAfter lib es).users.any (MemoryUserStore.taken lib user) = true ∨
    ((∀ e ∈ es, ¬ Refused e) ∧
      (stateAfter lib es).findByID (userID ((stateAfter lib es).seq+1)) = none ∧
      PostgresUserStore.stored timestamptz user = user)
  | .update user => Representable timestamptz user
  | .updateAtomic id mutate => ∀ old new, (stateAfter lib es).findByID id = some old →
    mutate old = .ok new → Representable timestamptz new
  | _ => True

/-- The stores after the same calls, answered alike. -/
structure Follows (lib : Lib) (es : List (Event UserOp.Res)) (m : MemoryUserStore)
    (p : PostgresUserStore) : Prop extends Copies m p where
  seq : m.seq ≤ p.seq
  refused : p.seq = m.seq ↔ ∀ e ∈ es, ¬ Refused e
  after : m = stateAfter lib es
  read : ∀ old, HasRead es old → ∃ row, m.findByID old.id = some row ∧ SameAccount row old

section Follows
variable {lib : Lib} {timestamptz : Time → Time} {es : List (Event UserOp.Res)}
  {m m' : MemoryUserStore} {p p' : PostgresUserStore} {user : User} {now : Time}

lemma follows_new : Follows lib [] .new .empty where
  users := rfl
  instants := List.Pairwise.nil
  ids := List.nodup_nil
  seq := le_rfl
  refused := by simp [MemoryUserStore.new, PostgresUserStore.empty]
  after := rfl
  read := by
    rintro old ⟨e,he,-⟩
    cases he

lemma hasRead_concat {e : Event UserOp.Res} {old : User} :
    HasRead (es ++ [e]) old ↔ HasRead es old ∨ old ∈ e.op.found e.res := by
  simp [HasRead, or_and_right, exists_or]

lemma forall_not_refused_concat {e : Event UserOp.Res} :
    (∀ e' ∈ es ++ [e], ¬ Refused e') ↔ (∀ e' ∈ es, ¬ Refused e') ∧ ¬ Refused e := by
  rw [List.forall_mem_append, List.forall_mem_singleton]

/-- A call that changes nothing, and reads at most rows that are there. -/
lemma Follows.quiet (h : Follows lib es m p) (e : Event UserOp.Res) (hsame : (m.exec lib e.op).2 = m)
    (hok : ¬ Refused e) (hread : ∀ old ∈ e.op.found e.res, old ∈ m.users) :
    Follows lib (es ++ [e]) m p := by
  refine { h with refused := ?_, after := ?_, read := fun old hold => ?_ }
  · rw [forall_not_refused_concat, ← h.refused, and_iff_left hok]
  · rw [stateAfter_concat, ← h.after, hsame]
  · obtain hold | hold := hasRead_concat.mp hold
    · exact h.read old hold
    · exact ⟨old,MemoryUserStore.findByID_of_nodup h.ids (hread old hold),rfl,rfl,rfl,rfl,rfl⟩

/-- A refused call takes a number in Postgres, whose numbers are ahead from here on. -/
lemma Follows.lose (h : Follows lib es m p) {e : Event UserOp.Res}
    (hsame : (m.exec lib e.op).2 = m) (hrefused : Refused e) (hread : e.op.found e.res = []) :
    Follows lib (es ++ [e]) m ⟨p.seq+1,p.rows⟩ where
  users := h.users
  instants := h.instants
  ids := h.ids
  seq := h.seq.trans (Nat.le_succ _)
  refused := by
    refine iff_of_false (Nat.ne_of_gt (Nat.lt_succ_of_le h.seq)) fun hnone => ?_
    exact hnone e (List.mem_append_right _ (List.mem_singleton_self e)) hrefused
  after := by rw [stateAfter_concat, ← h.after, hsame]
  read old hold := by
    rw [hasRead_concat, hread] at hold
    exact h.read old (hold.resolve_right List.not_mem_nil)

/-- A row appended to both stores. -/
lemma Follows.concat (h : Follows lib es m p) {e : Event UserOp.Res} (seq : ℕ) {row : UserRow}
    (hseq : p.seq + seq = p'.seq) (hrows : p'.rows = p.rows ++ [row])
    (hexec : (m.exec lib e.op).2 = ⟨m.seq+seq,m.users ++ [row.scan]⟩) (hlater : p.Later row.createdAt)
    (hfree : m.findByID row.scan.id = none) (hok : ¬ Refused e)
    (hread : ∀ old ∈ e.op.found e.res, old = row.scan) :
    Follows lib (es ++ [e]) ⟨m.seq+seq,m.users ++ [row.scan]⟩ p' where
  users := by rw [hrows, List.map_append, h.users]; rfl
  instants := by
    rw [hrows, List.pairwise_append]
    refine ⟨h.instants,List.pairwise_singleton _ _,fun a ha b hb => ?_⟩
    rw [List.mem_singleton.mp hb]
    exact hlater a ha
  ids := by
    rw [List.map_append, List.nodup_append]
    refine ⟨h.ids,by simp,?_⟩
    rintro id hid id' hid' rfl
    obtain ⟨old,hold,rfl⟩ := List.mem_map.mp hid
    have hid' : old.id = row.scan.id := by simpa using hid'
    have := List.find?_eq_none.mp hfree old hold
    simp [hid'] at this
  seq := by
    have := h.seq
    change m.seq + seq ≤ p'.seq
    omega
  refused := by
    rw [forall_not_refused_concat, ← h.refused, and_iff_left hok, ← hseq]
    change p.seq + seq = m.seq + seq ↔ _
    omega
  after := by rw [stateAfter_concat, ← h.after, hexec]
  read old hold := by
    rw [MemoryUserStore.findByID_concat hfree]
    obtain hold | hold := hasRead_concat.mp hold
    · obtain ⟨found,hfound,hsame⟩ := h.read old hold
      refine ⟨found,?_,hsame⟩
      rw [if_neg, hfound]
      intro hid
      rw [hid, hfree] at hfound
      cases hfound
    · obtain rfl := hread old hold
      exact ⟨row.scan,if_pos rfl,rfl,rfl,rfl,rfl,rfl⟩

section Create
variable (timestamptz now) (h : Follows lib es m p)
include h

/-- The row Postgres makes of a new account. -/
lemma violated_of_taken (htaken : m.users.any (MemoryUserStore.taken lib user) = true) (id : String) :
    p.violated (PostgresUserStore.inserted timestamptz { user with
      id, identifier := normalizeIdentifier lib user.identifier } now) ≠ none := by
  rw [ne_eq, h.violated_eq_none]
  intro hfree
  obtain ⟨old,hold,htaken⟩ := List.any_eq_true.mp htaken
  have := MemoryUserStore.taken_eq_false.mpr (hfree old hold).2
  rw [htaken] at this
  cases this

lemma violated_of_free (htaken : ¬ m.users.any (MemoryUserStore.taken lib user) = true) (id : String) :
    p.violated (PostgresUserStore.inserted timestamptz { user with
      id, identifier := normalizeIdentifier lib user.identifier } now) = none ↔
      m.findByID id = none := by
  rw [h.violated_eq_none]
  have htaken : ∀ old ∈ m.users, MemoryUserStore.taken lib user old = false := by
    simpa using htaken
  have hid : m.findByID id = none ↔ ∀ old ∈ m.users, old.id ≠ id := by
    simp [MemoryUserStore.findByID]
  rw [hid]
  refine forall₂_congr fun old hold => ?_
  exact and_iff_left (MemoryUserStore.taken_eq_false.mp (htaken old hold))

variable {timestamptz now}

lemma Follows.create (hattempts : user.failedOTPAttempts = 0)
    (hcommon : Common lib timestamptz es (.create user)) (hlater : p.Later now) :
    (p.create lib timestamptz user now).1 = (m.create lib user).1 ∧
      Follows lib (es ++ [⟨.create user,(m.create lib user).1⟩]) (m.create lib user).2
        (p.create lib timestamptz user now).2 := by
  unfold Common at hcommon
  rw [← h.after] at hcommon
  by_cases htaken : m.users.any (MemoryUserStore.taken lib user) = true
  · obtain ⟨name,hname⟩ := Option.ne_none_iff_exists'.mp
      (violated_of_taken timestamptz now h htaken (userID (p.seq+1)))
    have hmemory : m.create lib user = (.error errIdentifierTaken,m) := if_pos htaken
    rw [hmemory, PostgresUserStore.create_eq hattempts rfl, hname]
    exact ⟨rfl,h.lose (e := ⟨.create user,.error errIdentifierTaken⟩) (congrArg Prod.snd hmemory)
      ⟨_,rfl⟩ rfl⟩
  · obtain ⟨hnone,hfree,hkept⟩ := hcommon.resolve_left htaken
    have hseq := h.refused.mpr hnone
    obtain ⟨row,hrow⟩ : ∃ row, row = PostgresUserStore.inserted timestamptz { user with
        id := userID (p.seq+1), identifier := normalizeIdentifier lib user.identifier } now :=
      ⟨_,rfl⟩
    have hscan : row.scan = { user with
        id := userID (m.seq+1), identifier := normalizeIdentifier lib user.identifier } := by
      rw [hrow, PostgresUserStore.scan_inserted, hseq]
      rw [PostgresUserStore.stored_eq_iff] at hkept ⊢
      exact hkept
    have hmemory : m.create lib user = (.ok row.scan,⟨m.seq+1,m.users ++ [row.scan]⟩) := by
      rw [hscan]
      exact if_neg htaken
    have hviolated : p.violated row = none := by
      rw [hrow, hseq]
      exact (violated_of_free timestamptz now h htaken (userID (m.seq+1))).mpr hfree
    rw [hmemory, PostgresUserStore.create_eq hattempts hrow, hviolated]
    refine ⟨rfl,h.concat 1 rfl rfl (congrArg Prod.snd hmemory) ?_ ?_ ?_ ?_⟩
    · rw [hrow]; exact hlater
    · rw [hscan]; exact hfree
    · rintro ⟨_,⟨⟩⟩
    · exact fun old => List.mem_singleton.mp

/-- Where the stores make a difference to a new account they answer differently. -/
lemma Follows.create_apart (now : Time) (hattempts : user.failedOTPAttempts = 0)
    (hnot : ¬ Common lib timestamptz es (.create user)) :
    (p.create lib timestamptz user now).1 ≠ (m.create lib user).1 := by
  intro hsame
  refine hnot ?_
  unfold Common
  rw [← h.after]
  by_cases htaken : m.users.any (MemoryUserStore.taken lib user) = true
  · exact .inl htaken
  rw [PostgresUserStore.create_eq hattempts rfl, MemoryUserStore.create, if_neg htaken] at hsame
  cases hviolated : p.violated (PostgresUserStore.inserted timestamptz { user with
      id := userID (p.seq+1), identifier := normalizeIdentifier lib user.identifier } now) with
  | some name =>
    simp only [hviolated] at hsame
    cases hsame
  | none =>
    simp only [hviolated, PostgresUserStore.scan_inserted, Except.ok.injEq] at hsame
    have hseq : p.seq = m.seq := by
      have := userID_injective (congrArg User.id hsame)
      omega
    rw [hseq] at hviolated hsame
    refine .inr ⟨h.refused.mp hseq,(violated_of_free _ _ h htaken _).mp hviolated,?_⟩
    rw [PostgresUserStore.stored_eq_iff] at hsame ⊢
    exact hsame

end Create

section Seed
variable (timestamptz now) (h : Follows lib es m p)
include h

lemma any_id (id : String) : (m.users.any fun old => old.id = id) = (m.findByID id).isSome ∧
    (p.rows.any fun old => old.columns.id = id) = (m.findByID id).isSome := by
  have hmemory : (m.users.any fun old => old.id = id) = (m.findByID id).isSome := by
    rw [MemoryUserStore.findByID, Bool.eq_iff_iff, List.find?_isSome, List.any_eq_true]
  refine ⟨hmemory,?_⟩
  rw [← hmemory, ← h.users, List.any_map]
  rfl

/-- A new account violates a constraint only if another one has its identifier. -/
lemma violated_of_seed (hissued : UserIssued lib es (.seed user)) (hfree : m.findByID user.id = none) :
    p.violated (PostgresUserStore.inserted timestamptz { user with
      identifier := normalizeIdentifier lib user.identifier } now) = none ↔
      m.findByIdentifier lib user.identifier = none := by
  obtain ⟨bootstrap,passwordHash,rfl⟩ := hissued
  rw [h.violated_eq_none, MemoryUserStore.findByIdentifier, List.find?_eq_none]
  refine forall₂_congr fun old hold => ?_
  have hid := List.find?_eq_none.mp hfree old hold
  rw [decide_eq_true_eq] at hid ⊢
  constructor
  · exact fun hall => hall.2.1
  · exact fun hother => ⟨hid,hother,fun subject _ hnone => Option.some_ne_none _ hnone.symm⟩

variable {timestamptz now}

lemma Follows.seed (hissued : UserIssued lib es (.seed user))
    (hcommon : Common lib timestamptz es (.seed user)) (hlater : p.Later now) :
    (p.seed lib timestamptz user now).1 = .ok () ∧
      Follows lib (es ++ [⟨.seed user,.ok ()⟩]) (m.seed lib user)
        (p.seed lib timestamptz user now).2 := by
  obtain ⟨row,hrow⟩ : ∃ row, row = PostgresUserStore.inserted timestamptz { user with
      identifier := normalizeIdentifier lib user.identifier } now := ⟨_,rfl⟩
  have hid : row.columns.id = user.id := by rw [hrow, PostgresUserStore.inserted_id]
  have hattempts : user.failedOTPAttempts = 0 := by obtain ⟨_,_,rfl⟩ := hissued; rfl
  rw [PostgresUserStore.seed_eq hattempts hrow, (any_id h _).2, hid]
  cases hfound : m.findByID user.id with
  | some old =>
    have hm : m.seed lib user = m := if_pos ((any_id h user.id).1.trans (by rw [hfound]; rfl))
    rw [hm]
    exact ⟨rfl,h.quiet ⟨.seed user,.ok ()⟩ hm id fun old hold => (List.not_mem_nil hold).elim⟩
  | none =>
    have hfree : m.findByIdentifier lib user.identifier = none := by
      rw [h.after]
      exact hcommon (h.after ▸ hfound)
    have hscan : row.scan = { user with identifier := normalizeIdentifier lib user.identifier } := by
      rw [hrow, PostgresUserStore.scan_inserted, PostgresUserStore.stored_eq_iff]
      obtain ⟨_,_,rfl⟩ := hissued
      exact ⟨rfl,rfl,rfl⟩
    have hm : m.seed lib user = ⟨m.seq,m.users ++ [row.scan]⟩ := by
      rw [hscan]
      exact if_neg (by rw [(any_id h user.id).1, hfound]; simp)
    rw [hm, hrow, (violated_of_seed _ _ h hissued hfound).mpr hfree, ← hrow]
    refine ⟨rfl,h.concat 0 rfl rfl hm ?_ ?_ id ?_⟩
    · rw [hrow]; exact hlater
    · rw [hscan]; exact hfound
    · exact fun old hold => (List.not_mem_nil hold).elim

lemma Follows.seed_apart (now : Time) (hissued : UserIssued lib es (.seed user))
    (hnot : ¬ Common lib timestamptz es (.seed user)) :
    (p.seed lib timestamptz user now).1 ≠ .ok () := by
  intro hsame
  refine hnot fun hfound => ?_
  rw [← h.after] at hfound ⊢
  have hattempts : user.failedOTPAttempts = 0 := by obtain ⟨_,_,rfl⟩ := hissued; rfl
  rw [PostgresUserStore.seed_eq hattempts rfl, (any_id h _).2, PostgresUserStore.inserted_id,
    hfound] at hsame
  refine (violated_of_seed timestamptz now h hissued hfound).mp ?_
  simp only [Option.isSome_none, Bool.false_eq_true, if_false] at hsame
  split at hsame
  · cases hsame
  · assumption

end Seed

section Update
variable (h : Follows lib es m p) {row : User}
include h

lemma Follows.find_row (hfound : m.findByID user.id = some row) :
    ∃ old, (p.rows.find? fun row => row.columns.id = user.id) = some old ∧ old.scan = row := by
  rw [← h.findByID] at hfound
  exact Option.map_eq_some_iff.mp hfound

lemma Follows.issued (hissued : UserIssued lib es (.update user)) :
    ∃ row, m.findByID user.id = some row ∧ SameAccount row user := by
  obtain ⟨old,hread,hsame⟩ := hissued
  obtain ⟨row,hfound,hrow⟩ := h.read old hread
  exact ⟨row,hsame.id ▸ hfound,hrow.trans hsame⟩

/-- A row written back whole in both stores. -/
lemma Follows.written {e : Event UserOp.Res} (hfound : m.findByID user.id = some row)
    (hsame : SameAccount row user) (hkept : Representable timestamptz user)
    (hexec : (m.exec lib e.op).2 = ⟨m.seq,MemoryUserStore.replace user.id user m.users⟩)
    (hok : ¬ Refused e) (hread : ∀ old ∈ e.op.found e.res, old = user) :
    (p.update timestamptz user).1 = .ok user ∧
      Follows lib (es ++ [e]) ⟨m.seq,MemoryUserStore.replace user.id user m.users⟩
        (p.update timestamptz user).2 := by
  obtain ⟨old,hold,rfl⟩ := h.find_row hfound
  have hupdate : p.update timestamptz user = (.ok user,⟨p.seq,p.rows.map fun row =>
      if row.columns.id = user.id then PostgresUserStore.set timestamptz user row else row⟩) := by
    rw [PostgresUserStore.update, if_neg (Nat.not_lt.mpr hkept.attempts), hold]
    simp only [PostgresUserStore.scan_set timestamptz hsame, hkept.instants]
  rw [hupdate]
  refine ⟨rfl,⟨?_,?_,?_⟩,h.seq,?_,?_,fun other hother => ?_⟩
  · rw [MemoryUserStore.replace_eq_map h.ids, ← h.users, List.map_map, List.map_map]
    apply List.map_congr_left
    intro other hother
    rw [Function.comp_apply, Function.comp_apply]
    by_cases hid : other.columns.id = user.id
    · have hmem : other.scan ∈ m.users := by
        rw [← h.users]
        exact List.mem_map_of_mem hother
      have hother : m.findByID other.scan.id = some other.scan :=
        MemoryUserStore.findByID_of_nodup h.ids hmem
      have hscan : old.scan = other.scan :=
        Option.some.inj ((hid ▸ hfound : m.findByID other.scan.id = _).symm.trans hother)
      have hid' : other.scan.id = user.id := hid
      rw [if_pos hid, if_pos hid', PostgresUserStore.scan_set timestamptz (hscan ▸ hsame),
        hkept.instants]
    · have hid' : ¬ other.scan.id = user.id := hid
      rw [if_neg hid, if_neg hid']
  · refine List.pairwise_map.mpr (h.instants.imp fun {a b} hab => ?_)
    simpa only [apply_ite UserRow.createdAt, PostgresUserStore.set, ite_self] using hab
  · rw [MemoryUserStore.map_id_replace rfl]
    exact h.ids
  · rw [forall_not_refused_concat, and_iff_left hok]
    exact h.refused
  · rw [stateAfter_concat, ← h.after, hexec]
  · rw [MemoryUserStore.findByID_replace rfl hfound]
    obtain hother | hother := hasRead_concat.mp hother
    · obtain ⟨found,hfound',hsame'⟩ := h.read other hother
      split_ifs with hid
      · rw [hid, hfound] at hfound'
        obtain rfl := Option.some.inj hfound'
        exact ⟨user,rfl,hsame.symm.trans hsame'⟩
      · exact ⟨found,hfound',hsame'⟩
    · obtain rfl := hread other hother
      exact ⟨other,if_pos rfl,rfl,rfl,rfl,rfl,rfl⟩

lemma Follows.update_apart (hfound : m.findByID user.id = some row) (hsame : SameAccount row user)
    (hnot : ¬ Representable timestamptz user) : (p.update timestamptz user).1 ≠ .ok user := by
  intro hok
  obtain ⟨old,hold,rfl⟩ := h.find_row hfound
  rw [PostgresUserStore.update, hold] at hok
  split_ifs at hok with hattempts
  simp only [PostgresUserStore.scan_set timestamptz hsame, Except.ok.injEq] at hok
  exact hnot ⟨hok,Nat.le_of_not_lt hattempts⟩

end Update

lemma Follows.updateAtomic {k : String} {mutate : User → Except Error User}
    {r r' : Except Error User} (h : Follows lib es m p)
    (hissued : UserIssued lib es (.updateAtomic k mutate))
    (hcommon : Common lib timestamptz es (.updateAtomic k mutate))
    (hm : m.exec lib (.updateAtomic k mutate) = (r,m'))
    (hp : p.updateAtomic timestamptz k mutate = (r',p')) :
    r' = r ∧ Follows lib (es ++ [⟨.updateAtomic k mutate,r⟩]) m' p' := by
  have hexec := MemoryUserStore.exec_updateAtomic lib m k mutate
  rw [PostgresUserStore.updateAtomic, h.findByID] at hp
  cases hfound : m.findByID k with
  | none =>
    simp only [hfound] at hp hexec
    cases hp
    obtain ⟨rfl,rfl⟩ := Prod.mk.inj (hexec.symm.trans hm)
    exact ⟨rfl,h.quiet _ (congrArg Prod.snd hexec) id fun old hold => (List.not_mem_nil hold).elim⟩
  | some current =>
    simp only [hfound] at hp hexec
    cases hmutate : mutate current with
    | error err =>
      simp only [hmutate] at hp hexec
      cases hp
      obtain ⟨rfl,rfl⟩ := Prod.mk.inj (hexec.symm.trans hm)
      exact ⟨rfl,h.quiet _ (congrArg Prod.snd hexec) id fun old hold => (List.not_mem_nil hold).elim⟩
    | ok updated =>
      simp only [hmutate] at hp hexec
      have hsame := hissued current updated hmutate
      have hkept := hcommon current updated (h.after ▸ hfound) hmutate
      obtain rfl : updated.id = k := hsame.id.symm.trans (MemoryUserStore.id_of_findByID hfound)
      obtain ⟨rfl,rfl⟩ := Prod.mk.inj (hexec.symm.trans hm)
      have hstep := h.written (e := ⟨.updateAtomic updated.id mutate,.ok updated⟩) hfound hsame
        hkept (congrArg Prod.snd hexec) id fun old => List.mem_singleton.mp
      rw [hp] at hstep
      exact hstep

/-- A call on which the stores agree keeps them together. -/
lemma Follows.step {op : UserOp} {r r' : op.Res} (h : Follows lib es m p)
    (hissued : UserIssued lib es op) (hcommon : Common lib timestamptz es op)
    (hm : MemoryUserStore.Answers lib op m r m')
    (hp : PostgresUserStore.Answers lib timestamptz op p r' p') :
    r' = r ∧ Follows lib (es ++ [⟨op,r⟩]) m' p' := by
  unfold MemoryUserStore.Answers at hm
  cases op with
  | findByIdentifier identifier =>
    cases hm
    cases hp
    rw [h.findByIdentifier]
    refine ⟨rfl,h.quiet _ rfl id fun old hold => ?_⟩
    exact List.mem_of_find?_eq_some (Option.mem_toList.mp hold)
  | findByID k =>
    cases hm
    cases hp
    rw [h.findByID]
    refine ⟨rfl,h.quiet _ rfl id fun old hold => ?_⟩
    exact List.mem_of_find?_eq_some (Option.mem_toList.mp hold)
  | findByGoogleSubjectID subjectID =>
    cases hm
    cases hp
    rw [h.findByGoogleSubjectID]
    refine ⟨rfl,h.quiet _ rfl id fun old hold => ?_⟩
    exact List.mem_of_find?_eq_some (Option.mem_toList.mp hold)
  | create user =>
    obtain ⟨now,hlater,hp⟩ := hp
    have hstep := h.create hissued hcommon hlater
    rw [hp, show m.create lib user = (r,m') from hm] at hstep
    exact hstep
  | list =>
    cases hm
    obtain ⟨hlists,rfl⟩ := hp
    exact ⟨h.list hlists,h.quiet _ rfl id fun old hold => hold⟩
  | update user =>
    obtain ⟨row,hfound,hsame⟩ := h.issued hissued
    have hupdate := MemoryUserStore.update_of_found hfound
    obtain ⟨rfl,rfl⟩ := Prod.mk.inj (hupdate.symm.trans hm)
    have hstep := h.written (e := ⟨.update user,.ok user⟩) hfound hsame hcommon
      (congrArg Prod.snd hupdate) id fun old => List.mem_singleton.mp
    rw [show p.update timestamptz user = (r',p') from hp] at hstep
    exact hstep
  | updateAtomic k mutate => exact h.updateAtomic hissued hcommon hm hp
  | seed user =>
    obtain ⟨now,hlater,hp⟩ := hp
    have hstep := h.seed hissued hcommon hlater
    rw [hp] at hstep
    cases hm
    exact hstep

lemma Follows.apart {op : UserOp} {r r' : op.Res} (h : Follows lib es m p)
    (hissued : UserIssued lib es op) (hnot : ¬ Common lib timestamptz es op)
    (hm : MemoryUserStore.Answers lib op m r m')
    (hp : PostgresUserStore.Answers lib timestamptz op p r' p') : r' ≠ r := by
  unfold MemoryUserStore.Answers at hm
  cases op with
  | create user =>
    obtain ⟨now,hlater,hp⟩ := hp
    have hne := h.create_apart now hissued hnot
    rw [hp, show m.create lib user = (r,m') from hm] at hne
    exact hne
  | update user =>
    obtain ⟨row,hfound,hsame⟩ := h.issued hissued
    obtain ⟨rfl,rfl⟩ := Prod.mk.inj ((MemoryUserStore.update_of_found hfound).symm.trans hm)
    have hne := h.update_apart hfound hsame hnot
    rw [show p.update timestamptz user = (r',p') from hp] at hne
    exact hne
  | updateAtomic k mutate =>
    have hexec := MemoryUserStore.exec_updateAtomic lib m k mutate
    replace hp : p.updateAtomic timestamptz k mutate = (r',p') := hp
    simp only [Common, not_forall, ← h.after] at hnot
    obtain ⟨current,updated,hfound,hmutate,hnot⟩ := hnot
    simp only [PostgresUserStore.updateAtomic, h.findByID, hfound, hmutate] at hp hexec
    have hsame := hissued current updated hmutate
    obtain rfl : updated.id = k := hsame.id.symm.trans (MemoryUserStore.id_of_findByID hfound)
    obtain ⟨rfl,rfl⟩ := Prod.mk.inj (hexec.symm.trans hm)
    have hne := h.update_apart hfound hsame hnot
    rw [hp] at hne
    exact hne
  | seed user =>
    obtain ⟨now,hlater,hp⟩ := hp
    have hne := h.seed_apart now hissued hnot
    rw [hp] at hne
    cases hm
    exact hne
  | _ => exact (hnot trivial).elim

end Follows

/-- The stores answer the calls of the bootstrap and the service alike exactly if each of them makes
no difference. -/
theorem user_stores_interchangeable_iff {lib : Lib} {timestamptz : Time → Time}
    {es es' : List (Event UserOp.Res)} {m : MemoryUserStore} {p : PostgresUserStore}
    (hm : Trace (Answered (MemoryUserStore.Answers lib)) .new es m)
    (hp : Trace (Answered (PostgresUserStore.Answers lib timestamptz)) .empty es' p)
    (hops : es'.map (·.op) = es.map (·.op)) (hissued : Admissible (UserIssued lib) es) :
    es' = es ↔ Admissible (Common lib timestamptz) es :=
  transcripts_eq_iff follows_new
    (fun _ _ _ _ _ _ _ _ h hissued hcommon hm hp => h.step hissued hcommon hm hp)
    (fun _ _ _ _ _ _ _ _ h hissued hnot hm hp => h.apart hissued hnot hm hp) hm hp hops hissued

/-- A `TIMESTAMPTZ` column counts microseconds. -/
def microseconds (t : Time) : Time := t / 1000 * 1000

/-- A bootstrap account, with an identifier that is in normal form. -/
def seededUser (id : String) : User :=
  seedUser sampleLib ⟨id,"root","Root","",[.admin]⟩ "hash"

def renamedUser : User := { seededUser "user-admin-001" with displayName := "Renamed" }

/-- An account is seeded, read and renamed. -/
def sampleRename : List (Event UserOp.Res) :=
  [⟨.seed (seededUser "user-admin-001"),.ok ()⟩,
    ⟨.findByID "user-admin-001",some (seededUser "user-admin-001")⟩,
    ⟨.update renamedUser,.ok renamedUser⟩]

lemma sampleRename_issued : Admissible (UserIssued sampleLib) sampleRename := by
  refine ((Admissible.nil.snoc ⟨_,_,rfl⟩).snoc trivial).snoc ?_
  exact ⟨seededUser "user-admin-001",⟨_,List.mem_append_right _ (List.mem_singleton_self _),
    List.mem_singleton_self _⟩,rfl,rfl,rfl,rfl,rfl⟩

lemma memory_seed {lib : Lib} {s t : MemoryUserStore} {user : User} (h : s.seed lib user = t) :
    Answered (MemoryUserStore.Answers lib) s (⟨.seed user,.ok ()⟩ : Event UserOp.Res) t := by
  rw [← h]
  exact rfl

lemma memory_sampleRename :
    Trace (Answered (MemoryUserStore.Answers sampleLib)) .new sampleRename ⟨0,[renamedUser]⟩ := by
  have hseed : Answered (MemoryUserStore.Answers sampleLib) .new
      (⟨.seed (seededUser "user-admin-001"),.ok ()⟩ : Event UserOp.Res)
      ⟨0,[seededUser "user-admin-001"]⟩ := memory_seed (by decide +kernel)
  have hfind : Answered (MemoryUserStore.Answers sampleLib) ⟨0,[seededUser "user-admin-001"]⟩
      (⟨.findByID "user-admin-001",some (seededUser "user-admin-001")⟩ : Event UserOp.Res)
      ⟨0,[seededUser "user-admin-001"]⟩ := rfl
  have hupdate : Answered (MemoryUserStore.Answers sampleLib) ⟨0,[seededUser "user-admin-001"]⟩
      (⟨.update renamedUser,.ok renamedUser⟩ : Event UserOp.Res) ⟨0,[renamedUser]⟩ := rfl
  exact ((Trace.nil.snoc hseed).snoc hfind).snoc hupdate

lemma postgres_sampleRename :
    Trace (Answered (PostgresUserStore.Answers sampleLib microseconds)) .empty sampleRename
      ⟨0,[⟨renamedUser,none,0⟩]⟩ := by
  have hseed : Answered (PostgresUserStore.Answers sampleLib microseconds) .empty
      (⟨.seed (seededUser "user-admin-001"),.ok ()⟩ : Event UserOp.Res)
      ⟨0,[⟨seededUser "user-admin-001",none,0⟩]⟩ :=
    ⟨0,by simp [PostgresUserStore.Later, PostgresUserStore.empty],by decide +kernel⟩
  have hfind : Answered (PostgresUserStore.Answers sampleLib microseconds)
      ⟨0,[⟨seededUser "user-admin-001",none,0⟩]⟩
      (⟨.findByID "user-admin-001",some (seededUser "user-admin-001")⟩ : Event UserOp.Res)
      ⟨0,[⟨seededUser "user-admin-001",none,0⟩]⟩ := Prod.ext (by decide +kernel) rfl
  have hupdate : Answered (PostgresUserStore.Answers sampleLib microseconds)
      ⟨0,[⟨seededUser "user-admin-001",none,0⟩]⟩
      (⟨.update renamedUser,.ok renamedUser⟩ : Event UserOp.Res) ⟨0,[⟨renamedUser,none,0⟩]⟩ :=
    Prod.ext (by decide +kernel) (by decide +kernel)
  exact ((Trace.nil.snoc hseed).snoc hfind).snoc hupdate

theorem user_stores_interchangeable_rename :
    Admissible (Common sampleLib microseconds) sampleRename :=
  (user_stores_interchangeable_iff memory_sampleRename postgres_sampleRename rfl
    sampleRename_issued).mp rfl

/-- A second account with the identifier of a seeded one: the slice takes it, the table does not. -/
theorem seeded_identifier_refused :
    ¬ ∀ (es es' : List (Event UserOp.Res)) (m : MemoryUserStore) (p : PostgresUserStore),
      Trace (Answered (MemoryUserStore.Answers sampleLib)) .new es m →
      Trace (Answered (PostgresUserStore.Answers sampleLib microseconds)) .empty es' p →
      es'.map (·.op) = es.map (·.op) → Admissible (UserIssued sampleLib) es → es' = es := by
  intro h
  have hmemory : Answered (MemoryUserStore.Answers sampleLib) ⟨0,[renamedUser]⟩
      (⟨.seed (seededUser "user-supervisor-001"),.ok ()⟩ : Event UserOp.Res)
      ⟨0,[renamedUser,seededUser "user-supervisor-001"]⟩ := memory_seed (by decide +kernel)
  have hpostgres : Answered (PostgresUserStore.Answers sampleLib microseconds)
      ⟨0,[⟨renamedUser,none,0⟩]⟩
      (⟨.seed (seededUser "user-supervisor-001"),.error ⟨"auth: seed user: " ++
        (Sql.uniqueViolation "users_identifier_key").text⟩⟩ : Event UserOp.Res)
      ⟨0,[⟨renamedUser,none,0⟩]⟩ :=
    ⟨1,by simp [PostgresUserStore.Later],by decide +kernel⟩
  have hsame := h _ _ _ _ (memory_sampleRename.snoc hmemory) (postgres_sampleRename.snoc hpostgres)
    rfl (sampleRename_issued.snoc ⟨_,_,rfl⟩)
  rw [List.append_cancel_left_eq, List.cons.injEq, Event.mk.injEq] at hsame
  cases eq_of_heq hsame.1.2

end OpsPlatform.Auth
