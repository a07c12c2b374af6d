import OpsPlatform.Auth.Outcome

/-! Who an account belongs to. No two accounts share an id, an identifier or a Google subject,
because `Create` looks at every row before it appends one and no update touches these fields. -/
namespace OpsPlatform.Auth
open OpsPlatform.Go Interaction Program

namespace MemoryUserStore

/-- Every account is one of its kind. -/
structure Distinct (s : MemoryUserStore) : Prop where
  sound : s.Sound
  identifiers : (s.users.map (·.identifier)).Nodup
  subjects : (s.users.filterMap (·.googleSubjectID)).Nodup

section Rows
variable {lib : Lib} {s t : MemoryUserStore} {id : String} {user row old new : User}

lemma eq_of_nodup_filterMap {α β : Type} {f : α → Option β} {l : List α} {a b : α} {x : β}
    (h : (l.filterMap f).Nodup) (ha : a ∈ l) (hb : b ∈ l) (hfa : f a = some x)
    (hfb : f b = some x) : a = b := by
  induction l with
  | nil => cases ha
  | cons c l ih =>
    have hrest : (l.filterMap f).Nodup :=
      h.sublist ((List.sublist_cons_self c l).filterMap f)
    have hhead : f c = some x → ∀ d ∈ l, f d ≠ some x := by
      intro hc d hd hfd
      rw [List.filterMap_cons_some hc, List.nodup_cons] at h
      exact h.1 (List.mem_filterMap.mpr ⟨d,hd,hfd⟩)
    obtain rfl | ha' := List.mem_cons.mp ha <;> obtain rfl | hb' := List.mem_cons.mp hb
    · rfl
    · exact (hhead hfa b hb' hfb).elim
    · exact (hhead hfb a ha' hfa).elim
    · exact ih hrest ha' hb'

/-- A row is created exactly if no row there forbids it. -/
lemma create_ok (h : s.create lib user = (.ok row,t)) :
    (∀ existing ∈ s.users, taken lib user existing = false) ∧
    row = { user with
      id := userID (s.seq+1), identifier := normalizeIdentifier lib user.identifier } ∧
    t = ⟨s.seq+1,s.users ++ [row]⟩ := by
  unfold create at h
  split_ifs at h with htaken
  · cases h
  · cases h
    exact ⟨by simpa using htaken,rfl,rfl⟩

/-- Writing a row back changes no column in which it agrees with the old one. -/
lemma map_replace {α : Type} {f : User → α} {users : List User}
    (hfind : users.find? (fun u => u.id = id) = some old) (hsame : f new = f old) :
    (replace id new users).map f = users.map f := by
  induction users with
  | nil => rfl
  | cons existing rest ih =>
    unfold replace
    split_ifs with h
    · rw [List.find?_cons_of_pos (by simpa using h), Option.some.injEq] at hfind
      rw [List.map_cons, List.map_cons, hsame, hfind]
    · rw [List.find?_cons_of_neg (by simpa using h)] at hfind
      rw [List.map_cons, List.map_cons, ih hfind]

/-- A row that is nobody else's may be appended. -/
lemma Distinct.concat {seq : ℕ} (h : s.Distinct) (hsound : Sound ⟨seq,s.users ++ [row]⟩)
    (hidentifier : ∀ existing ∈ s.users, existing.identifier ≠ row.identifier)
    (hsubject : ∀ existing ∈ s.users, ∀ subject ∈ existing.googleSubjectID,
      row.googleSubjectID ≠ some subject) : Distinct ⟨seq,s.users ++ [row]⟩ := by
  refine ⟨hsound,?_,?_⟩
  · rw [List.map_append, List.nodup_append]
    refine ⟨h.identifiers,by simp,?_⟩
    rintro a ha b hb rfl
    obtain ⟨existing,hexisting,rfl⟩ := List.mem_map.mp ha
    exact hidentifier existing hexisting (by simpa using hb)
  · rw [List.filterMap_append, List.nodup_append]
    refine ⟨h.subjects,?_,?_⟩
    · cases hrow : row.googleSubjectID <;> simp [hrow]
    · rintro a ha b hb rfl
      obtain ⟨existing,hexisting,hsome⟩ := List.mem_filterMap.mp ha
      refine hsubject existing hexisting a hsome ?_
      simpa using hb

theorem Distinct.create (h : s.Distinct) (hcreate : s.create lib user = (.ok row,t)) :
    t.Distinct := by
  obtain ⟨hfree,hrow,rfl⟩ := create_ok hcreate
  refine h.concat (h.sound.create (by rw [hrow])) ?_ ?_
  · intro existing hexisting heq
    have := hfree existing hexisting
    simp [taken, heq, hrow] at this
  · intro existing hexisting subject hsubject heq
    have := hfree existing hexisting
    have hsame : user.googleSubjectID = some subject := by rw [← heq, hrow]
    rw [Option.mem_def] at hsubject
    simp [taken, hsubject, hsame] at this

/-- Nor do the accounts of two rows get mixed up when one is written back. -/
theorem Distinct.replace (h : s.Distinct) (hfind : s.findByID id = some old)
    (hsame : Field.identity.Same old new) :
    Distinct ⟨s.seq,MemoryUserStore.replace id new s.users⟩ := by
  have hid : new.id = id := hsame.1.symm.trans (id_of_findByID hfind)
  refine ⟨h.sound.replace hid,?_,?_⟩
  · rw [map_replace hfind hsame.2.1.symm]
    exact h.identifiers
  · have hmap : ∀ users : List User, users.filterMap (·.googleSubjectID) =
        (users.map (·.googleSubjectID)).filterMap (fun subject => subject) := by simp
    rw [hmap, map_replace hfind hsame.2.2.2.2.2.symm, ← hmap]
    exact h.subjects

lemma Distinct.identifier_inj (h : s.Distinct) (huser : user ∈ s.users) (hrow : row ∈ s.users)
    (heq : user.identifier = row.identifier) : user = row :=
  List.inj_on_of_nodup_map h.identifiers huser hrow heq

lemma Distinct.findByIdentifier (h : s.Distinct) (huser : user ∈ s.users) {identifier : String}
    (howns : normalizeIdentifier lib identifier = user.identifier) :
    s.findByIdentifier lib identifier = some user := by
  cases hfind : s.findByIdentifier lib identifier with
  | none =>
    have := List.find?_eq_none.mp hfind user huser
    simp [howns] at this
  | some found =>
    have hfound : found.identifier = normalizeIdentifier lib identifier := by
      simpa using List.find?_some hfind
    rw [h.identifier_inj (List.mem_of_find?_eq_some hfind) huser (hfound.trans howns)]

lemma Distinct.subject_inj (h : s.Distinct) (huser : user ∈ s.users) (hrow : row ∈ s.users)
    {subject : String} (hsubject : user.googleSubjectID = some subject)
    (hsubject' : row.googleSubjectID = some subject) : user = row :=
  eq_of_nodup_filterMap h.subjects huser hrow hsubject hsubject'

/-- Seeds with new ids are appended in order. -/
lemma foldl_seed {rows : List User} (hids : ((s.users ++ rows).map (·.id)).Nodup)
    (hnorm : ∀ row ∈ rows, normalizeIdentifier lib row.identifier = row.identifier) :
    rows.foldl (seed lib) s = ⟨s.seq,s.users ++ rows⟩ := by
  induction rows generalizing s with
  | nil => simp
  | cons row rest ih =>
    obtain ⟨hrow,hrest⟩ := List.forall_mem_cons.mp hnorm
    have hseed : s.seed lib row = ⟨s.seq,s.users ++ [row]⟩ := by
      have hfree : ¬ s.users.any (fun existing => existing.id = row.id) = true := by
        rw [List.map_append, List.nodup_append] at hids
        simp only [List.any_eq_true, decide_eq_true_eq, not_exists, not_and]
        intro existing hexisting heq
        exact hids.2.2 _ (List.mem_map_of_mem hexisting) row.id (by simp) heq
      rw [seed, if_neg hfree, hrow]
    rw [List.foldl_cons, hseed, ih (by simpa using hids) hrest]
    simp

end Rows
end MemoryUserStore

/-- A store filled by one successful run of `SeedBootstrapUsers`. -/
def Seeded (lib : Lib) (C : (op : Op) → op.Res → Prop) (cfg : BootstrapConfig) (clock : Time)
    (s : State) : Prop :=
  (seedBootstrapUsers lib (bootstrapSeedsFromConfig cfg)).Runs (Within lib C) ⟨.new,clock⟩
    (.ok ()) s

section Seeded
variable {lib : Lib} {C : (op : Op) → op.Res → Prop} {cfg : BootstrapConfig} {clock : Time}
  {s : State}

lemma map_zipWith_seedUser {α : Type} (f : User → α) (g : BootstrapSeed → α)
    (hfg : ∀ seed hash, f (seedUser lib seed hash) = g seed) {seeds : List BootstrapSeed}
    {hashes : List String} (hlength : hashes.length = seeds.length) :
    (List.zipWith (seedUser lib) seeds hashes).map f = seeds.map g := by
  induction seeds generalizing hashes with
  | nil => simp
  | cons seed rest ih =>
    cases hashes with
    | nil => simp at hlength
    | cons hash hashes => simp [hfg, ih (by simpa using hlength)]

lemma mem_seedRows {P : BootstrapSeed → String → Prop} {seeds : List BootstrapSeed}
    {hashes : List String} {row : User} (h : List.Forall₂ P seeds hashes)
    (hrow : row ∈ List.zipWith (seedUser lib) seeds hashes) :
    ∃ seed ∈ seeds, ∃ hash, P seed hash ∧ row = seedUser lib seed hash := by
  induction h with
  | nil => cases hrow
  | @cons seed hash seeds hashes hfirst _ ih =>
    rw [List.zipWith_cons_cons, List.mem_cons] at hrow
    obtain rfl | hrow := hrow
    · exact ⟨seed,by simp,hash,hfirst,rfl⟩
    · obtain ⟨seed',hseed',hash',hP,hrow⟩ := ih hrow
      exact ⟨seed',by simp [hseed'],hash',hP,hrow⟩

/-- It holds the four bootstrap accounts, each with a hash of its password. -/
theorem Seeded.rows (hnorm : ∀ x, normalizeIdentifier lib (normalizeIdentifier lib x) =
    normalizeIdentifier lib x) (h : Seeded lib C cfg clock s) : ∃ hashes : List String,
    List.Forall₂ (fun seed hash => C (.hash seed.password) (.ok hash))
      (bootstrapSeedsFromConfig cfg) hashes ∧
    s.users = ⟨0,List.zipWith (seedUser lib) (bootstrapSeedsFromConfig cfg) hashes⟩ := by
  obtain ⟨hashes,hhashed,hall,hstored⟩ := h.wp (wp_seedUsers _)
  have hlength := hall rfl
  rw [hlength, List.take_length] at hhashed hstored
  refine ⟨hashes,hhashed,?_⟩
  rw [hstored, MemoryUserStore.foldl_seed]
  · rfl
  · rw [show MemoryUserStore.new.users = [] from rfl, List.nil_append,
      map_zipWith_seedUser (·.id) (·.id) (fun _ _ => rfl) hlength]
    simp [bootstrapSeedsFromConfig, BootstrapIdentity.seed]
  · intro row hrow
    obtain ⟨seed,_,hash,_,rfl⟩ := mem_seedRows hhashed hrow
    exact hnorm _

theorem Seeded.distinct (hnorm : ∀ x, normalizeIdentifier lib (normalizeIdentifier lib x) =
    normalizeIdentifier lib x) (h : Seeded lib C cfg clock s)
    (hidentifiers : ((bootstrapSeedsFromConfig cfg).map fun seed =>
      normalizeIdentifier lib seed.identifier).Nodup) : s.users.Distinct := by
  obtain ⟨hashes,hhashed,hstored⟩ := h.rows hnorm
  have hlength := hhashed.length_eq.symm
  rw [hstored]
  refine ⟨⟨?_,?_⟩,?_,?_⟩
  · rw [map_zipWith_seedUser (·.id) (·.id) (fun _ _ => rfl) hlength]
    simp [bootstrapSeedsFromConfig, BootstrapIdentity.seed]
  · intro user huser n _
    obtain ⟨seed,hseed,hash,_,rfl⟩ := mem_seedRows hhashed huser
    exact bootstrap_unissued hseed n
  · rwa [map_zipWith_seedUser (·.identifier) _ (fun _ _ => rfl) hlength]
  · rw [List.filterMap_eq_nil_iff.mpr]
    · exact List.nodup_nil
    · intro user huser
      obtain ⟨seed,_,hash,_,rfl⟩ := mem_seedRows hhashed huser
      rfl

end Seeded

/-- A world whose identifiers are in lower case already. -/
def lowerLib : Lib := { sampleLib with toLower := id }

lemma normalizeIdentifier_lowerLib (x : String) :
    normalizeIdentifier lowerLib (normalizeIdentifier lowerLib x) =
      normalizeIdentifier lowerLib x := by
  have htrim : ∀ x, normalizeIdentifier lowerLib x = trimSpace x := by
    intro x
    simp [normalizeIdentifier, lowerLib]
  rw [htrim, htrim, trimSpace_trimSpace]

def sampleBootstrap : BootstrapConfig where
  admin := ⟨"admin@example.org","Admin","admin password"⟩
  assignee := ⟨"assignee@example.org","Assignee","assignee password"⟩
  supervisor := ⟨"supervisor@example.org","Supervisor","supervisor password"⟩
  requester := ⟨"requester@example.org","Requester","requester password"⟩

/-- The store after `SeedBootstrapUsers` with this configuration. -/
def sampleSeeded : State :=
  ((seedBootstrapUsers lowerLib (bootstrapSeedsFromConfig sampleBootstrap)).run
    (exec lowerLib (sampleEnv 0)) ⟨.new,0⟩).2

lemma seeded_sampleSeeded {C : (op : Op) → op.Res → Prop}
    (hC : ∀ op s, C op (exec lowerLib (sampleEnv 0) op s).1) :
    Seeded lowerLib C sampleBootstrap 0 sampleSeeded := by
  have hworld : ∀ op s, Within lowerLib C op s (exec lowerLib (sampleEnv 0) op s).1
      (exec lowerLib (sampleEnv 0) op s).2 :=
    fun op s => ⟨answers_exec lowerLib (sampleEnv 0) op s,hC op s⟩
  have hruns := runs_run hworld
    (seedBootstrapUsers lowerLib (bootstrapSeedsFromConfig sampleBootstrap)) ⟨.new,0⟩
  have hok : ((seedBootstrapUsers lowerLib (bootstrapSeedsFromConfig sampleBootstrap)).run
      (exec lowerLib (sampleEnv 0)) ⟨.new,0⟩).1.toOption = some () := by decide +kernel
  unfold Seeded sampleSeeded
  cases hresult : ((seedBootstrapUsers lowerLib (bootstrapSeedsFromConfig sampleBootstrap)).run
      (exec lowerLib (sampleEnv 0)) ⟨.new,0⟩).1 with
  | error e =>
    rw [hresult] at hok
    cases hok
  | ok done =>
    rwa [hresult] at hruns

lemma sampleBootstrap_nodup : ((bootstrapSeedsFromConfig sampleBootstrap).map fun seed =>
    normalizeIdentifier lowerLib seed.identifier).Nodup := by decide +kernel

end OpsPlatform.Auth
