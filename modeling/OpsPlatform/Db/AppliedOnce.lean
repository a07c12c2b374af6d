import Mathlib.Data.List.Nodup
import OpsPlatform.Db.Migrate
import OpsPlatform.Db.Sql

/-! Migrations over any interleaving of runs, failures and crashes. What a run has seen tells what
its session holds for as long as that lives; so the one commit that changes the log comes from the
session that has the lock, and adds the first migration missing from it. -/
namespace OpsPlatform.Migrations
open OpsPlatform.Go Interaction Program
open OpsPlatform.Db (Statement Server Executes applyAll)

/-- A run before it has the lock, while all has gone well since, and after that. -/
inductive Stage
  | fresh
  | working
  | spent
  deriving DecidableEq

/-- What a run knows from its answers: its connection, the versions it has found recorded or has
recorded, the one it has found missing, and what its open transaction has written. -/
structure View where
  conn : Option ℕ
  stage : Stage
  done : List String
  missing : Option String
  tx : Option (List Write)

namespace View

def executed (v : View) : Statement Write → View
  | .advisoryLock _ => { v with stage := .working }
  | .advisoryUnlock _ => { v with stage := .spent }
  | .begin => { v with tx := some [] }
  | .commit => { v with tx := none, missing := none, done := v.done ++ v.missing.toList }
  | .rollback => { v with stage := .spent }
  | .write w => { v with tx := v.tx.map (· ++ [w]) }

def observe (v : View) : Event Op.Res → View
  | ⟨.acquire,.ok conn⟩ => { v with conn := some conn }
  | ⟨.exec _ stmt,.ok _⟩ => v.executed stmt
  | ⟨.selectExists _ version,.ok true⟩ => { v with done := v.done ++ [version] }
  | ⟨.selectExists _ version,.ok false⟩ => { v with missing := some version }
  | ⟨.release _,_⟩ => { v with conn := none, stage := .spent }
  | _ => { v with stage := .spent }

def start : View := ⟨none,.fresh,[],none,none⟩

def of (seen : List (Event Op.Res)) : View := seen.foldl observe start

@[simp] lemma of_concat (seen : List (Event Op.Res)) (e : Event Op.Res) :
    of (seen ++ [e]) = (of seen).observe e := List.foldl_concat _ _ _ _

/-- What a run may execute: everything but the lock and the ways out only while it is working, and
a commit only of one migration with its record, all earlier ones being done. -/
def MayExecute (order : List Migration) (v : View) : Statement Write → Prop
  | .advisoryLock key => key = migrationLockKey ∧ v.stage = .fresh
  | .advisoryUnlock _ | .rollback => True
  | .begin => v.stage = .working ∧ v.tx = none
  | .write w => v.stage = .working ∧ (v.tx = none → w = .createTable)
  | .commit => v.stage = .working ∧ ∃ earlier m later, order = earlier ++ m :: later ∧
      v.done = earlier.map (·.version) ∧ v.missing = some m.version ∧
      v.tx = some [.script m,.insert m.version]

def May (order : List Migration) (v : View) : Op → Prop
  | .acquire => v.stage = .fresh ∧ v.conn = none
  | .exec conn stmt => v.conn = some conn ∧ v.MayExecute order stmt
  | .selectExists conn _ => v.conn = some conn ∧ v.stage = .working ∧ v.tx = none
  | .release conn => v.conn = some conn

end View

/-- A run that returns nil has all migrations done. -/
def Returns (order : List Migration) (seen : List (Event Op.Res)) (x : Except Error Unit) : Prop :=
  x = .ok () → (View.of seen).done = order.map (·.version)

/-- What a run has established between two rounds of its loop. -/
structure View.Round (order : List Migration) (conn : ℕ) (earlier rest : List Migration) (v : View) :
    Prop where
  order : order = earlier ++ rest
  conn : v.conn = some conn
  working : v.stage = .working
  tx : v.tx = none
  done : v.done = earlier.map (·.version)

section Program
variable {order : List Migration} {conn : ℕ} {seen : List (Event Op.Res)}

/-- The obligations of a run. -/
abbrev Obeys {α : Type} (order : List Migration) (p : M α)
    (Q : List (Event Op.Res) → Except Error α → Prop) (seen : List (Event Op.Res)) : Prop :=
  p.Ensures (fun _ _ => True) (fun seen op => (View.of seen).May order op) Q seen

/-- A run that still has its connection, and all migrations done if it has not failed. -/
def Leaves (order : List Migration) (conn : ℕ) (seen : List (Event Op.Res))
    (x : Except Error Unit) : Prop :=
  (View.of seen).conn = some conn ∧ Returns order seen x

lemma leaves_error {x : Error} (h : (View.of seen).conn = some conn) :
    Leaves order conn seen (.error x) := ⟨h,fun h => by cases h⟩

lemma obeys_execute {stmt : Statement Write} {what : String} {f : Unit → M Unit}
    (hmay : (View.of seen).May order (.exec conn stmt))
    (hok : Obeys order (f ()) (Leaves order conn) (seen ++ [⟨.exec conn stmt,.ok ()⟩])) :
    Obeys order (execute conn stmt what >>= f) (Leaves order conn) seen := by
  unfold execute
  rw [call_bind, Obeys, ensures_call]
  refine ⟨hmay,fun r _ => ?_⟩
  cases r with
  | ok a => exact hok
  | error err =>
    refine (ensures_fail _).mpr (leaves_error ?_)
    rw [View.of_concat]
    exact hmay.1

lemma obeys_executeTx {w : Write} {what : String} {f : Unit → M Unit}
    (hmay : (View.of seen).May order (.exec conn (.write w)))
    (hok : Obeys order (f ()) (Leaves order conn) (seen ++ [⟨.exec conn (.write w),.ok ()⟩])) :
    Obeys order (executeTx conn w what >>= f) (Leaves order conn) seen := by
  unfold executeTx
  rw [call_bind, Obeys, ensures_call]
  refine ⟨hmay,fun r _ => ?_⟩
  cases r with
  | ok a => exact hok
  | error err =>
    rw [call_bind, ensures_call, View.of_concat]
    refine ⟨⟨hmay.1,trivial⟩,fun r _ => (ensures_fail _).mpr (leaves_error ?_)⟩
    rw [View.of_concat, View.of_concat]
    cases r <;> exact hmay.1

/-- The loop: a round for each migration, in their order. -/
lemma obeys_applyMigrations (rest : List Migration) {earlier : List Migration}
    (hround : (View.of seen).Round order conn earlier rest) :
    Obeys order (applyMigrations conn rest) (Leaves order conn) seen := by
  induction rest generalizing earlier seen with
  | nil =>
    refine (ensures_ret _).mpr ⟨hround.conn,fun _ => ?_⟩
    rw [hround.done, hround.order, List.append_nil]
  | cons m rest ih =>
    unfold applyMigrations
    rw [call_bind, Obeys, ensures_call]
    refine ⟨⟨hround.conn,hround.working,hround.tx⟩,fun r _ => ?_⟩
    have hnext : order = (earlier ++ [m]) ++ rest := by simp [hround.order]
    cases r with
    | error err =>
      refine (ensures_fail _).mpr (leaves_error ?_)
      rw [View.of_concat]
      exact hround.conn
    | ok alreadyApplied =>
      simp only [Except.mapError, fromResult_ok, ret_bind]
      cases alreadyApplied with
      | true =>
        refine ih (?_ : View.Round order conn (earlier ++ [m]) rest _)
        rw [View.of_concat]
        exact ⟨hnext,hround.conn,hround.working,hround.tx,by simp [View.observe, hround.done]⟩
      | false =>
        simp only [Bool.false_eq_true, if_false]
        refine obeys_execute ?begin (obeys_executeTx ?script (obeys_executeTx ?insert
          (obeys_execute ?commit ?rest)))
        case rest =>
          refine ih (?_ : View.Round order conn (earlier ++ [m]) rest _)
          simp only [View.of_concat, View.observe, View.executed]
          exact ⟨hnext,hround.conn,hround.working,rfl,by simp [hround.done]⟩
        all_goals simp only [View.of_concat, View.observe, View.executed, View.May,
          View.MayExecute, Option.map_some, List.nil_append, List.cons_append]
        case begin => exact ⟨hround.conn,hround.working,hround.tx⟩
        case script => exact ⟨hround.conn,hround.working,by simp⟩
        case insert => exact ⟨hround.conn,hround.working,by simp⟩
        case commit =>
          exact ⟨hround.conn,hround.working,earlier,m,rest,hround.order,hround.done,rfl,rfl⟩

/-- Whatever happens between lock and unlock, the connection comes back. -/
lemma obeys_migrateLocked (files : List EmbeddedFile) (hconn : (View.of seen).conn = some conn)
    (hfresh : (View.of seen).stage = .fresh) (htx : (View.of seen).tx = none)
    (hdone : (View.of seen).done = []) :
    Obeys (loadMigrations files) (migrateLocked conn files) (Leaves (loadMigrations files) conn)
      seen := by
  unfold migrateLocked
  refine obeys_execute ⟨hconn,rfl,hfresh⟩ ?_
  rw [Obeys, ensures_bind, ensures_attempt]
  have hbody : Obeys (loadMigrations files) (do
      execute conn (.write .createTable) "db: create schema_migrations"
      applyMigrations conn (loadMigrations files)) (Leaves (loadMigrations files) conn)
      (seen ++ [⟨.exec conn (.advisoryLock migrationLockKey),.ok ()⟩]) := by
    refine obeys_execute ?_ (obeys_applyMigrations (loadMigrations files)
      (?_ : View.Round _ conn [] _ _))
    · rw [View.of_concat]
      exact ⟨hconn,rfl,fun _ => rfl⟩
    · simp only [View.of_concat, View.observe, View.executed]
      exact ⟨rfl,hconn,rfl,by simp [htx],hdone⟩
  refine hbody.imp (fun _ _ h => h) fun seen' x _ hx => ?_
  dsimp only
  rw [ensures_call]
  refine ⟨⟨hx.1,trivial⟩,fun r _ => ?_⟩
  rw [ensures_fromResult]
  have hsame : (View.of (seen' ++ [⟨.exec conn (.advisoryUnlock migrationLockKey),r⟩])).conn =
      (View.of seen').conn ∧
      (View.of (seen' ++ [⟨.exec conn (.advisoryUnlock migrationLockKey),r⟩])).done =
      (View.of seen').done := by
    rw [View.of_concat]
    cases r <;> exact ⟨rfl,rfl⟩
  exact ⟨hsame.1.trans hx.1,fun hok => hsame.2.trans (hx.2 hok)⟩

theorem obeys_migrate (files : List EmbeddedFile) :
    Obeys (loadMigrations files) (migrate files) (Returns (loadMigrations files)) [] := by
  unfold migrate
  rw [call_bind, Obeys, ensures_call]
  refine ⟨⟨rfl,rfl⟩,fun r _ => ?_⟩
  cases r with
  | error err => exact (ensures_fail _).mpr fun h => by cases h
  | ok conn =>
    simp only [Except.mapError, fromResult_ok, ret_bind]
    rw [ensures_bind, ensures_attempt]
    refine (obeys_migrateLocked files rfl rfl rfl rfl).imp (fun _ _ h => h) fun seen x _ hx => ?_
    dsimp only
    rw [ensures_call]
    refine ⟨hx.1,fun r _ => ?_⟩
    rw [ensures_fromResult]
    intro hok
    rw [View.of_concat]
    exact hx.2 hok

end Program

/-- The log agrees with the table, and is the beginning of the migrations in their order. -/
structure State.Ordered (order : List Migration) (s : State) : Prop where
  agrees : s.server.db.applied.map (·.version) = s.server.db.recorded
  initial : s.server.db.applied <+: order

/-- What a run knows is true. -/
structure View.Knows (v : View) (s : State) : Prop where
  done : ∀ version ∈ v.done, version ∈ s.server.db.recorded
  taken : ∀ conn ∈ v.conn, s.taken conn = true
  fresh : v.stage = .fresh → v.tx = none ∧ v.missing = none ∧
    ∀ conn ∈ v.conn, (s.server.session conn).tx = none
  working : v.stage = .working → ∀ conn ∈ v.conn, (s.server.session conn).alive = true →
    s.server.Holds conn migrationLockKey ∧ (s.server.session conn).tx = v.tx ∧
    ∀ version ∈ v.missing, version ∉ s.server.db.recorded

/-- The change of the log in one step: none, or the first missing migration is added by the session
that has the lock. -/
inductive State.Logs (order : List Migration) (v : View) (conn : ℕ) (s t : State) : Prop
  | same (recorded : t.server.db.recorded = s.server.db.recorded)
      (applied : t.server.db.applied = s.server.db.applied)
  | added (earlier later : List Migration) (m : Migration) (order : order = earlier ++ m :: later)
      (holds : s.server.Holds conn migrationLockKey) (missing : v.missing = some m.version)
      (before : s.server.db.applied = earlier)
      (applied : t.server.db.applied = earlier ++ [m])
      (recorded : t.server.db.recorded = s.server.db.recorded ++ [m.version])

/-- A beginning of a list that has all up to a place but not what stands there. -/
lemma eq_of_isPrefix {α : Type} {l earlier later : List α} {a : α} (hl : l <+: earlier ++ a :: later)
    (hearlier : earlier ⊆ l) (ha : a ∉ l) (hnodup : (earlier ++ a :: later).Nodup) : l = earlier := by
  obtain hshort | hlong := List.prefix_or_prefix_of_prefix hl (List.prefix_append earlier (a :: later))
  · have hlength := (hnodup.sublist (List.prefix_append _ _).sublist).length_le_of_subset hearlier
    exact hshort.eq_of_length (Nat.le_antisymm hshort.length_le hlength)
  · obtain ⟨more,rfl⟩ := hlong
    rw [List.prefix_append_right_inj] at hl
    cases more with
    | nil => simp
    | cons b more =>
      obtain ⟨rest,hrest⟩ := hl
      obtain ⟨rfl,_⟩ := List.cons.inj hrest
      simp at ha

section Step
variable {order : List Migration} {v : View} {s t : State} {conn : ℕ} {stmt : Statement Write}

/-- A commit adds the one migration it is about, and nothing was missing before that one. -/
lemma logs_of_commit {u : Server Database Write} (hmay : v.May order (.exec conn .commit))
    (hknows : v.Knows s) (hordered : s.Ordered order) (hnodup : (order.map (·.version)).Nodup)
    (halive : (s.server.session conn).alive = true)
    (h : s.server.process Write.apply conn .commit = some u) :
    s.Logs order v conn { s with server := u } ∧ (u.session conn).tx = none ∧
      ∀ version ∈ v.missing, version ∈ u.db.recorded := by
  obtain ⟨hconn,hworking,earlier,m,later,rfl,hdone,hmissing,hwritten⟩ := hmay
  obtain ⟨hholds,hsame,hnone⟩ := hknows.working hworking conn hconn halive
  have hfree := hnone m.version hmissing
  have hbefore : s.server.db.applied = earlier := by
    rw [← hordered.agrees] at hfree
    refine eq_of_isPrefix hordered.initial ?_ (fun hm => hfree (List.mem_map_of_mem hm))
      (List.Nodup.of_map _ hnodup)
    intro a ha
    have hrecorded := hknows.done a.version (by rw [hdone]; exact List.mem_map_of_mem ha)
    rw [← hordered.agrees] at hrecorded
    obtain ⟨b,hb,hversion⟩ := List.mem_map.mp hrecorded
    rwa [← List.inj_on_of_nodup_map hnodup (hordered.initial.subset hb)
      (List.mem_append_left _ ha) hversion]
  simp only [Server.process, hsame, hwritten] at h
  obtain ⟨db,hdb,rfl⟩ := Option.map_eq_some_iff.mp h
  simp only [applyAll, List.foldlM_cons, List.foldlM_nil, Write.apply, Option.bind_eq_bind,
    Option.bind_some, Option.pure_def] at hdb
  split_ifs at hdb
  · obtain rfl := Option.some.inj hdb
    refine ⟨.added earlier later m rfl hholds hmissing hbefore ?_ rfl,?_,?_⟩
    · rw [← hbefore]
    · exact congrArg Db.Session.tx ((Server.session_setTx none conn).trans (if_pos rfl))
    · simp [hmissing]
  · cases hdb

/-- The step lemma of the log. -/
lemma logs_of_process {u : Server Database Write} (hmay : v.May order (.exec conn stmt))
    (hknows : v.Knows s) (hordered : s.Ordered order) (hnodup : (order.map (·.version)).Nodup)
    (halive : (s.server.session conn).alive = true)
    (h : s.server.process Write.apply conn stmt = some u) :
    s.Logs order v conn { s with server := u } := by
  obtain hdb | ⟨rfl,_⟩ | ⟨w,rfl,htx,hdb⟩ := Server.db_process h
  · exact .same (congrArg (·.recorded) hdb) (congrArg (·.applied) hdb)
  · exact (logs_of_commit hmay hknows hordered hnodup halive h).1
  · obtain ⟨hconn,hworking,honly⟩ := hmay
    obtain ⟨_,hsame,_⟩ := hknows.working hworking conn hconn halive
    obtain rfl := honly (hsame.symm.trans htx)
    rw [Write.apply, Option.some.injEq] at hdb
    exact .same (by rw [← hdb]) (by rw [← hdb])

lemma logs_of_executes {r : Except Error Unit} {u : Server Database Write}
    (hmay : v.May order (.exec conn stmt)) (hknows : v.Knows s) (hordered : s.Ordered order)
    (hnodup : (order.map (·.version)).Nodup) (h : Executes Write.apply conn stmt s.server r u) :
    s.Logs order v conn { s with server := u } := by
  cases h with
  | done halive h | unheard _ halive h =>
    exact logs_of_process hmay hknows hordered hnodup halive h
  | failed => exact .same rfl rfl

lemma State.Logs.ordered (h : s.Logs order v conn t) (hordered : s.Ordered order) :
    t.Ordered order := by
  cases h with
  | same hrecorded happlied =>
    refine ⟨?_,?_⟩
    · rw [happlied, hrecorded]
      exact hordered.agrees
    · rw [happlied]
      exact hordered.initial
  | added earlier later m horder _ _ hbefore happlied hrecorded =>
    refine ⟨?_,?_⟩
    · rw [happlied, hrecorded, ← hordered.agrees, hbefore, List.map_append]
      rfl
    · rw [happlied, horder]
      exact ⟨later,by simp⟩

lemma State.Logs.grows (h : s.Logs order v conn t) {version : String}
    (hversion : version ∈ s.server.db.recorded) : version ∈ t.server.db.recorded := by
  cases h with
  | same hrecorded => rwa [hrecorded]
  | added earlier later m _ _ _ _ _ hrecorded =>
    rw [hrecorded]
    exact List.mem_append_left _ hversion

/-- While another session has the lock the log stays. -/
lemma State.Logs.recorded_eq (h : s.Logs order v conn t) {c : ℕ} (hc : c ≠ conn)
    (hholds : s.server.Holds c migrationLockKey) :
    t.server.db.recorded = s.server.db.recorded := by
  cases h with
  | same hrecorded => exact hrecorded
  | added _ _ _ _ hmine => exact (hc (hmine.eq hholds)).elim

/-- What a run knows stays true while other connections are used. -/
lemma View.Knows.other {w : View} (h : w.Knows s) (hlogs : s.Logs order v conn t)
    (hsame : s.server.SameBut conn t.server)
    (htaken : ∀ c ≠ conn, s.taken c = true → t.taken c = true) (hapart : w.conn ≠ some conn) :
    w.Knows t := by
  have hne : ∀ c ∈ w.conn, c ≠ conn := by
    rintro c hc rfl
    exact hapart hc
  refine ⟨fun version hversion => hlogs.grows (h.done version hversion),
    fun c hc => htaken c (hne c hc) (h.taken c hc),fun hfresh => ?_,fun hworking c hc halive => ?_⟩
  · obtain ⟨htx,hmissing,hidle⟩ := h.fresh hfresh
    refine ⟨htx,hmissing,fun c hc => ?_⟩
    rw [hsame.session c (hne c hc)]
    exact hidle c hc
  · rw [hsame.session c (hne c hc)] at halive ⊢
    obtain ⟨hholds,htx,hmissing⟩ := h.working hworking c hc halive
    refine ⟨hsame.holds c (hne c hc) _ hholds,htx,?_⟩
    rw [hlogs.recorded_eq (hne c hc) hholds]
    exact hmissing

/-- A run whose session has ended knows nothing of it any more. -/
lemma View.Knows.lost (h : v.Knows s) (conn : ℕ) :
    v.Knows { s with server := s.server.lost conn } := by
  have hsame : Server.SameBut conn s.server (s.server.lost conn) := Server.sameBut_lost
  refine ⟨h.done,h.taken,fun hfresh => ?_,fun hworking c hc halive => ?_⟩
  · obtain ⟨htx,hmissing,hidle⟩ := h.fresh hfresh
    refine ⟨htx,hmissing,fun c hc => ?_⟩
    by_cases hconn : c = conn
    · subst hconn
      rw [Server.session_lost]
    · rw [hsame.session c hconn]
      exact hidle c hc
  · by_cases hconn : c = conn
    · subst hconn
      rw [Server.session_lost] at halive
      cases halive
    · rw [hsame.session c hconn] at halive ⊢
      obtain ⟨hholds,htx,hmissing⟩ := h.working hworking c hc halive
      exact ⟨hsame.holds c hconn _ hholds,htx,hmissing⟩

/-- A run that has failed or is on its way out needs to know little. -/
lemma View.Knows.of_spent (hstage : v.stage = .spent)
    (hdone : ∀ version ∈ v.done, version ∈ s.server.db.recorded)
    (htaken : ∀ conn ∈ v.conn, s.taken conn = true) : v.Knows s :=
  ⟨hdone,htaken,fun h => (by cases hstage.symm.trans h),fun h => (by cases hstage.symm.trans h)⟩

/-- A run takes in that a statement has been processed. -/
lemma knows_executed {u : Server Database Write} (hmay : v.May order (.exec conn stmt))
    (hknows : v.Knows s) (hordered : s.Ordered order) (hnodup : (order.map (·.version)).Nodup)
    (halive : (s.server.session conn).alive = true)
    (h : s.server.process Write.apply conn stmt = some u) :
    (v.executed stmt).Knows { s with server := u } := by
  have hlogs := logs_of_process hmay hknows hordered hnodup halive h
  have hdone : ∀ version ∈ v.done, version ∈ u.db.recorded :=
    fun version hversion => hlogs.grows (hknows.done version hversion)
  obtain ⟨hconn,hexec⟩ := hmay
  -- a statement while working that leaves the lock, the transaction as expected and the table
  have hwork : ∀ tx, v.stage = .working → u.Holds conn migrationLockKey →
      (u.session conn).tx = tx → u.db.recorded = s.server.db.recorded →
      ({ v with tx } : View).Knows { s with server := u } := by
    intro tx hworking hholds htx hrecorded
    refine ⟨hdone,hknows.taken,fun hfresh => ?_,fun _ c hc _ => ?_⟩
    · cases hworking.symm.trans hfresh
    · obtain rfl := Option.some.inj (hconn.symm.trans hc)
      refine ⟨hholds,htx,?_⟩
      change ∀ version ∈ v.missing, version ∉ u.db.recorded
      rw [hrecorded]
      exact (hknows.working hworking conn hconn halive).2.2
  cases stmt with
  | advisoryLock key =>
    obtain ⟨rfl,hfresh⟩ := hexec
    obtain ⟨htx,hmissing,hidle⟩ := hknows.fresh hfresh
    obtain ⟨hheld,hsession,hdb⟩ := Server.process_advisoryLock h
    refine ⟨hdone,hknows.taken,fun h => (by cases h),fun _ c hc _ => ?_⟩
    obtain rfl := Option.some.inj (hconn.symm.trans hc)
    refine ⟨hheld,?_,by simp [View.executed, hmissing]⟩
    exact (congrArg Db.Session.tx (congrFun hsession conn)).trans ((hidle conn hconn).trans htx.symm)
  | advisoryUnlock key | rollback => exact .of_spent rfl hdone hknows.taken
  | begin =>
    obtain ⟨hholds,htx,_⟩ := hknows.working hexec.1 conn hconn halive
    cases h
    refine hwork (some []) hexec.1 hholds ?_ rfl
    rw [Server.session_setTx, if_pos rfl, htx, hexec.2]
    rfl
  | commit =>
    obtain ⟨_,htx,hadded⟩ := logs_of_commit ⟨hconn,hexec⟩ hknows hordered hnodup halive h
    obtain ⟨hholds,_⟩ := hknows.working hexec.1 conn hconn halive
    refine ⟨?_,hknows.taken,fun hfresh => ?_,fun _ c hc _ => ?_⟩
    · simp only [View.executed, List.forall_mem_append, Option.mem_toList]
      exact ⟨hdone,hadded⟩
    · cases hexec.1.symm.trans hfresh
    · obtain rfl := Option.some.inj (hconn.symm.trans hc)
      obtain ⟨times,htimes⟩ := hholds
      refine ⟨⟨times,?_⟩,htx,by simp [View.executed]⟩
      exact (congrFun (Server.locks_of_commit h) _).trans htimes
  | write w =>
    obtain ⟨hholds,htx,_⟩ := hknows.working hexec.1 conn hconn halive
    simp only [Server.process, htx] at h
    cases hopen : v.tx with
    | none =>
      obtain rfl := hexec.2 hopen
      rw [hopen] at h htx
      cases h
      refine hwork _ hexec.1 hholds ?_ rfl
      rw [hopen]
      exact htx
    | some ws =>
      rw [hopen] at h
      obtain ⟨_,_,rfl⟩ := Option.map_eq_some_iff.mp h
      refine hwork _ hexec.1 hholds ?_ rfl
      rw [Server.session_setTx, if_pos rfl, hopen]
      rfl

section Answer
variable {op : Op} {r : op.Res} (hmay : v.May order op) (hknows : v.Knows s)
  (hordered : s.Ordered order) (hnodup : (order.map (·.version)).Nodup) (h : Answers op s r t)
include hmay hknows hordered hnodup h

lemma ordered_of_answers : t.Ordered order := by
  cases h with
  | exec h => exact (logs_of_executes hmay hknows hordered hnodup h).ordered hordered
  | acquired | unavailable | selected | unread | released => exact ⟨hordered.agrees,hordered.initial⟩

/-- The other runs know what they knew. -/
lemma knows_other {w : View} (hw : w.Knows s) (hapart : ∀ c ∈ w.conn, v.conn ≠ some c) :
    w.Knows t := by
  cases h with
  | @acquired _ conn hfree _ =>
    have hlogs : s.Logs order v conn { s with taken := Function.update s.taken conn true } :=
      .same rfl rfl
    refine hw.other hlogs (.refl conn _) (fun c hc htaken => ?_) fun hconn => ?_
    · exact (Function.update_of_ne hc true s.taken).trans htaken
    · rw [hw.taken conn hconn] at hfree
      cases hfree
  | unavailable | selected | unread => exact hw
  | @exec _ conn _ _ _ h =>
    refine hw.other (logs_of_executes hmay hknows hordered hnodup h) h.sameBut
      (fun _ _ h => h) fun hconn => hapart conn hconn hmay.1
  | @released _ conn =>
    have hlogs : s.Logs order v conn { s with
        taken := Function.update s.taken conn (s.server.session conn).tx.isSome } := .same rfl rfl
    refine hw.other hlogs (.refl conn _) (fun c hc htaken => ?_) fun hconn => hapart conn hconn hmay
    exact (Function.update_of_ne hc _ s.taken).trans htaken

/-- A run takes in what it is told. -/
lemma knows_observe : (v.observe ⟨op,r⟩).Knows t := by
  cases h with
  | @acquired _ conn hfree hidle =>
    obtain ⟨hfresh,hnone⟩ := hmay
    obtain ⟨htx,hmissing,_⟩ := hknows.fresh hfresh
    refine ⟨hknows.done,?_,fun _ => ⟨htx,hmissing,?_⟩,fun hworking => ?_⟩
    · rintro c hc
      obtain rfl := Option.some.inj hc
      exact Function.update_self _ _ _
    · rintro c hc
      obtain rfl := Option.some.inj hc
      exact hidle
    · cases hfresh.symm.trans hworking
  | unavailable | unread => exact .of_spent rfl hknows.done hknows.taken
  | released => exact .of_spent rfl hknows.done (by simp [View.observe])
  | @selected _ conn db version halive hview htable =>
    obtain ⟨hconn,hworking,hnone⟩ := hmay
    obtain ⟨hholds,htx,hmissing⟩ := hknows.working hworking conn hconn halive
    have hdb : s.server.db = db := by
      rw [Server.view, htx, hnone] at hview
      exact Option.some.inj hview
    subst hdb
    by_cases hrecorded : version ∈ s.server.db.recorded
    · rw [decide_eq_true hrecorded]
      refine ⟨?_,hknows.taken,hknows.fresh,hknows.working⟩
      simp only [View.observe, List.forall_mem_append, List.forall_mem_singleton]
      exact ⟨hknows.done,hrecorded⟩
    · rw [decide_eq_false hrecorded]
      refine ⟨hknows.done,hknows.taken,fun hfresh => ?_,fun _ c hc halive => ?_⟩
      · cases hworking.symm.trans hfresh
      · obtain ⟨hholds,htx,_⟩ := hknows.working hworking c hc halive
        refine ⟨hholds,htx,?_⟩
        intro version' hversion'
        obtain rfl := Option.some.inj hversion'
        exact hrecorded
  | @exec _ conn stmt _ u h =>
    have hlogs := logs_of_executes hmay hknows hordered hnodup h
    cases h with
    | unheard err | failed err =>
      exact .of_spent rfl (fun version hversion => hlogs.grows (hknows.done version hversion))
        hknows.taken
    | done halive h => exact knows_executed hmay hknows hordered hnodup halive h

end Answer
end Step

section Files
variable {files : List EmbeddedFile}

lemma EmbeddedFile.migration_eq {file : EmbeddedFile} {m : Migration} (h : file.migration = some m) :
    hasSuffix file.name ".up.sql" = true ∧ m.version = file.version ∧ m.upSQL = file.content := by
  unfold migration at h
  split_ifs at h with hsuffix
  obtain ⟨⟨version,rest⟩,hcut,rfl⟩ := Option.map_eq_some_iff.mp h
  unfold cut at hcut
  split_ifs at hcut
  cases hcut
  exact ⟨hsuffix,rfl,rfl⟩

lemma EmbeddedFile.exists_migration {file : EmbeddedFile}
    (hsuffix : hasSuffix file.name ".up.sql" = true) (hname : '_' ∈ file.name.toList) :
    ∃ m, file.migration = some m := by
  unfold migration cut
  rw [if_pos hsuffix, if_pos hname]
  exact ⟨_,rfl⟩

/-- The migrations of the files in the order of their versions. -/
structure Ascending (files : List EmbeddedFile) (order : List Migration) : Prop where
  perm : order.Perm (files.filterMap EmbeddedFile.migration)
  sorted : order.Pairwise fun a b => a.version < b.version

lemma Ascending.nodup {order : List Migration} (h : Ascending files order) :
    (order.map (·.version)).Nodup := by
  rw [List.Nodup, List.pairwise_map]
  exact h.sorted.imp fun hlt => hlt.ne

/-- No two files have the same version. -/
def Distinct (files : List EmbeddedFile) : Prop :=
  (files.filter fun file => hasSuffix file.name ".up.sql").Pairwise fun a b => a.version ≠ b.version

lemma nodup_versions (h : Distinct files) :
    ((files.filterMap EmbeddedFile.migration).map (·.version)).Nodup := by
  rw [List.Nodup, List.pairwise_map, List.pairwise_filterMap]
  refine (List.pairwise_filter.mp h).imp fun hab m hm m' hm' => ?_
  obtain ⟨hsuffix,hversion,_⟩ := EmbeddedFile.migration_eq hm
  obtain ⟨hsuffix',hversion',_⟩ := EmbeddedFile.migration_eq hm'
  rw [hversion, hversion']
  exact hab hsuffix hsuffix'

/-- Where versions differ there is one ascending order, whatever the way of sorting. -/
theorem ascending_loadMigrations (h : Distinct files) : Ascending files (loadMigrations files) := by
  have hperm : (loadMigrations files).Perm (files.filterMap EmbeddedFile.migration) :=
    List.perm_insertionSort _ _
  refine ⟨hperm,?_⟩
  have hsorted : (loadMigrations files).Pairwise fun a b => a.version ≤ b.version := by
    have : Std.Total fun a b : Migration => a.version ≤ b.version := ⟨fun _ _ => le_total _ _⟩
    have : IsTrans Migration fun a b => a.version ≤ b.version := ⟨fun _ _ _ => le_trans⟩
    exact List.pairwise_insertionSort _ _
  have hnodup := (hperm.map (·.version)).nodup_iff.mpr (nodup_versions h)
  rw [List.Nodup, List.pairwise_map] at hnodup
  exact (hsorted.and hnodup).imp fun ⟨hle,hne⟩ => lt_of_le_of_ne hle hne

end Files

section Pool
variable {ι : Type} [DecidableEq ι] {order : List Migration} {p q : Runs ι}

/-- What holds of the runs together. -/
structure Inv (order : List Migration) (p : Runs ι) : Prop where
  ordered : p.state.Ordered order
  apart : ∀ i j conn, (View.of (p.seen i)).conn = some conn → (View.of (p.seen j)).conn = some conn →
    i = j
  knows : ∀ i, (View.of (p.seen i)).Knows p.state
  threads : ∀ i, Obeys order (p.thread i) (Returns order) (p.seen i)

omit [DecidableEq ι] in
lemma inv_begin (files : List EmbeddedFile) : Inv (loadMigrations files) (begin ι files) where
  ordered := ⟨rfl,List.nil_prefix⟩
  apart := by
    intro i j conn hi
    cases hi
  knows _ := ⟨by simp [begin, Pool.start, View.of, View.start],
    by simp [begin, Pool.start, View.of, View.start],
    fun _ => ⟨rfl,rfl,by simp [begin, Pool.start, View.of, View.start]⟩,fun h => by cases h⟩
  threads _ := obeys_migrate files

/-- A connection a run has was its own before, or free. -/
lemma conn_of_observe {v : View} {op : Op} {r : op.Res} {s t : State} {conn : ℕ}
    (h : Answers op s r t) (hconn : (v.observe ⟨op,r⟩).conn = some conn) :
    v.conn = some conn ∨ s.taken conn = false := by
  cases h with
  | acquired hfree =>
    cases hconn
    exact .inr hfree
  | unavailable | unread => exact .inl hconn
  | @selected _ _ db version =>
    generalize decide (version ∈ db.recorded) = recorded at hconn
    cases recorded <;> exact .inl hconn
  | @exec _ _ stmt r _ h =>
    cases r with
    | error err => exact .inl hconn
    | ok a => cases stmt <;> exact .inl hconn
  | released => cases hconn

/-- The step lemma. -/
theorem Inv.step {l : Option (ι × Event Op.Res)} (hinv : Inv order p)
    (hnodup : (order.map (·.version)).Nodup) (h : Step p l q) : Inv order q := by
  cases h with
  | lost conn =>
    exact ⟨⟨hinv.ordered.agrees,hinv.ordered.initial⟩,hinv.apart,fun i => (hinv.knows i).lost conn,
      hinv.threads⟩
  | @call l q h =>
    obtain ⟨hmay,hthreads⟩ := h.ensures hinv.threads trivial
    have hseen := h.seen
    have hanswer := h.answered
    obtain ⟨i,op,r⟩ := l
    have hself : View.of (q.seen i) = (View.of (p.seen i)).observe ⟨op,r⟩ := by
      rw [hseen, Function.update_self, View.of_concat]
    have hother : ∀ j ≠ i, q.seen j = p.seen j := by
      intro j hj
      rw [hseen, Function.update_of_ne hj]
    -- a connection of another run is not the one this run comes to have
    have hfresh : ∀ j ≠ i, ∀ conn, (View.of (q.seen i)).conn = some conn →
        (View.of (p.seen j)).conn ≠ some conn := by
      intro j hj conn hi hjconn
      rw [hself] at hi
      obtain hmine | hfree := conn_of_observe hanswer hi
      · exact hj (hinv.apart j i conn hjconn hmine)
      · rw [(hinv.knows j).taken conn hjconn] at hfree
        cases hfree
    refine ⟨ordered_of_answers hmay (hinv.knows i) hinv.ordered hnodup hanswer,?_,?_,hthreads⟩
    · intro j k conn hj hk
      by_cases hji : j = i
      · subst hji
        by_contra hkj
        have hkj := Ne.symm hkj
        rw [hother k hkj] at hk
        exact hfresh k hkj conn hj hk
      · by_cases hki : k = i
        · subst hki
          rw [hother j hji] at hj
          exact (hfresh j hji conn hk hj).elim
        · rw [hother j hji] at hj
          rw [hother k hki] at hk
          exact hinv.apart j k conn hj hk
    · intro j
      by_cases hj : j = i
      · subst hj
        rw [hself]
        exact knows_observe hmay (hinv.knows j) hinv.ordered hnodup hanswer
      · rw [hother j hj]
        refine knows_other hmay (hinv.knows i) hinv.ordered hnodup hanswer (hinv.knows j) ?_
        intro conn hconn hiconn
        exact hj (hinv.apart j i conn hconn hiconn)

end Pool

/-- At every moment of every history the migrations that have taken effect are those recorded, each
of them once, in ascending order and from the first one on; when a run has returned nil, all. -/
theorem migrations_applied_once {ι : Type} [DecidableEq ι] {files : List EmbeddedFile}
    (hnames : ∀ file ∈ files, hasSuffix file.name ".up.sql" = true → '_' ∈ file.name.toList)
    (hdistinct : Distinct files) {ls : List (Option (ι × Event Op.Res))} {p : Runs ι}
    (h : Trace Step (begin ι files) ls p) :
    p.state.server.db.applied.map (·.version) = p.state.server.db.recorded ∧
    p.state.server.db.applied.Nodup ∧
    p.state.server.db.applied.Pairwise (fun a b => a.version < b.version) ∧
    (∃ order, Ascending files order ∧ p.state.server.db.applied <+: order) ∧
    ∀ i, (p.thread i).result = some (.ok ()) →
      ∀ file ∈ files, hasSuffix file.name ".up.sql" = true →
        ∃ m ∈ p.state.server.db.applied, m.version = file.version ∧ m.upSQL = file.content := by
  have horder := ascending_loadMigrations hdistinct
  have hinv : Inv (loadMigrations files) p :=
    h.inv (I := fun _ p => Inv (loadMigrations files) p) (inv_begin files)
      fun _ _ _ _ hinv hstep => hinv.step horder.nodup hstep
  have hinitial := hinv.ordered.initial
  refine ⟨hinv.ordered.agrees,(List.Nodup.of_map _ horder.nodup).sublist hinitial.sublist,
    horder.sorted.sublist hinitial.sublist,⟨_,horder,hinitial⟩,?_⟩
  intro i hresult file hfile hsuffix
  have hdone : (View.of (p.seen i)).done = (loadMigrations files).map (·.version) :=
    (hinv.threads i).result hresult rfl
  obtain ⟨m,hm⟩ := EmbeddedFile.exists_migration hsuffix (hnames file hfile hsuffix)
  have hmem : m ∈ loadMigrations files :=
    horder.perm.mem_iff.mpr (List.mem_filterMap.mpr ⟨file,hfile,hm⟩)
  have hrecorded := (hinv.knows i).done m.version (hdone ▸ List.mem_map_of_mem hmem)
  rw [← hinv.ordered.agrees] at hrecorded
  obtain ⟨m',hm',hversion⟩ := List.mem_map.mp hrecorded
  obtain rfl := List.inj_on_of_nodup_map horder.nodup (hinitial.subset hm') hmem hversion
  exact ⟨m',hm',(EmbeddedFile.migration_eq hm).2⟩

/-- Two migrations, out of order, and a file to be run by hand. -/
def sampleFiles : List EmbeddedFile :=
  [⟨"000002_create_status_history.up.sql","CREATE TABLE status_history (...)"⟩,
    ⟨"000001_create_work_items.down.sql","DROP TABLE work_items"⟩,
    ⟨"000001_create_work_items.up.sql","CREATE TABLE work_items (...)"⟩]

lemma trace_play (p : Runs Bool) (schedule : List Bool) :
    ∃ ls, Trace Step p ls (p.play exec schedule).2 := by
  have hrun := Pool.trace_play answers_exec (fun _ _ => true) p schedule (Pool.passes_true p schedule)
  exact ⟨_,(hrun.simulate (J := fun _ => True) id (fun l => [some l])
    (fun _ _ _ _ h => ⟨trivial,.one (Step.call h.1)⟩) trivial).2⟩

/-- A replica crashes in the transaction of the second migration, and another one goes on. -/
theorem migrations_applied_once_after_crash :
    let crashed := ((begin Bool sampleFiles).play exec (List.replicate 12 false)).2
    let restarted : Runs Bool :=
      { crashed with state := { crashed.state with server := crashed.state.server.lost 0 } }
    let final := (restarted.play exec (List.replicate 11 true)).2
    crashed.state.server.db.recorded = ["000001"] ∧
    ∃ m ∈ final.state.server.db.applied, m.version = "000002" ∧
      m.upSQL = "CREATE TABLE status_history (...)" := by
  intro crashed restarted final
  refine ⟨by decide +kernel,?_⟩
  obtain ⟨_,hfirst⟩ := trace_play (begin Bool sampleFiles) (List.replicate 12 false)
  obtain ⟨_,hsecond⟩ := trace_play restarted (List.replicate 11 true)
  have hdone : (final.thread true).result = some (.ok ()) := by decide +kernel
  have happlied : ∀ ls (p : Runs Bool), Trace Step (begin Bool sampleFiles) ls p →
      (p.thread true).result = some (.ok ()) →
      ∃ m ∈ p.state.server.db.applied, m.version = "000002" ∧
        m.upSQL = "CREATE TABLE status_history (...)" := fun _ _ hrun hdone =>
    (migrations_applied_once (by decide +kernel) (by unfold Distinct; decide +kernel) hrun).2.2.2.2
      true hdone _ (List.mem_cons_self : _ ∈ sampleFiles) (by decide +kernel)
  exact happlied _ _ ((hfirst.snoc (Step.lost 0)).append hsecond) hdone

end OpsPlatform.Migrations
