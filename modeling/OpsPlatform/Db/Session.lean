import Mathlib.Logic.Function.Basic
import Mathlib.Tactic.Common
import OpsPlatform.Go.Basic

/-! The sessions of a database server. A write takes effect at once or, in a transaction, when this
commits; an advisory lock belongs to a session until that gives it back or ends. -/
namespace OpsPlatform.Db
open OpsPlatform.Go

/-- A statement; `W` are the statements that write. -/
inductive Statement (W : Type)
  | advisoryLock (key : ℕ)
  | advisoryUnlock (key : ℕ)
  | begin
  | commit
  | rollback
  | write (w : W)
  deriving DecidableEq

structure Session (W : Type) where
  alive : Bool
  /-- What the open transaction has written so far. -/
  tx : Option (List W)

/-- A lock and how often its session has taken it. -/
structure Hold where
  conn : ℕ
  times : ℕ

/-- A server with a database `D`; a session is named by its connection. -/
structure Server (D W : Type) where
  db : D
  locks : ℕ → Option Hold
  session : ℕ → Session W

variable {D W : Type} (apply : W → D → Option D)

/-- Writes in their order, none where one of them is refused. -/
def applyAll (ws : List W) (db : D) : Option D := ws.foldlM (fun db w => apply w db) db

namespace Server
variable (s : Server D W) (conn : ℕ)

def setTx (tx : Option (List W)) : Server D W :=
  { s with session := Function.update s.session conn ⟨(s.session conn).alive,tx⟩ }

/-- The database as a session sees it. -/
def view : Option D := applyAll apply ((s.session conn).tx.getD []) s.db

/-- What the server makes of a statement; none where it refuses it or lets it wait. -/
def process : Statement W → Option (Server D W)
  | .advisoryLock key =>
    match s.locks key with
    | none => some { s with locks := Function.update s.locks key (some ⟨conn,1⟩) }
    | some hold =>
      if hold.conn = conn then
        some { s with locks := Function.update s.locks key (some ⟨conn,hold.times+1⟩) }
      else none
  | .advisoryUnlock key =>
    match s.locks key with
    | none => some s
    | some hold =>
      if hold.conn = conn then
        let rest := if hold.times ≤ 1 then none else some ⟨conn,hold.times-1⟩
        some { s with locks := Function.update s.locks key rest }
      else some s
  | .begin => some (s.setTx conn (some ((s.session conn).tx.getD [])))
  | .commit =>
    match (s.session conn).tx with
    | none => some s
    | some ws => (applyAll apply ws s.db).map fun db => { s.setTx conn none with db }
  | .rollback => some (s.setTx conn none)
  | .write w =>
    match (s.session conn).tx with
    | none => (apply w s.db).map fun db => { s with db }
    | some ws => (applyAll apply (ws ++ [w]) s.db).map fun _ => s.setTx conn (some (ws ++ [w]))

/-- A session ends: its transaction is gone and its locks are free. -/
def lost : Server D W where
  db := s.db
  locks key := (s.locks key).filter fun hold => hold.conn ≠ conn
  session := Function.update s.session conn ⟨false,none⟩

/-- A session has the lock. -/
def Holds (key : ℕ) : Prop := ∃ times, s.locks key = some ⟨conn,times⟩

end Server

/-- How a statement may end: with a reply; without one, whether it was processed or not. -/
inductive Executes (conn : ℕ) (stmt : Statement W) (s : Server D W) :
    Except Error Unit → Server D W → Prop
  | done {t : Server D W} (alive : (s.session conn).alive = true)
      (processed : s.process apply conn stmt = some t) : Executes conn stmt s (.ok ()) t
  | unheard {t : Server D W} (err : Error) (alive : (s.session conn).alive = true)
      (processed : s.process apply conn stmt = some t) : Executes conn stmt s (.error err) t
  | failed (err : Error) : Executes conn stmt s (.error err) s

/-- What the sessions other than `conn` see of a change: at most the database. -/
structure Server.SameBut (conn : ℕ) (s t : Server D W) : Prop where
  session : ∀ c ≠ conn, t.session c = s.session c
  holds : ∀ c ≠ conn, ∀ key, s.Holds c key → t.Holds c key

section Rules
variable {apply} {s t : Server D W} {conn : ℕ}

lemma Server.SameBut.refl (conn : ℕ) (s : Server D W) : SameBut conn s s :=
  ⟨fun _ _ => rfl,fun _ _ _ h => h⟩

@[simp] lemma Server.session_setTx (tx : Option (List W)) (c : ℕ) :
    (s.setTx conn tx).session c =
      if c = conn then ⟨(s.session conn).alive,tx⟩ else s.session c := Function.update_apply _ _ _ _

@[simp] lemma Server.holds_setTx (tx : Option (List W)) (c key : ℕ) :
    (s.setTx conn tx).Holds c key ↔ s.Holds c key := Iff.rfl

lemma Server.sameBut_setTx (tx : Option (List W)) : SameBut conn s (s.setTx conn tx) :=
  ⟨fun c hc => by rw [session_setTx, if_neg hc],fun _ _ _ h => h⟩

/-- Two sessions never have the same lock. -/
lemma Server.Holds.eq {c key : ℕ} (h : s.Holds conn key) (h' : s.Holds c key) : c = conn := by
  obtain ⟨_,h⟩ := h
  obtain ⟨_,h'⟩ := h'
  rw [h] at h'
  cases h'
  rfl

/-- A change of the locks that touches only one that `conn` has or that is free. -/
lemma Server.sameBut_locks {key : ℕ} (hmine : ∀ c ≠ conn, ¬ s.Holds c key) (hold : Option Hold) :
    SameBut conn s { s with locks := Function.update s.locks key hold } := by
  refine ⟨fun _ _ => rfl,fun c hc k hk => ?_⟩
  have hkey : k ≠ key := by
    rintro rfl
    exact hmine c hc hk
  obtain ⟨times,htimes⟩ := hk
  exact ⟨times,(Function.update_of_ne hkey _ _).trans htimes⟩

lemma Server.not_holds_of_none {key : ℕ} (h : s.locks key = none) (c : ℕ) : ¬ s.Holds c key := by
  rintro ⟨_,hc⟩
  rw [h] at hc
  cases hc

/-- What a statement may do: change a lock nobody else has, or the transaction and the database. -/
theorem Server.process_cases {stmt : Statement W} (h : s.process apply conn stmt = some t) :
    (∃ key hold, (∀ c ≠ conn, ¬ s.Holds c key) ∧
      t = { s with locks := Function.update s.locks key hold }) ∨
    ∃ tx db, t = { s.setTx conn tx with db } := by
  have hsame : s = { s.setTx conn (s.session conn).tx with db := s.db } := by simp [setTx]
  cases stmt with
  | advisoryLock key =>
    simp only [process] at h
    split at h
    · rename_i hfree
      exact .inl ⟨key,_,fun c _ => not_holds_of_none hfree c,(Option.some.inj h).symm⟩
    · rename_i hold hheld
      split_ifs at h with hconn
      subst hconn
      exact .inl ⟨key,_,fun c hc hother => hc (Holds.eq ⟨_,hheld⟩ hother),(Option.some.inj h).symm⟩
  | advisoryUnlock key =>
    simp only [process] at h
    split at h
    · exact .inr ⟨_,_,(Option.some.inj h).symm.trans hsame⟩
    · rename_i hold hheld
      by_cases hconn : hold.conn = conn
      · subst hconn
        rw [if_pos rfl] at h
        exact .inl ⟨key,_,fun c hc hother => hc (Holds.eq ⟨_,hheld⟩ hother),(Option.some.inj h).symm⟩
      · rw [if_neg hconn] at h
        exact .inr ⟨_,_,(Option.some.inj h).symm.trans hsame⟩
  | begin | rollback => exact .inr ⟨_,s.db,(Option.some.inj h).symm⟩
  | commit =>
    simp only [process] at h
    split at h
    · exact .inr ⟨_,_,(Option.some.inj h).symm.trans hsame⟩
    · obtain ⟨db,_,rfl⟩ := Option.map_eq_some_iff.mp h
      exact .inr ⟨none,db,rfl⟩
  | write w =>
    simp only [process] at h
    split at h
    · obtain ⟨db,_,rfl⟩ := Option.map_eq_some_iff.mp h
      exact .inr ⟨(s.session conn).tx,db,by simp [setTx]⟩
    · obtain ⟨_,_,rfl⟩ := Option.map_eq_some_iff.mp h
      exact .inr ⟨_,s.db,rfl⟩

/-- The database changes only by a commit, or by a write outside a transaction. -/
theorem Server.db_process {stmt : Statement W} (h : s.process apply conn stmt = some t) :
    t.db = s.db ∨
    (stmt = .commit ∧ ∃ ws, (s.session conn).tx = some ws ∧ applyAll apply ws s.db = some t.db) ∨
    ∃ w, stmt = .write w ∧ (s.session conn).tx = none ∧ apply w s.db = some t.db := by
  cases stmt with
  | advisoryLock key =>
    simp only [process] at h
    split at h
    · cases h; exact .inl rfl
    · split_ifs at h
      cases h; exact .inl rfl
  | advisoryUnlock key =>
    simp only [process] at h
    split at h
    · cases h; exact .inl rfl
    · split at h
      · cases h; exact .inl rfl
      · cases h; exact .inl rfl
  | begin | rollback => cases h; exact .inl rfl
  | commit =>
    simp only [process] at h
    split at h
    · cases h; exact .inl rfl
    · rename_i ws htx
      obtain ⟨db,hdb,rfl⟩ := Option.map_eq_some_iff.mp h
      exact .inr (.inl ⟨rfl,ws,htx,hdb⟩)
  | write w =>
    simp only [process] at h
    split at h
    · rename_i htx
      obtain ⟨db,hdb,rfl⟩ := Option.map_eq_some_iff.mp h
      exact .inr (.inr ⟨w,rfl,htx,hdb⟩)
    · obtain ⟨_,_,rfl⟩ := Option.map_eq_some_iff.mp h
      exact .inl rfl

lemma Server.process_advisoryLock {key : ℕ} (h : s.process apply conn (.advisoryLock key) = some t) :
    t.Holds conn key ∧ t.session = s.session ∧ t.db = s.db := by
  simp only [process] at h
  split at h
  · cases h
    exact ⟨⟨1,Function.update_self _ _ _⟩,rfl,rfl⟩
  · rename_i hold _
    split_ifs at h
    cases h
    exact ⟨⟨hold.times+1,Function.update_self _ _ _⟩,rfl,rfl⟩

lemma Server.locks_of_commit (h : s.process apply conn .commit = some t) : t.locks = s.locks := by
  simp only [process] at h
  split at h
  · cases h; rfl
  · obtain ⟨_,_,rfl⟩ := Option.map_eq_some_iff.mp h
    rfl

/-- The frame of a statement: the sessions of others. -/
theorem Server.sameBut_process {stmt : Statement W} (h : s.process apply conn stmt = some t) :
    SameBut conn s t := by
  obtain ⟨key,hold,hmine,rfl⟩ | ⟨tx,db,rfl⟩ := process_cases h
  · exact sameBut_locks hmine hold
  · exact ⟨(sameBut_setTx tx).session,(sameBut_setTx tx).holds⟩

theorem Executes.sameBut {stmt : Statement W} {r : Except Error Unit}
    (h : Executes apply conn stmt s r t) : Server.SameBut conn s t := by
  cases h with
  | done _ h | unheard _ _ h => exact Server.sameBut_process h
  | failed => exact .refl conn s

lemma Server.sameBut_lost : SameBut conn s (s.lost conn) := by
  refine ⟨fun c hc => Function.update_of_ne hc _ _,fun c hc key hheld => ?_⟩
  obtain ⟨times,hheld⟩ := hheld
  refine ⟨times,?_⟩
  simp [lost, hheld, hc]

@[simp] lemma Server.session_lost : (s.lost conn).session conn = ⟨false,none⟩ :=
  Function.update_self _ _ _

end Rules
end OpsPlatform.Db
