import Mathlib.Data.List.Sort
import Mathlib.Data.String.Basic
import OpsPlatform.Db.Session
import OpsPlatform.Interaction.Pool

/-! `Migrate`: the embedded files in the order of their versions, each applied and recorded in one
transaction, under an advisory lock of the run's own connection. -/
namespace OpsPlatform.Migrations
open OpsPlatform.Go Interaction Program
open OpsPlatform.Db (Statement Server Executes)

/-- A file of the embedded directory. -/
structure EmbeddedFile where
  name : String
  content : String

structure Migration where
  version : String
  name : String
  upSQL : String
  deriving DecidableEq

/-- `strings.HasSuffix(s, suffix)`. -/
def hasSuffix (s suffix : String) : Bool := suffix.toList.isSuffixOf s.toList

/-- `strings.TrimSuffix(s, suffix)`. -/
def trimSuffix (s suffix : String) : String :=
  if hasSuffix s suffix then String.ofList (s.toList.take (s.length-suffix.length)) else s

/-- `strings.Cut(s, sep)` for a separator of one character. -/
def cut (s : String) (sep : Char) : Option (String × String) :=
  if sep ∈ s.toList then
    some (String.ofList (s.toList.takeWhile (· ≠ sep)),
      String.ofList ((s.toList.dropWhile (· ≠ sep)).drop 1))
  else none

/-- The text before the first underscore of the name. -/
def EmbeddedFile.version (file : EmbeddedFile) : String :=
  String.ofList (file.name.toList.takeWhile (· ≠ '_'))

/-- The body of the loop of `loadMigrations`. -/
def EmbeddedFile.migration (file : EmbeddedFile) : Option Migration :=
  if hasSuffix file.name ".up.sql" then
    (cut file.name '_').map fun (version,rest) =>
      ⟨version,trimSuffix rest ".up.sql",file.content⟩
  else none

/-- `sort.Slice` leaves the order of equal versions open. -/
def loadMigrations (files : List EmbeddedFile) : List Migration :=
  (files.filterMap EmbeddedFile.migration).insertionSort fun a b => a.version ≤ b.version

/-- What the statements of a run may write. -/
inductive Write
  | createTable
  | script (m : Migration)
  | insert (version : String)
  deriving DecidableEq

/-- The database as far as a run is concerned: whether `schema_migrations` is there, the versions in
it, and the migrations whose SQL has taken effect, both in the order they came. -/
structure Database where
  table : Bool
  recorded : List String
  applied : List Migration

/-- The table has the version as its primary key. -/
def Write.apply : Write → Database → Option Database
  | .createTable, db => some { db with table := true }
  | .script m, db => some { db with applied := db.applied ++ [m] }
  | .insert version, db =>
    if db.table ∧ version ∉ db.recorded then some { db with recorded := db.recorded ++ [version] }
    else none

/-- The calls of a run on the pool and on its connection. -/
inductive Op
  | acquire
  | exec (conn : ℕ) (stmt : Statement Write)
  | selectExists (conn : ℕ) (version : String)
  | release (conn : ℕ)

abbrev Op.Res : Op → Type
  | .acquire => Except Error ℕ
  | .exec _ _ => Except Error Unit
  | .selectExists _ _ => Except Error Bool
  | .release _ => Unit

abbrev M (α : Type) := Program Op.Res Error α

def migrationLockKey : ℕ := 8675309

/-- `fmt.Errorf(what + ": %w", err)`. -/
def wrap (what : String) (err : Error) : Error := ⟨what ++ ": " ++ err.text⟩

/-- A statement whose error ends the run. -/
def execute (conn : ℕ) (stmt : Statement Write) (what : String) : M Unit :=
  call (.exec conn stmt) fun r => fromResult (r.mapError (wrap what))

/-- A write of a transaction, which its error rolls back; that of the rollback is ignored. -/
def executeTx (conn : ℕ) (w : Write) (what : String) : M Unit :=
  call (.exec conn (.write w)) fun
    | .ok _ => ret ()
    | .error err => call (.exec conn .rollback) fun _ => fail (wrap what err)

/-- The loop of `Migrate`. -/
def applyMigrations (conn : ℕ) : List Migration → M Unit
  | [] => ret ()
  | m :: rest => do
    let alreadyApplied ← call (.selectExists conn m.version) fun r =>
      fromResult (r.mapError (wrap ("db: check migration " ++ m.version)))
    if alreadyApplied then applyMigrations conn rest
    else do
      execute conn .begin ("db: begin migration " ++ m.version)
      executeTx conn (.script m) ("db: apply migration " ++ m.version ++ " (" ++ m.name ++ ")")
      executeTx conn (.insert m.version) ("db: record migration " ++ m.version)
      execute conn .commit ("db: commit migration " ++ m.version)
      applyMigrations conn rest

/-- `Migrate` from the lock to the deferred unlock, whose error is ignored. -/
def migrateLocked (conn : ℕ) (files : List EmbeddedFile) : M Unit := do
  execute conn (.advisoryLock migrationLockKey) "db: acquire migration lock"
  let out ← (do
    execute conn (.write .createTable) "db: create schema_migrations"
    applyMigrations conn (loadMigrations files) : M Unit).attempt
  call (.exec conn (.advisoryUnlock migrationLockKey)) fun _ => fromResult out

def migrate (files : List EmbeddedFile) : M Unit := do
  let conn ← call .acquire fun r =>
    fromResult (r.mapError (wrap "db: acquire migration connection"))
  let out ← (migrateLocked conn files).attempt
  call (.release conn) fun _ => fromResult out

/-- The server, and the connections the pools have handed out. -/
structure State where
  server : Server Database Write
  taken : ℕ → Bool

/-- A database nobody has migrated yet. -/
def State.initial : State := ⟨⟨⟨false,[],[]⟩,fun _ => none,fun _ => ⟨true,none⟩⟩,fun _ => false⟩

/-- What a call may get. Any statement may fail; a connection that comes back with its transaction
still open is not handed out again. -/
inductive Answers : (op : Op) → State → op.Res → State → Prop
  | acquired {s : State} {conn : ℕ} (free : s.taken conn = false)
      (idle : (s.server.session conn).tx = none) :
      Answers .acquire s (.ok conn) { s with taken := Function.update s.taken conn true }
  | unavailable {s : State} (err : Error) : Answers .acquire s (.error err) s
  | exec {s : State} {conn : ℕ} {stmt : Statement Write} {r : Except Error Unit}
      {t : Server Database Write} (h : Executes Write.apply conn stmt s.server r t) :
      Answers (.exec conn stmt) s r { s with server := t }
  | selected {s : State} {conn : ℕ} {db : Database} (version : String)
      (alive : (s.server.session conn).alive = true)
      (view : s.server.view Write.apply conn = some db) (table : db.table = true) :
      Answers (.selectExists conn version) s (.ok (decide (version ∈ db.recorded))) s
  | unread {s : State} {conn : ℕ} (version : String) (err : Error) :
      Answers (.selectExists conn version) s (.error err) s
  | released {s : State} (conn : ℕ) :
      Answers (.release conn) s ()
        { s with taken := Function.update s.taken conn (s.server.session conn).tx.isSome }

/-- The calls where nothing fails and few connections are needed. -/
def exec : (op : Op) → State → op.Res × State
  | .acquire, s =>
    match (List.range 8).find? fun conn => !s.taken conn && (s.server.session conn).tx.isNone with
    | some conn => (.ok conn,{ s with taken := Function.update s.taken conn true })
    | none => (.error ⟨"no connection"⟩,s)
  | .exec conn stmt, s =>
    if (s.server.session conn).alive then
      match s.server.process Write.apply conn stmt with
      | some server => (.ok (),{ s with server })
      | none => (.error ⟨"statement failed"⟩,s)
    else (.error ⟨"connection lost"⟩,s)
  | .selectExists conn version, s =>
    if (s.server.session conn).alive then
      match s.server.view Write.apply conn with
      | some db =>
        if db.table then (.ok (decide (version ∈ db.recorded)),s)
        else (.error ⟨"no such table"⟩,s)
      | none => (.error ⟨"statement failed"⟩,s)
    else (.error ⟨"connection lost"⟩,s)
  | .release conn, s =>
    ((),{ s with taken := Function.update s.taken conn (s.server.session conn).tx.isSome })

theorem answers_exec (op : Op) (s : State) : Answers op s (exec op s).1 (exec op s).2 := by
  cases op with
  | acquire =>
    simp only [exec]
    split
    · rename_i conn hfound
      obtain ⟨hfree,hidle⟩ : s.taken conn = false ∧ (s.server.session conn).tx = none := by
        simpa using List.find?_some hfound
      exact .acquired hfree hidle
    · exact .unavailable _
  | exec conn stmt =>
    simp only [exec]
    split_ifs with halive
    · split
      · rename_i server hprocess
        exact .exec (.done halive hprocess)
      · exact .exec (.failed _)
    · exact .exec (.failed _)
  | selectExists conn version =>
    simp only [exec]
    split_ifs with halive
    · split
      · rename_i db hview
        split_ifs with htable
        · exact .selected version halive hview htable
        · exact .unread version _
      · exact .unread version _
    · exact .unread version _
  | release conn => exact .released conn

/-- The runs under way in all replicas. -/
abbrev Runs (ι : Type) := Pool ι Op.Res Error Unit State

/-- All runs at their beginning; one that is never to make a step has not been started. -/
def begin (ι : Type) (files : List EmbeddedFile) : Runs ι := .start .initial fun _ => migrate files

/-- One call of one run, or the end of a session: its run has crashed or lost the connection. -/
inductive Step {ι : Type} [DecidableEq ι] (p : Runs ι) :
    Option (ι × Event Op.Res) → Runs ι → Prop
  | call {l : ι × Event Op.Res} {q : Runs ι} (h : Pool.Step Answers p l q) : Step p (some l) q
  | lost (conn : ℕ) :
      Step p none { p with state := { p.state with server := p.state.server.lost conn } }

end OpsPlatform.Migrations
