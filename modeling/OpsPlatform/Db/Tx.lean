import OpsPlatform.Go.Basic
import OpsPlatform.Interaction.Runs

/-! The db package: which connection a store method uses, and a sequence of calls run as one
transaction. -/
namespace OpsPlatform.Db
open OpsPlatform.Go Interaction Program

/-- `pgx.ErrTxClosed`. -/
def errTxClosed : Error := ⟨"tx is closed"⟩

/-- What `Querier` returns: the transaction the context carries, or the pool. -/
inductive Connection
  | pool
  | tx (tx : ℕ)

def querier (ctx : Context) : Connection :=
  match ctx.tx with
  | some tx => .tx tx
  | none => .pool

variable {Op : Type} {Res : Op → Type} {α S : Type}

/-- The calls of `pgxpool.Pool` and `pgx.Tx` that `WithTx` makes. -/
structure Pool {Op : Type} (Res : Op → Type) where
  begin : Context → Program Res Error ℕ
  commit : Context → ℕ → Program Res Error Unit
  rollback : Context → ℕ → Program Res Error Unit

/-- The end of a transaction whose function reported `err`. -/
def abandon (pool : Pool Res) (ctx : Context) (tx : ℕ) (err : Error) : Program Res Error α := do
  match ← (pool.rollback ctx tx).attempt with
  | .ok _ => fail err
  | .error rbErr =>
    if rbErr = errTxClosed then fail err
    else fail ⟨err.text ++ " (rollback also failed: " ++ rbErr.text ++ ")"⟩

/-- The end of a transaction whose function returned `a`. -/
def conclude (pool : Pool Res) (ctx : Context) (tx : ℕ) (a : α) : Program Res Error α := do
  match ← (pool.commit ctx tx).attempt with
  | .ok _ => return a
  | .error err => fail ⟨"db: commit transaction: " ++ err.text⟩

def withTx (pool : Pool Res) (ctx : Context) (fn : Context → Program Res Error α) :
    Program Res Error α := do
  match ← (pool.begin ctx).attempt with
  | .error err => fail ⟨"db: begin transaction: " ++ err.text⟩
  | .ok tx =>
    match ← (fn { ctx with tx := some tx }).attempt with
    | .error err => abandon pool ctx tx err
    | .ok a => conclude pool ctx tx a

/-- A result ends in `K`, any error in `E`. -/
def Ends (K : α → S → Prop) (E : S → Prop) : Except Error α → S → Prop
  | .ok a, t => K a t
  | .error _, t => E t

lemma Ends.imp {K K' : α → S → Prop} {E : S → Prop} {x : Except Error α} {t : S}
    (h : Ends K E x t) (hK : ∀ a, K a t → K' a t) : Ends K' E x t := by
  cases x with
  | ok a => exact hK a h
  | error err => exact h

lemma Ends.map {β : Type} {K : α → S → Prop} {K' : β → S → Prop} {E : S → Prop} {x : Except Error α}
    {t : S} {f : α → β} (h : Ends K E x t) (hK : ∀ a, K a t → K' (f a) t) : Ends K' E (x.map f) t := by
  cases x with
  | ok a => exact hK a h
  | error err => exact h

section Rules
variable {answers : (op : Op) → S → Res op → S → Prop} {pool : Pool Res} {ctx : Context} {tx : ℕ}
  {s : S} {K : α → S → Prop} {E : S → Prop}

lemma wp_abandon {err : Error} (h : (pool.rollback ctx tx).Wp answers s fun _ t => E t) :
    (abandon pool ctx tx err : Program Res Error α).Wp answers s (Ends K E) := by
  unfold abandon
  rw [wp_bind, wp_attempt]
  refine h.imp fun x t ht => ?_
  cases x with
  | ok _ => exact (wp_fail _).mpr ht
  | error rbErr =>
    dsimp only
    split_ifs
    · exact (wp_fail _).mpr ht
    · exact (wp_fail _).mpr ht

lemma wp_conclude {a : α} (h : (pool.commit ctx tx).Wp answers s (Ends (fun _ => K a) E)) :
    (conclude pool ctx tx a).Wp answers s (Ends K E) := by
  unfold conclude
  rw [wp_bind, wp_attempt]
  refine h.imp fun x t ht => ?_
  cases x with
  | ok _ => exact (wp_ret _).mpr ht
  | error err => exact (wp_fail _).mpr ht

/-- The rule of a transaction: what holds when its function is done decides how it may end. -/
theorem wp_withTx {fn : Context → Program Res Error α} {J : ℕ → Except Error α → S → Prop}
    (hbegin : (pool.begin ctx).Wp answers s
      (Ends (fun tx t => (fn { ctx with tx := some tx }).Wp answers t (J tx)) E))
    (hcommit : ∀ tx a t, J tx (.ok a) t →
      (pool.commit ctx tx).Wp answers t (Ends (fun _ => K a) E))
    (hrollback : ∀ tx err t, J tx (.error err) t →
      (pool.rollback ctx tx).Wp answers t fun _ t => E t) :
    (withTx pool ctx fn).Wp answers s (Ends K E) := by
  unfold withTx
  rw [wp_bind, wp_attempt]
  refine hbegin.imp fun x t ht => ?_
  cases x with
  | error err => exact (wp_fail _).mpr ht
  | ok tx =>
    dsimp only
    rw [wp_bind, wp_attempt]
    refine Wp.imp ht fun y u hu => ?_
    cases y with
    | error err => exact wp_abandon (hrollback tx err u hu)
    | ok a => exact wp_conclude (hcommit tx a u hu)

lemma barren_abandon (err : Error) : (abandon pool ctx tx err : Program Res Error α).Barren := by
  refine barren_attempt_bind fun x => ?_
  cases x with
  | ok _ => exact barren_fail _
  | error rbErr =>
    dsimp only
    split_ifs
    · exact barren_fail _
    · exact barren_fail _

/-- A transaction returns a result only where its beginning, its function and its commit do. -/
theorem strict_withTx {failed : (op : Op) → Res op → Prop} {fn : Context → Program Res Error α}
    (hbegin : (pool.begin ctx).Strict failed) (hfn : ∀ ctx, (fn ctx).Strict failed)
    (hcommit : ∀ tx, (pool.commit ctx tx).Strict failed) : (withTx pool ctx fn).Strict failed :=
  strict_attempt_bind hbegin
    (fun tx => strict_attempt_bind (hfn _)
      (fun _ => strict_attempt_bind (hcommit tx) (fun _ => strict_ret _) fun _ => barren_fail _)
      fun err => barren_abandon err)
    fun _ => barren_fail _

end Rules
end OpsPlatform.Db
