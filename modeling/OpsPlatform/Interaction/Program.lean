import Mathlib.Logic.Function.Basic
import Mathlib.Tactic.Common

/-! Sequential programs over a signature of atomic operations. A program is the tree of the
operations it may still issue: its leaves are a returned value or a reported error. The same tree
is executed alone by `run`, or interleaved with others by a pool. -/
namespace Interaction

/-- A program issuing operations `op : Op`, each answered by a value of type `Res op`. -/
inductive Program {Op : Type} (Res : Op → Type) (ε α : Type) : Type
  | ret (a : α) : Program Res ε α
  | fail (e : ε) : Program Res ε α
  | call (op : Op) (next : Res op → Program Res ε α) : Program Res ε α

namespace Program

variable {Op : Type} {Res : Op → Type} {ε α β γ S : Type}

/-- Sequencing: an error ends the whole program. -/
protected def bind : Program Res ε α → (α → Program Res ε β) → Program Res ε β
  | ret a, f => f a
  | fail e, _ => fail e
  | call op next, f => call op fun r => (next r).bind f

instance : Monad (Program Res ε) where
  pure := ret
  bind := Program.bind

@[simp] theorem pure_eq (a : α) : (pure a : Program Res ε α) = ret a := rfl

@[simp] theorem ret_bind (a : α) (f : α → Program Res ε β) : (ret a >>= f) = f a := rfl

@[simp] theorem fail_bind (e : ε) (f : α → Program Res ε β) : (fail e >>= f) = fail e := rfl

@[simp] theorem call_bind (op : Op) (next : Res op → Program Res ε α)
    (f : α → Program Res ε β) : (call op next >>= f) = call op fun r => next r >>= f := rfl

theorem bind_ret (p : Program Res ε α) : (p >>= ret) = p := by
  induction p with
  | ret a => rfl
  | fail e => rfl
  | call op next ih => simp only [call_bind, ih]

theorem bind_assoc (p : Program Res ε α) (f : α → Program Res ε β) (g : β → Program Res ε γ) :
    (p >>= f >>= g) = (p >>= fun a => f a >>= g) := by
  induction p with
  | ret a => rfl
  | fail e => rfl
  | call op next ih => simp only [call_bind, ih]

instance : LawfulMonad (Program Res ε) :=
  LawfulMonad.mk' _ bind_ret (fun _ _ => rfl) bind_assoc

/-- A pure result that may be an error. -/
def fromResult : Except ε α → Program Res ε α
  | .ok a => ret a
  | .error e => fail e

@[simp] theorem fromResult_ok (a : α) : (fromResult (.ok a) : Program Res ε α) = ret a := rfl

@[simp] theorem fromResult_error (e : ε) : (fromResult (.error e) : Program Res ε α) = fail e := rfl

/-- An early return with error `e` when `c` holds. -/
def failIf (c : Prop) [Decidable c] (e : ε) : Program Res ε Unit :=
  if c then fail e else ret ()

theorem failIf_true {c : Prop} [Decidable c] (h : c) (e : ε) :
    (failIf c e : Program Res ε Unit) = fail e := by rw [failIf, if_pos h]

theorem failIf_false {c : Prop} [Decidable c] (h : ¬ c) (e : ε) :
    (failIf c e : Program Res ε Unit) = ret () := by rw [failIf, if_neg h]

/-- The program with its error as a value, for what follows to act on. -/
def attempt : Program Res ε α → Program Res ε (Except ε α)
  | ret a => ret (.ok a)
  | fail e => ret (.error e)
  | call op next => call op fun r => (next r).attempt

/-- Every operation the program may issue satisfies `P`, whatever the answers. -/
def Only (P : Op → Prop) : Program Res ε α → Prop
  | ret _ => True
  | fail _ => True
  | call op next => P op ∧ ∀ r, (next r).Only P

section Only
variable {P : Op → Prop}

@[simp] theorem only_ret (a : α) : (ret a : Program Res ε α).Only P := trivial

@[simp] theorem only_fail (e : ε) : (fail e : Program Res ε α).Only P := trivial

@[simp] theorem only_fromResult (r : Except ε α) : (fromResult r : Program Res ε α).Only P := by
  cases r <;> trivial

@[simp] theorem only_failIf (c : Prop) [Decidable c] (e : ε) :
    (failIf c e : Program Res ε Unit).Only P := by
  unfold failIf
  split_ifs <;> trivial

theorem only_call {op : Op} {next : Res op → Program Res ε α} (h : P op)
    (hnext : ∀ r, (next r).Only P) : (call op next).Only P := ⟨h,hnext⟩

theorem only_call_iff {op : Op} {next : Res op → Program Res ε α} :
    (call op next).Only P ↔ P op ∧ ∀ r, (next r).Only P := Iff.rfl

theorem Only.imp {P' : Op → Prop} {p : Program Res ε α} (hp : p.Only P)
    (h : ∀ op, P op → P' op) : p.Only P' := by
  induction p with
  | ret a => trivial
  | fail e => trivial
  | call op next ih => exact ⟨h op hp.1,fun r => ih r (hp.2 r)⟩

theorem only_bind {p : Program Res ε α} {f : α → Program Res ε β} (hp : p.Only P)
    (hf : ∀ a, (f a).Only P) : (p >>= f).Only P := by
  induction p with
  | ret a => exact hf a
  | fail e => trivial
  | call op next ih => exact ⟨hp.1,fun r => ih r (hp.2 r)⟩

theorem only_true (p : Program Res ε α) : p.Only fun _ => True := by
  induction p with
  | ret a => trivial
  | fail e => trivial
  | call op next ih => exact ⟨trivial,ih⟩

end Only

/-- Execute a program alone: `exec` answers each operation and updates the state. -/
def run (exec : (op : Op) → S → Res op × S) : Program Res ε α → S → Except ε α × S
  | ret a, s => (.ok a, s)
  | fail e, s => (.error e, s)
  | call op next, s => run exec (next (exec op s).1) (exec op s).2

section Run
variable (exec : (op : Op) → S → Res op × S)

@[simp] theorem run_ret (a : α) (s : S) : (ret a : Program Res ε α).run exec s = (.ok a, s) := rfl

@[simp] theorem run_fail (e : ε) (s : S) :
    (fail e : Program Res ε α).run exec s = (.error e, s) := rfl

@[simp] theorem run_call (op : Op) (next : Res op → Program Res ε α) (s : S) :
    (call op next).run exec s = (next (exec op s).1).run exec (exec op s).2 := rfl

@[simp] theorem run_fromResult (r : Except ε α) (s : S) :
    (fromResult r : Program Res ε α).run exec s = (r, s) := by cases r <;> rfl

/-- The second program starts where the first one returned; an error skips it. -/
theorem run_bind (p : Program Res ε α) (f : α → Program Res ε β) (s : S) :
    (p >>= f).run exec s =
      match p.run exec s with
      | (.ok a, t) => (f a).run exec t
      | (.error e, t) => (.error e, t) := by
  induction p generalizing s with
  | ret a => rfl
  | fail e => rfl
  | call op next ih => simp only [call_bind, run_call, ih]

theorem run_bind_ok {p : Program Res ε α} {s t : S} {a : α} (h : p.run exec s = (.ok a, t))
    (f : α → Program Res ε β) : (p >>= f).run exec s = (f a).run exec t := by
  rw [run_bind, h]

theorem run_bind_error {p : Program Res ε α} {s t : S} {e : ε} (h : p.run exec s = (.error e, t))
    (f : α → Program Res ε β) : (p >>= f).run exec s = (.error e, t) := by
  rw [run_bind, h]

/-- Operations that leave a part of the state make a program that leaves that part. -/
theorem run_frame {P : Op → Prop} {X : Type} (view : S → X)
    (hexec : ∀ op, P op → ∀ s, view (exec op s).2 = view s)
    {p : Program Res ε α} (hp : p.Only P) (s : S) : view (p.run exec s).2 = view s := by
  induction p generalizing s with
  | ret a => rfl
  | fail e => rfl
  | call op next ih =>
    rw [run_call]
    exact (ih _ (hp.2 _) _).trans (hexec op hp.1 s)

/-- Operations that keep an invariant make a program that keeps it. -/
theorem run_inv {I : S → Prop} (hexec : ∀ op s, I s → I (exec op s).2) (p : Program Res ε α) {s : S}
    (hs : I s) : I (p.run exec s).2 := by
  induction p generalizing s with
  | ret a => exact hs
  | fail e => exact hs
  | call op next ih => exact ih _ (hexec op s hs)

attribute [irreducible] Only run

/-- An early return guards everything after it. -/
theorem run_failIf_bind (c : Prop) [Decidable c] (e : ε) (f : Unit → Program Res ε β) (s : S) :
    (failIf c e >>= f).run exec s = if c then (.error e, s) else (f ()).run exec s := by
  split_ifs with h
  · rw [failIf_true h, fail_bind, run_fail]
  · rw [failIf_false h, ret_bind]

end Run
end Program
end Interaction
