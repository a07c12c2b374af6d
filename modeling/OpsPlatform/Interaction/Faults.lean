import OpsPlatform.Interaction.Program

/-! Programs executed while one of their operations fails: a partial failure at any chosen point. -/
namespace Interaction.Program

variable {Op : Type} {Res : Op → Type} {ε α S : Type} (exec : (op : Op) → S → Res op × S)
  (refuse : (op : Op) → Option (Res op))

/-- Execute a program alone, but the operation numbered `k` among those that can be refused does
nothing and gets the refusal for its answer. -/
def runRefused : ℕ → Program Res ε α → S → Except ε α × S
  | _, ret a, s => (.ok a,s)
  | _, fail e, s => (.error e,s)
  | k, call op next, s =>
    match refuse op, k with
    | none, k => runRefused k (next (exec op s).1) (exec op s).2
    | some r, 0 => (next r).run exec s
    | some _, k+1 => runRefused k (next (exec op s).1) (exec op s).2

variable {refuse} (k : ℕ) (s : S)

@[simp] theorem runRefused_ret (a : α) :
    (ret a : Program Res ε α).runRefused exec refuse k s = (.ok a,s) := by
  unfold runRefused; rfl

@[simp] theorem runRefused_fail (e : ε) :
    (fail e : Program Res ε α).runRefused exec refuse k s = (.error e,s) := by
  unfold runRefused; rfl

@[simp] theorem runRefused_fromResult (r : Except ε α) :
    (fromResult r : Program Res ε α).runRefused exec refuse k s = (r,s) := by
  cases r
  · exact runRefused_fail exec k s _
  · exact runRefused_ret exec k s _

theorem runRefused_failIf_bind (c : Prop) [Decidable c] (e : ε) (f : Unit → Program Res ε α) :
    (failIf c e >>= f).runRefused exec refuse k s =
      if c then (.error e,s) else (f ()).runRefused exec refuse k s := by
  split_ifs with hc
  · rw [failIf_true hc, fail_bind, runRefused_fail]
  · rw [failIf_false hc, ret_bind]

section Call
variable {op : Op} {r : Res op} (next : Res op → Program Res ε α)

/-- An operation that cannot be refused does not count. -/
theorem runRefused_call_of_none (h : refuse op = none) :
    (call op next).runRefused exec refuse k s =
      (next (exec op s).1).runRefused exec refuse k (exec op s).2 := by
  simp only [runRefused, h]

theorem runRefused_call_zero (h : refuse op = some r) :
    (call op next).runRefused exec refuse 0 s = (next r).run exec s := by
  simp only [runRefused, h]

theorem runRefused_call_succ (h : refuse op = some r) :
    (call op next).runRefused exec refuse (k+1) s =
      (next (exec op s).1).runRefused exec refuse k (exec op s).2 := by
  simp only [runRefused, h]

end Call
end Interaction.Program
