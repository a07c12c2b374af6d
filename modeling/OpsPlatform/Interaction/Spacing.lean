import Mathlib.Data.List.Induction
import Mathlib.Algebra.Order.Ring.Int
import Mathlib.Tactic.Common
import Mathlib.Tactic.Ring

/-! Instants of which all but the first few come at a distance from everything before them. -/
namespace Interaction

/-- From the `k`-th on, each instant comes at least `d` after all earlier ones. -/
inductive Spaced (k : ℕ) (d : ℤ) : List ℤ → Prop
  | nil : Spaced k d []
  | concat {ts : List ℤ} {t : ℤ} (h : Spaced k d ts) (hlast : k ≤ ts.length → ∀ s ∈ ts, s+d ≤ t) :
      Spaced k d (ts ++ [t])

/-- The instants in a closed interval. -/
def within (a b : ℤ) (ts : List ℤ) : List ℤ := ts.filter fun t => a ≤ t ∧ t ≤ b

namespace Spaced
variable {k : ℕ} {d : ℤ} {ts : List ℤ}

lemma length_within_le (a b : ℤ) (ts : List ℤ) : (within a b ts).length ≤ ts.length :=
  List.length_filter_le _ _

/-- Instants that all end at `c` fill no more of an interval than its part up to `c`. -/
lemma within_eq_of_le {a b c : ℤ} (h : ∀ t ∈ ts, t ≤ c) (hcb : c ≤ b) :
    within a b ts = within a c ts := by
  apply List.filter_congr
  intro t ht
  have := h t ht
  rw [decide_eq_decide]
  omega

/-- An interval of length `w` holds the first `k` instants and one more for each `d` in `w`. -/
theorem length_within (hk : 0 < k) (hd : 0 < d) (h : Spaced k d ts) {w : ℤ} (hw : 0 ≤ w) (a : ℤ) :
    ((within a (a+w) ts).length : ℤ) ≤ k + w/d := by
  induction h generalizing w with
  | nil =>
    have := Int.ediv_nonneg hw hd.le
    simp [within]; omega
  | @concat ts t h hlast ih =>
    by_cases ht : a ≤ t ∧ t ≤ a+w
    · have hlength : (within a (a+w) (ts ++ [t])).length = (within a (a+w) ts).length+1 := by
        simp [within, ht]
      rw [hlength]
      by_cases hfew : ts.length < k
      · have := length_within_le a (a+w) ts
        have := Int.ediv_nonneg hw hd.le
        omega
      -- every earlier instant lies in the interval shortened by `d`
      have hearly : ∀ s ∈ ts, s ≤ a+(w-d) := by
        intro s hs
        have := hlast (not_lt.mp hfew) s hs
        omega
      rw [within_eq_of_le hearly (by omega)]
      by_cases hwide : d ≤ w
      · have hshift : (w-d)/d = w/d-1 := by
          have := Int.add_mul_ediv_right w (-1) hd.ne'
          rw [neg_one_mul, ← sub_eq_add_neg] at this
          rw [this]; ring
        have := ih (by omega : 0 ≤ w-d)
        push_cast
        omega
      · have hnone : within a (a+(w-d)) ts = [] := by
          rw [within, List.filter_eq_nil_iff]
          intro s _
          simp only [decide_eq_true_eq]
          omega
        have := Int.ediv_nonneg hw hd.le
        rw [hnone]
        simp; omega
    · have hsame : within a (a+w) (ts ++ [t]) = within a (a+w) ts := by simp [within, ht]
      rw [hsame]
      exact ih hw

end Spaced
end Interaction
