import Mathlib.Data.List.Induction
import Mathlib.Tactic.Common

/-! A register for a value that may be used once. Labels of a run put a value into it or use the
one it holds; using it empties it. -/
namespace Interaction.OneTime

variable {L C : Type} (put : L → Option C) (spend : L → Bool)

/-- The value in the register after one label. -/
def next (held : Option C) (l : L) : Option C :=
  match put l with
  | some c => some c
  | none => if spend l then none else held

/-- The value in the register after these labels. -/
def held (first : Option C) (ls : List L) : Option C := ls.foldl (next put spend) first

/-- The value put in last, used or not. -/
def latest (first : Option C) (ls : List L) : Option C :=
  ls.foldl (fun c l => (put l).or c) first

@[simp] theorem held_concat (first : Option C) (ls : List L) (l : L) :
    held put spend first (ls ++ [l]) = next put spend (held put spend first ls) l := by
  simp [held]

@[simp] theorem latest_concat (first : Option C) (ls : List L) (l : L) :
    latest put first (ls ++ [l]) = (put l).or (latest put first ls) := by
  simp [latest]

variable {put spend} {first : Option C} {c : C}

/-- What the register holds is what was put in last. -/
theorem latest_of_held {ls : List L} (h : held put spend first ls = some c) :
    latest put first ls = some c := by
  induction ls using List.reverseRecOn with
  | nil => exact h
  | append_singleton ls l ih =>
    rw [held_concat, next] at h
    rw [latest_concat]
    cases hput : put l with
    | some c' => simpa [hput] using h
    | none =>
      rw [hput] at h
      split_ifs at h
      simpa using ih h

/-- A register that holds a value has been filled since it was last used. -/
theorem put_since_spend {before after : List L} {l : L} (hspend : spend l = true)
    (hnone : put l = none) (h : held put spend first (before ++ l :: after) = some c) :
    ∃ m ∈ after, (put m).isSome := by
  induction after using List.reverseRecOn generalizing c with
  | nil =>
    rw [held_concat, next, hnone, if_pos hspend] at h
    cases h
  | append_singleton after m ih =>
    rw [← List.cons_append, ← List.append_assoc, held_concat, next] at h
    cases hput : put m with
    | some c' => exact ⟨m,by simp,by rw [hput]; rfl⟩
    | none =>
      rw [hput] at h
      split_ifs at h
      obtain ⟨m',hm',hsome⟩ := ih h
      exact ⟨m',by simp [hm'],hsome⟩

end Interaction.OneTime
