import Mathlib.Data.List.Forall2
import Mathlib.Tactic.Common

/-! Lists that only grow: every entry stays in its place, where it may age, and new ones come
after it. -/
namespace Interaction

variable {α : Type} {R : α → α → Prop} {l l' l'' : List α}

/-- The entries of `l`, aged as `R` allows, and then new ones. -/
def Grows (R : α → α → Prop) (l l' : List α) : Prop :=
  ∃ kept added, l' = kept ++ added ∧ List.Forall₂ R l kept

namespace Grows

lemma of_forall₂ (h : List.Forall₂ R l l') : Grows R l l' := ⟨l',[],by simp,h⟩

lemma refl (hR : ∀ a, R a a) (l : List α) : Grows R l l :=
  of_forall₂ (List.forall₂_same.mpr fun a _ => hR a)

lemma map (f : α → α) (hf : ∀ a ∈ l, R a (f a)) : Grows R l (l.map f) := by
  refine of_forall₂ ?_
  rw [List.forall₂_map_right_iff, List.forall₂_same]
  exact hf

lemma concat (h : Grows R l l') (a : α) : Grows R l (l' ++ [a]) := by
  obtain ⟨kept,added,rfl,hkept⟩ := h
  exact ⟨kept,added ++ [a],by simp,hkept⟩

lemma trans (hR : ∀ a b c, R a b → R b c → R a c) (h : Grows R l l') (h' : Grows R l' l'') :
    Grows R l l'' := by
  obtain ⟨kept,added,rfl,hkept⟩ := h
  obtain ⟨kept',added',rfl,hkept'⟩ := h'
  obtain ⟨front,hfront,back,rfl⟩ : ∃ front, List.Forall₂ R kept front ∧ ∃ back,
      kept' = front ++ back := by
    refine ⟨kept'.take kept.length,?_,kept'.drop kept.length,by simp⟩
    have := List.forall₂_take_append kept' kept added (List.Forall₂.flip hkept')
    exact List.Forall₂.flip this
  refine ⟨front,back ++ added',by simp,?_⟩
  clear hkept'
  induction hkept generalizing front with
  | nil => cases hfront; exact .nil
  | cons hab _ ih =>
    cases hfront with
    | cons hbc hrest => exact .cons (hR _ _ _ hab hbc) (ih _ hrest)

end Grows
end Interaction
