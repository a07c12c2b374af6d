import Mathlib.Data.List.Nodup
import Mathlib.Order.Lattice
import Mathlib.Logic.Equiv.Basic
import OpsPlatform.Go.Basic

/-! Sorting by a key a slice that comes in no particular order, as from a `range` over a map: the
outcome is determined exactly if no two entries share a key. -/
namespace OpsPlatform.Go

variable {α κ : Type} [LinearOrder κ] {key : α → κ} {l l' : List α}

/-- `sort.SliceStable` with a comparison of keys. -/
def sortByKey (key : α → κ) (l : List α) : List α :=
  sliceStable (fun a b => decide (key a < key b)) l

theorem sortByKey_perm (key : α → κ) (l : List α) : (sortByKey key l).Perm l := sliceStable_perm _ l

theorem sortByKey_sorted (key : α → κ) (l : List α) :
    (sortByKey key l).Pairwise fun a b => key a ≤ key b := by
  have hle : (sortByKey key l).Pairwise fun a b => (!decide (key b < key a)) = true := by
    refine List.pairwise_mergeSort ?_ ?_ l
    · intro a b c hab hbc
      simp only [Bool.not_eq_true', decide_eq_false_iff_not, not_lt] at hab hbc ⊢
      exact hab.trans hbc
    · intro a b
      simp only [Bool.or_eq_true, Bool.not_eq_true', decide_eq_false_iff_not, not_lt]
      exact le_total _ _
  exact hle.imp fun h => by simpa using h

theorem sortByKey_of_sorted (h : l.Pairwise fun a b => key a ≤ key b) : sortByKey key l = l :=
  sliceStable_of_pairwise (h.imp fun hab => by simpa using hab)

/-- Where keys are distinct only one sorted order is left. -/
theorem sortByKey_eq_of_perm (hperm : l'.Perm l) (hsorted : l.Pairwise fun a b => key a ≤ key b)
    (hdistinct : (l.map key).Nodup) : sortByKey key l' = l := by
  have hsame : (sortByKey key l').Perm l := (sortByKey_perm key l').trans hperm
  refine hsame.eq_of_pairwise (fun a b ha hb hab hba => ?_) (sortByKey_sorted key l') hsorted
  exact List.inj_on_of_nodup_map hdistinct (hsame.subset ha) hb (hab.antisymm hba)

/-- Two entries that trade places. -/
lemma map_swap_perm [DecidableEq α] (hnodup : l.Nodup) {a b : α} (ha : a ∈ l) (hb : b ∈ l) :
    (l.map (Equiv.swap a b)).Perm l := by
  rw [List.perm_ext_iff_of_nodup (hnodup.map (Equiv.swap a b).injective) hnodup]
  intro c
  rw [List.mem_map_of_involutive (Equiv.swap_apply_self a b), Equiv.swap_apply_def]
  split_ifs with hca hcb
  · exact iff_of_true hb (hca ▸ ha)
  · exact iff_of_true ha (hcb ▸ hb)
  · exact Iff.rfl

/-- Two entries with one key could have come the other way round. -/
theorem sortByKey_forall_perm_iff (hnodup : l.Nodup)
    (hsorted : l.Pairwise fun a b => key a ≤ key b) :
    (∀ l', l'.Perm l → sortByKey key l' = l) ↔ (l.map key).Nodup := by
  classical
  refine ⟨fun h => ?_,fun hdistinct l' hperm => sortByKey_eq_of_perm hperm hsorted hdistinct⟩
  refine List.Nodup.map_on (fun a ha b hb hkeys => ?_) hnodup
  have hkey : ∀ e, key (Equiv.swap a b e) = key e := by
    intro e
    rw [Equiv.swap_apply_def]
    split_ifs with hea heb
    · rw [hea, hkeys]
    · rw [heb, hkeys]
    · rfl
  have hswapped : (l.map (Equiv.swap a b)).Pairwise fun a b => key a ≤ key b := by
    rw [List.pairwise_map]
    exact hsorted.imp fun hle => by rwa [hkey, hkey]
  have hfixed : l.map (Equiv.swap a b) = l.map id := by
    rw [← sortByKey_of_sorted hswapped, h _ (map_swap_perm hnodup ha hb), List.map_id]
  have hhere := List.map_inj_left.mp hfixed a ha
  rw [Equiv.swap_apply_left] at hhere
  exact hhere.symm

end OpsPlatform.Go
