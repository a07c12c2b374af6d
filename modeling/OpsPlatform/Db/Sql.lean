import Mathlib.Data.List.Perm.Basic
import OpsPlatform.Go.Basic

/-! What the Postgres stores take from SQL: the text of a number, the violation of a unique
constraint, and rows in the order of a column. -/
namespace OpsPlatform.Db.Sql
open OpsPlatform.Go

/-- `n::text`. -/
def text (n : ℕ) : String := String.ofList (Nat.toDigits 10 n)

/-- `lpad(s, length, fill)`: a text that is too long loses its end. -/
def lpad (s : String) (length : ℕ) (fill : Char) : String :=
  if s.length < length then String.ofList (List.replicate (length - s.length) fill) ++ s
  else String.ofList (s.toList.take length)

/-- `stem || lpad(n::text, greatest(length(n::text), 4), '0')`. -/
def numbered (stem : String) (n : ℕ) : String :=
  stem ++ lpad (text n) (max (text n).length 4) '0'

/-- The length asked for is never too short, so nothing is cut off. -/
theorem numbered_eq (stem : String) (n : ℕ) : numbered stem n = sprintf04d stem n := by
  rw [numbered, sprintf04d, lpad]
  split_ifs with hshort
  · have hlength : (text n).length = (Nat.toDigits 10 n).length := by simp [text]
    rw [hlength] at hshort ⊢
    rw [max_eq_right (by omega), text, ← String.ofList_append, List.leftpad]
  · have hlength : (text n).length = (Nat.toDigits 10 n).length := by simp [text]
    rw [hlength] at hshort ⊢
    rw [max_eq_left (by omega), text, String.toList_ofList, List.take_length, List.leftpad,
      Nat.sub_eq_zero_of_le (by omega), List.replicate_zero, List.nil_append]

/-- `nullif(s, t)`. -/
def nullif (s t : String) : Option String := if s = t then none else some s

/-- A text that is read back with the zero value for NULL. -/
@[simp] theorem getD_nullif (s t : String) : (nullif s t).getD t = s := by
  rw [nullif]
  split_ifs with h
  · exact h.symm
  · rfl

/-- The error of a row that a unique constraint refuses. -/
def uniqueViolation (constraint : String) : Error :=
  ⟨"ERROR: duplicate key value violates unique constraint \"" ++ constraint ++
    "\" (SQLSTATE 23505)"⟩

/-- The error of a row that refers to none. -/
def foreignKeyViolation (table constraint : String) : Error :=
  ⟨"ERROR: insert or update on table \"" ++ table ++ "\" violates foreign key constraint \"" ++
    constraint ++ "\" (SQLSTATE 23503)"⟩

section OrderBy
variable {Row : Type} {before : Row → Row → Prop} {rows result : List Row}

/-- What `ORDER BY` may return: all rows, none in front of one that belongs before it. -/
structure OrderedBy (before : Row → Row → Prop) (rows result : List Row) : Prop where
  perm : result.Perm rows
  sorted : result.Pairwise fun a b => ¬ before b a

/-- Where the order tells all rows apart there is one such list. -/
theorem OrderedBy.eq {other : List Row} (h : OrderedBy before rows result)
    (h' : OrderedBy before rows other)
    (hapart : ∀ a ∈ rows, ∀ b ∈ rows, ¬ before a b → ¬ before b a → a = b) : result = other := by
  have hanti : ∀ a b, a ∈ result → b ∈ other → ¬ before b a → ¬ before a b → a = b := by
    intro a b ha hb hba hab
    exact hapart a (h.perm.mem_iff.mp ha) b (h'.perm.mem_iff.mp hb) hab hba
  exact List.Perm.eq_of_pairwise hanti h.sorted h'.sorted (h.perm.trans h'.perm.symm)

/-- Sorting is one way to answer. -/
theorem orderedBy_sliceStable (less : Row → Row → Bool)
    (htrans : ∀ a b c, less b a = false → less c b = false → less c a = false)
    (htotal : ∀ a b, less a b = false ∨ less b a = false) (rows : List Row) :
    OrderedBy (fun a b => less a b = true) rows (sliceStable less rows) := by
  refine ⟨sliceStable_perm less rows,?_⟩
  have hsorted : (rows.mergeSort fun a b => !less b a).Pairwise fun a b => !less b a :=
    List.pairwise_mergeSort (by simpa using htrans) (by simpa [or_comm] using htotal) rows
  simpa [sliceStable] using hsorted

end OrderBy
section Update
variable {Row : Type} (key : Row → String) {set : Row → Row} (hset : ∀ row, key (set row) = key row)
include hset

/-- An `UPDATE` of the rows with one key changes what is found under this key only. -/
lemma find?_update (rows : List Row) (k id : String) :
    ((rows.map fun row => if key row = k then set row else row).find? fun row => key row = id) =
      if id = k then (rows.find? fun row => key row = id).map set
      else rows.find? fun row => key row = id := by
  induction rows with
  | nil => simp
  | cons row rows ih =>
    rw [List.map_cons]
    by_cases hrow : key row = id
    · by_cases hid : id = k
      · rw [List.find?_cons_of_pos (by simp [hrow, hid, hset]), List.find?_cons_of_pos (by simpa using hrow),
          if_pos hid, if_pos (hrow.trans hid)]
        rfl
      · rw [List.find?_cons_of_pos (by simp [hrow, hid]), List.find?_cons_of_pos (by simpa using hrow),
          if_neg hid, if_neg (hrow ▸ hid)]
    · have hkept : ¬ key (if key row = k then set row else row) = id := by
        split_ifs
        · rwa [hset]
        · exact hrow
      rw [List.find?_cons_of_neg (by simpa using hkept), List.find?_cons_of_neg (by simpa using hrow), ih]

end Update
end OpsPlatform.Db.Sql
