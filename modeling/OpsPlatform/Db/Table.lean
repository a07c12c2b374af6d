import Mathlib.Data.List.Nodup
import OpsPlatform.Db.Sql

/-! A table whose rows are numbered by a sequence, under unique indexes. Its rows always satisfy
them: a statement that would break one is refused, and leaves the rows as they were. -/
namespace OpsPlatform.Db
open OpsPlatform.Go

/-- `CREATE UNIQUE INDEX name ON table (key) WHERE covers`. -/
structure UniqueIndex (Row : Type) where
  name : String
  key : Row → String
  covers : Row → Bool

/-- A table of rows with ids `stem0001`, `stem0002` and so on for a primary key. -/
structure Schema (Row : Type) where
  stem : String
  id : Row → String
  primaryKey : String
  indexes : List (UniqueIndex Row)

variable {Row : Type}

namespace UniqueIndex

/-- No two of the rows it covers have the same key. -/
def Holds (ix : UniqueIndex Row) (rows : List Row) : Prop :=
  ((rows.filter ix.covers).map ix.key).Nodup

instance (ix : UniqueIndex Row) (rows : List Row) : Decidable (ix.Holds rows) :=
  inferInstanceAs (Decidable (List.Nodup _))

variable {ix : UniqueIndex Row} {rows : List Row} {row : Row}

/-- One more row needs a key that is not taken. -/
lemma holds_concat : ix.Holds (rows ++ [row]) ↔ ix.Holds rows ∧
    (ix.covers row = true → ∀ old ∈ rows, ix.covers old = true → ix.key old ≠ ix.key row) := by
  cases hcovers : ix.covers row with
  | false => simp [Holds, hcovers]
  | true =>
    rw [Holds, List.filter_append, List.map_append, List.nodup_append,
      List.filter_cons_of_pos hcovers, List.filter_nil, List.map_singleton]
    simp only [List.nodup_singleton, true_and, List.forall_mem_singleton, List.forall_mem_map,
      List.mem_filter, and_imp, forall_const, Holds]

lemma Holds.eq (h : ix.Holds rows) {a b : Row} (ha : a ∈ rows) (hb : b ∈ rows)
    (hcovered : ix.covers a = true) (hcovered' : ix.covers b = true) (hkey : ix.key a = ix.key b) :
    a = b :=
  List.inj_on_of_nodup_map h (List.mem_filter.mpr ⟨ha,hcovered⟩) (List.mem_filter.mpr ⟨hb,hcovered'⟩)
    hkey

/-- Rows that keep their keys, or are no longer covered, break nothing. -/
lemma Holds.map (h : ix.Holds rows) {set : Row → Row}
    (hset : ∀ row ∈ rows, set row = row ∨ ix.covers (set row) = false) : ix.Holds (rows.map set) := by
  rw [Holds] at *
  have hsub : ((rows.map set).filter ix.covers).Sublist (rows.filter ix.covers) := by
    induction rows with
    | nil => exact .slnil
    | cons row rows ih =>
      rw [List.forall_mem_cons] at hset
      have hrest := ih (h.sublist (((List.sublist_cons_self row rows).filter _).map _))
        hset.2
      obtain hsame | hout := hset.1
      · rw [List.map_cons, hsame, List.filter_cons, List.filter_cons]
        split_ifs
        · exact hrest.cons_cons row
        · exact hrest
      · rw [List.map_cons, List.filter_cons_of_neg (by simp [hout]), List.filter_cons]
        split_ifs
        · exact hrest.cons row
        · exact hrest
  exact h.sublist (hsub.map ix.key)

end UniqueIndex

namespace Schema
variable (schema : Schema Row)

def number (n : ℕ) : String := Sql.numbered schema.stem n

lemma number_injective : Function.Injective schema.number := by
  intro m n h
  rw [number, number, Sql.numbered_eq, Sql.numbered_eq] at h
  exact sprintf04d_injective _ h

/-- The indexes, the one of the primary key first. -/
def unique : List (UniqueIndex Row) := ⟨schema.primaryKey,schema.id,fun _ => true⟩ :: schema.indexes

/-- The first index that the rows break. -/
def broken (rows : List Row) : Option (UniqueIndex Row) :=
  schema.unique.find? fun ix => ¬ ix.Holds rows

variable {schema}

lemma broken_eq_none {rows : List Row} :
    schema.broken rows = none ↔ ∀ ix ∈ schema.unique, ix.Holds rows := by
  simp [broken]

lemma holds_of_broken {rows : List Row} {ix : UniqueIndex Row} (h : schema.broken rows = some ix) :
    ix ∈ schema.unique ∧ ¬ ix.Holds rows :=
  ⟨List.mem_of_find?_eq_some h,by simpa using List.find?_some h⟩

end Schema

/-- The rows, in no particular order, and the last number taken from the sequence. -/
structure Table (schema : Schema Row) where
  seq : ℕ
  rows : List Row
  numbered : ∀ row ∈ rows, ∃ n ≤ seq, schema.id row = schema.number n
  holds : ∀ ix ∈ schema.unique, ix.Holds rows

namespace Table
variable {schema : Schema Row}

def empty : Table schema := ⟨0,[],by simp,fun _ _ => List.nodup_nil⟩

/-- A number is taken and not used. -/
def skip (t : Table schema) : Table schema where
  seq := t.seq+1
  rows := t.rows
  numbered row hrow := by
    obtain ⟨n,hn,hid⟩ := t.numbered row hrow
    exact ⟨n,hn.trans (Nat.le_succ _),hid⟩
  holds := t.holds

/-- `INSERT`, with the next number for an id. -/
def insert (t : Table schema) (row : String → Row) (hid : ∀ id, schema.id (row id) = id) :
    Except Error Row × Table schema :=
  let new := row (schema.number (t.seq+1))
  match h : schema.broken (t.rows ++ [new]) with
  | some ix => (.error (Sql.uniqueViolation ix.name),t.skip)
  | none => (.ok new, {
      seq := t.seq+1
      rows := t.rows ++ [new]
      numbered := by
        rw [List.forall_mem_append, List.forall_mem_singleton]
        exact ⟨t.skip.numbered,_,le_rfl,hid _⟩
      holds := Schema.broken_eq_none.mp h })

/-- `UPDATE ... WHERE id = id`: the row as it then is, if there is one. -/
def update (t : Table schema) (id : String) (set : Row → Row)
    (hset : ∀ row, schema.id (set row) = schema.id row) : Except Error (Option Row) × Table schema :=
  let rows := t.rows.map fun row => if schema.id row = id then set row else row
  match h : schema.broken rows with
  | some ix => (.error (Sql.uniqueViolation ix.name),t)
  | none => (.ok ((t.rows.find? fun row => schema.id row = id).map set), {
      seq := t.seq
      rows := rows
      numbered := by
        rw [List.forall_mem_map]
        intro row hrow
        obtain ⟨n,hn,hnumber⟩ := t.numbered row hrow
        refine ⟨n,hn,?_⟩
        split_ifs
        · rw [hset, hnumber]
        · exact hnumber
      holds := Schema.broken_eq_none.mp h })

variable (t : Table schema)

lemma ids_nodup : (t.rows.map schema.id).Nodup := by
  have h := t.holds _ (List.mem_cons_self ..)
  rwa [UniqueIndex.Holds, List.filter_true] at h

/-- The next number is nobody's. -/
lemma ne_number_succ {row : Row} (hrow : row ∈ t.rows) : schema.id row ≠ schema.number (t.seq+1) := by
  intro h
  obtain ⟨n,hn,hid⟩ := t.numbered row hrow
  have := schema.number_injective (hid.symm.trans h)
  omega

lemma mem_insert {row : String → Row} {hid : ∀ id, schema.id (row id) = id} {old : Row}
    (hold : old ∈ t.rows) : old ∈ (t.insert row hid).2.rows := by
  unfold insert
  dsimp only
  split
  · exact hold
  · exact List.mem_append_left _ hold

lemma mem_of_insert {row : String → Row} {hid : ∀ id, schema.id (row id) = id} {new : Row}
    (hnew : new ∈ (t.insert row hid).2.rows) : new ∈ t.rows ∨ ∃ id, new = row id := by
  unfold insert at hnew
  dsimp only at hnew
  split at hnew
  · exact .inl hnew
  · exact (List.mem_append.mp hnew).imp_right fun h => ⟨_,List.mem_singleton.mp h⟩

lemma mem_of_update {id : String} {set : Row → Row}
    {hset : ∀ row, schema.id (set row) = schema.id row} {new : Row}
    (hnew : new ∈ (t.update id set hset).2.rows) :
    ∃ old ∈ t.rows, new = old ∨ new = set old := by
  unfold update at hnew
  dsimp only at hnew
  split at hnew
  · exact ⟨new,hnew,.inl rfl⟩
  · obtain ⟨old,hold,rfl⟩ := List.mem_map.mp hnew
    refine ⟨old,hold,?_⟩
    split_ifs
    · exact .inr rfl
    · exact .inl rfl

/-- The numbers that were taken and are in no row. -/
def gaps : ℤ := t.seq - t.rows.length

/-- A row is refused only by an index beside the primary key, one under which its key is taken. -/
lemma insert_cases (row : String → Row) (hid : ∀ id, schema.id (row id) = id) :
    (∃ ix ∈ schema.indexes, ix.covers (row (schema.number (t.seq+1))) = true ∧
      (∃ old ∈ t.rows, ix.covers old = true ∧
        ix.key old = ix.key (row (schema.number (t.seq+1)))) ∧
      t.insert row hid = (.error (Sql.uniqueViolation ix.name),t.skip)) ∨
    (∀ ix ∈ schema.indexes, ix.covers (row (schema.number (t.seq+1))) = true → ∀ old ∈ t.rows,
      ix.covers old = true → ix.key old ≠ ix.key (row (schema.number (t.seq+1)))) ∧
    ∃ u : Table schema, u.seq = t.seq+1 ∧ u.rows = t.rows ++ [row (schema.number (t.seq+1))] ∧
      t.insert row hid = (.ok (row (schema.number (t.seq+1))),u) := by
  unfold insert
  dsimp only
  split
  · rename_i ix hbroken
    obtain ⟨hmem,hnot⟩ := Schema.holds_of_broken hbroken
    have hholds := t.holds ix hmem
    rw [UniqueIndex.holds_concat, not_and, Classical.not_imp] at hnot
    obtain ⟨hcovers,htaken⟩ := hnot hholds
    push Not at htaken
    obtain hprimary | hix := List.mem_cons.mp hmem
    · subst hprimary
      obtain ⟨old,hold,_,hkey⟩ := htaken
      exact (t.ne_number_succ hold (hkey.trans (hid _))).elim
    · exact .inl ⟨ix,hix,hcovers,htaken,rfl⟩
  · rename_i hbroken
    refine .inr ⟨fun ix hix => ?_,_,rfl,rfl,rfl⟩
    have hholds := Schema.broken_eq_none.mp hbroken ix (List.mem_cons_of_mem _ hix)
    exact (UniqueIndex.holds_concat.mp hholds).2

/-- An update that takes the row out of every index beside the primary key is never refused. -/
lemma update_eq (id : String) (set : Row → Row) (hset : ∀ row, schema.id (set row) = schema.id row)
    (hout : ∀ ix ∈ schema.indexes, ∀ row, ix.covers (set row) = false) :
    ∃ u : Table schema, u.seq = t.seq ∧
      u.rows = t.rows.map (fun row => if schema.id row = id then set row else row) ∧
      t.update id set hset = (.ok ((t.rows.find? fun row => schema.id row = id).map set),u) := by
  have hholds : ∀ ix ∈ schema.unique,
      ix.Holds (t.rows.map fun row => if schema.id row = id then set row else row) := by
    intro ix hix
    obtain hprimary | hmem := List.mem_cons.mp hix
    · subst hprimary
      rw [UniqueIndex.Holds, List.filter_true, List.map_map]
      refine (List.map_congr_left fun row _ => ?_) ▸ t.ids_nodup
      rw [Function.comp_apply]
      split_ifs
      · exact (hset row).symm
      · rfl
    · refine (t.holds ix hix).map fun row _ => ?_
      split_ifs
      · exact .inr (hout ix hmem row)
      · exact .inl rfl
  unfold update
  dsimp only
  split
  · rename_i ix hbroken
    obtain ⟨hmem,hnot⟩ := Schema.holds_of_broken hbroken
    exact (hnot (hholds ix hmem)).elim
  · refine ⟨_,?_,?_,rfl⟩
    · rfl
    · rfl

end Table
end OpsPlatform.Db
