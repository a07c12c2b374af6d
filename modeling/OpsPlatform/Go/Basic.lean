import Mathlib.Data.List.DropRight
import Mathlib.Tactic.Common

/-! The parts of the Go language and its standard library the program relies on: error values,
instants, request contexts, `strings.TrimSpace`, `fmt.Sprintf` with `%04d` and the stable sort. -/
namespace OpsPlatform.Go

/-- An `error` value. The sentinel errors of the program all have different texts. -/
structure Error where
  text : String
  deriving DecidableEq, Repr

/-- A string as Go has it: any bytes, whether they encode a text or not. -/
abbrev Bytes := List UInt8

/-- An instant, in nanoseconds. Only the order of instants matters to the program. -/
abbrev Time := Int

/-- The zero `time.Time`, the first of January of year 1. -/
def zeroTime : Time := -62135596800000000000

/-- A `time.Duration`: a signed 64-bit count of nanoseconds, which wraps. -/
abbrev Duration := Int64

/-- A `context.Context`; the only value that matters to a store is the transaction it may carry. -/
structure Context where
  tx : Option ℕ
  deriving DecidableEq, Repr

/-- `context.Background()`, or the context of a request outside any transaction. -/
def background : Context := ⟨none⟩

/-- `unicode.IsSpace`. -/
def isSpace (c : Char) : Bool :=
  c = '\t' || c = '\n' || c = '\x0b' || c = '\x0c' || c = '\r' || c = ' ' ||
  c.toNat = 0x85 || c.toNat = 0xA0 || c.toNat = 0x1680 ||
  (0x2000 ≤ c.toNat && c.toNat ≤ 0x200A) ||
  c.toNat = 0x2028 || c.toNat = 0x2029 || c.toNat = 0x202F || c.toNat = 0x205F ||
  c.toNat = 0x3000

/-- `strings.TrimSpace`. -/
def trimSpace (s : String) : String :=
  String.ofList ((s.toList.dropWhile isSpace).rdropWhile isSpace)

/-- A string that `strings.TrimSpace` makes empty. -/
def Blank (s : String) : Prop := trimSpace s = ""

instance (s : String) : Decidable (Blank s) := inferInstanceAs (Decidable (trimSpace s = ""))

lemma dropWhile_rdropWhile_idempotent {α : Type} (p : α → Bool) (l : List α) :
    (((l.dropWhile p).rdropWhile p).dropWhile p).rdropWhile p = (l.dropWhile p).rdropWhile p := by
  have hfront : ((l.dropWhile p).rdropWhile p).dropWhile p = (l.dropWhile p).rdropWhile p := by
    rw [List.dropWhile_eq_self_iff]
    intro h
    have hsub : (l.dropWhile p).rdropWhile p <+: l.dropWhile p :=
      ⟨_, List.rdropWhile_append_rtakeWhile⟩
    rw [hsub.getElem h]
    exact List.dropWhile_get_zero_not p l (h.trans_le hsub.length_le)
  rw [hfront, List.rdropWhile_idempotent]

@[simp] theorem trimSpace_trimSpace (s : String) : trimSpace (trimSpace s) = trimSpace s := by
  simp only [trimSpace, String.toList_ofList, dropWhile_rdropWhile_idempotent]

theorem blank_iff (s : String) : Blank s ↔ ∀ c ∈ s.toList, isSpace c = true := by
  have hempty : Blank s ↔ (s.toList.dropWhile isSpace).rdropWhile isSpace = [] := by
    simp [Blank, trimSpace, ← String.toList_inj]
  rw [hempty, List.rdropWhile_eq_nil_iff]
  constructor
  · intro h c hc
    rw [← @List.takeWhile_append_dropWhile _ isSpace s.toList] at hc
    rcases List.mem_append.mp hc with hc | hc
    · exact List.mem_takeWhile_imp hc
    · exact h c hc
  · intro h c hc
    exact h c ((List.dropWhile_sublist _).subset hc)

@[simp] theorem blank_trimSpace (s : String) : Blank (trimSpace s) ↔ Blank s := by
  simp [Blank]

theorem not_blank_trimSpace {s : String} (h : ¬ trimSpace s = "") : ¬ Blank (trimSpace s) := by
  rwa [blank_trimSpace]

/-- A text with a visible character in front of it, whatever the rest, is not blank. -/
theorem not_blank_of_mem {s : String} {c : Char} (hc : c ∈ s.toList) (hs : isSpace c = false) :
    ¬ Blank s := by
  intro h
  rw [(blank_iff s).mp h c hc] at hs
  contradiction

/-- `fmt.Sprintf(stem + "%04d", n)`. -/
def sprintf04d (stem : String) (n : ℕ) : String :=
  stem ++ String.ofList ((Nat.toDigits 10 n).leftpad 4 '0')

lemma ofDigitChars_leftpad (l : List Char) (k : ℕ) :
    Nat.ofDigitChars 10 (l.leftpad k '0') 0 = Nat.ofDigitChars 10 l 0 := by
  have hzeros : ∀ m : ℕ, Nat.ofDigitChars 10 (List.replicate m '0' ++ l) 0 =
      Nat.ofDigitChars 10 l 0 := by
    intro m
    induction m with
    | zero => simp
    | succ m ih =>
      rw [List.replicate_succ, List.cons_append, Nat.ofDigitChars_cons]
      simpa using ih
  exact hzeros _

/-- Zero padding never makes two numbers read the same, also past `9999`. -/
theorem sprintf04d_injective (stem : String) : Function.Injective (sprintf04d stem) := by
  intro m n h
  have hlists : (Nat.toDigits 10 m).leftpad 4 '0' = (Nat.toDigits 10 n).leftpad 4 '0' := by
    simpa [sprintf04d, ← String.toList_inj] using h
  have hnumbers := congrArg (fun l => Nat.ofDigitChars 10 l 0) hlists
  simpa only [ofDigitChars_leftpad, Nat.ofDigitChars_ten_toDigits] using hnumbers

/-- A text with something other than a digit after the stem is none of the numbered ones. -/
theorem ne_sprintf04d (stem : String) {rest : String} {c : Char} (hc : c ∈ rest.toList)
    (hdigit : c.isDigit = false) (n : ℕ) : stem ++ rest ≠ sprintf04d stem n := by
  intro h
  have hlists : rest.toList = (Nat.toDigits 10 n).leftpad 4 '0' := by
    simpa [sprintf04d, ← String.toList_inj] using h
  have hdigits : ∀ d ∈ (Nat.toDigits 10 n).leftpad 4 '0', d.isDigit = true := by
    intro d hd
    obtain hd | hd := List.mem_append.mp hd
    · rw [List.eq_of_mem_replicate hd]; rfl
    · exact Nat.isDigit_of_mem_toDigits (by decide) (by decide) hd
  rw [hdigits c (hlists ▸ hc)] at hdigit
  contradiction

/-- A text without white space is its own trimming. -/
theorem trimSpace_of_visible {s : String} (h : ∀ c ∈ s.toList, isSpace c = false) :
    trimSpace s = s := by
  have hfront : s.toList.dropWhile isSpace = s.toList := by
    rw [List.dropWhile_eq_self_iff]
    intro hpos hspace
    rw [h _ (List.getElem_mem hpos)] at hspace
    contradiction
  have hback : s.toList.rdropWhile isSpace = s.toList := by
    rw [List.rdropWhile_eq_self_iff]
    intro hne hspace
    rw [h _ (List.getLast_mem hne)] at hspace
    contradiction
  rw [trimSpace, hfront, hback, String.ofList_toList]

theorem isSpace_of_isDigit {c : Char} (h : c.isDigit = true) : isSpace c = false := by
  have hrange : 48 ≤ c.toNat ∧ c.toNat ≤ 57 := by
    simpa [Char.isDigit, UInt32.le_iff_toNat_le] using h
  have hne : ∀ d : Char, d.toNat < 48 → c ≠ d := by
    rintro d hd rfl
    omega
  simp only [isSpace, Bool.or_eq_false_iff, Bool.and_eq_false_iff, decide_eq_false_iff_not]
  refine ⟨⟨⟨⟨⟨⟨⟨⟨⟨⟨⟨⟨⟨⟨?_,?_⟩,?_⟩,?_⟩,?_⟩,?_⟩,?_⟩,?_⟩,?_⟩,?_⟩,?_⟩,?_⟩,?_⟩,?_⟩,?_⟩ <;>
    first | exact hne _ (by decide) | omega

theorem trimSpace_sprintf04d {stem : String} (h : stem.toList.any isSpace = false) (n : ℕ) :
    trimSpace (sprintf04d stem n) = sprintf04d stem n := by
  apply trimSpace_of_visible
  intro c hc
  have hmem : c ∈ stem.toList ∨ c ∈ (Nat.toDigits 10 n).leftpad 4 '0' := by
    simpa [sprintf04d] using hc
  obtain hc | hc := hmem
  · simpa using List.any_eq_false.mp h c hc
  obtain hc | hc := List.mem_append.mp hc
  · rw [List.eq_of_mem_replicate hc]; rfl
  · exact isSpace_of_isDigit (Nat.isDigit_of_mem_toDigits (by decide) (by decide) hc)

/-- `sort.SliceStable(l, less)`. -/
def sliceStable {α : Type} (less : α → α → Bool) (l : List α) : List α :=
  l.mergeSort fun a b => !less b a

theorem sliceStable_perm {α : Type} (less : α → α → Bool) (l : List α) :
    (sliceStable less l).Perm l := List.mergeSort_perm _ _

/-- A slice in which no entry is less than an earlier one is left as it is. -/
theorem sliceStable_of_pairwise {α : Type} {less : α → α → Bool} {l : List α}
    (h : l.Pairwise fun a b => less b a = false) : sliceStable less l = l := by
  apply List.mergeSort_of_pairwise
  simpa using h

end OpsPlatform.Go
