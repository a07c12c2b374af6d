import Mathlib.Data.Nat.Digits.Defs
import Mathlib.Tactic.Ring
import OpsPlatform.Go.Basic

/-! `strconv.Atoi` where an `int` has 64 bits, and the numerals it reads. -/
namespace OpsPlatform.Go.Strconv

def plus : UInt8 := 43
def minus : UInt8 := 45

/-- What a byte is worth as a decimal digit. -/
def digit (b : UInt8) : Option ℕ := if 48 ≤ b.toNat ∧ b.toNat ≤ 57 then some (b.toNat-48) else none

/-- The loop over the digits, with the number read so far. -/
def readDigits : ℕ → Bytes → Option ℕ
  | n, [] => some n
  | n, b :: rest => (digit b).bind fun d => readDigits (n*10 + d) rest

/-- `ParseUint` in base 10, before the number is held against its size. -/
def parseUint (s : Bytes) : Option ℕ := if s = [] then none else readDigits 0 s

/-- The sign, if there is one, and what follows it. -/
def splitSign : Bytes → Bool × Bytes
  | [] => (false,[])
  | b :: rest => if b = minus then (true,rest) else if b = plus then (false,rest) else (false,b :: rest)

/-- `strconv.Atoi`; a syntax error and a range error are both none. -/
def atoi (s : Bytes) : Option Int64 :=
  let (negative,numeral) := splitSign s
  (parseUint numeral).bind fun n =>
    let m : ℤ := if negative then -n else n
    if -2^63 ≤ m ∧ m < 2^63 then some (Int64.ofInt m) else none

example : atoi "-9223372036854775808".toUTF8.toList = some Int64.minValue ∧
    atoi "9223372036854775808".toUTF8.toList = none ∧ atoi "1_0".toUTF8.toList = none := by
  decide +kernel

/-- The text is a decimal numeral of the number. -/
structure Numeral (text : Bytes) (n : ℕ) : Prop where
  ne_nil : text ≠ []
  digits : ∀ b ∈ text, 48 ≤ b.toNat ∧ b.toNat ≤ 57
  value : Nat.ofDigits 10 (text.reverse.map fun b => b.toNat-48) = n

/-- The same, perhaps with a plus sign in front. -/
def SignedNumeral (text : Bytes) (n : ℕ) : Prop :=
  ∃ numeral, Numeral numeral n ∧ (text = numeral ∨ text = plus :: numeral)

section
variable {text : Bytes} {n k : ℕ}

lemma readDigits_eq_some_iff : readDigits k text = some n ↔
    (∀ b ∈ text, 48 ≤ b.toNat ∧ b.toNat ≤ 57) ∧
      k*10^text.length + Nat.ofDigits 10 (text.reverse.map fun b => b.toNat-48) = n := by
  induction text generalizing k with
  | nil => simp [readDigits]
  | cons b rest ih =>
    have hvalue : k*10^(b :: rest).length +
          Nat.ofDigits 10 ((b :: rest).reverse.map fun b => b.toNat-48) =
        (k*10 + (b.toNat-48))*10^rest.length +
          Nat.ofDigits 10 (rest.reverse.map fun b => b.toNat-48) := by
      simp only [List.length_cons, List.reverse_cons, List.map_append, Nat.ofDigits_append,
        List.length_map, List.length_reverse, List.map_cons, List.map_nil, Nat.ofDigits_singleton]
      ring
    rw [hvalue, List.forall_mem_cons, readDigits, digit]
    by_cases hb : 48 ≤ b.toNat ∧ b.toNat ≤ 57
    · rw [if_pos hb, Option.bind_some, ih, and_assoc, and_iff_right hb]
    · rw [if_neg hb, Option.bind_none]
      exact ⟨(fun h => by cases h),fun h => absurd h.1.1 hb⟩

theorem parseUint_eq_some_iff : parseUint text = some n ↔ Numeral text n := by
  rw [parseUint]
  by_cases hnil : text = []
  · rw [if_pos hnil]
    exact ⟨(fun h => by cases h),fun h => absurd hnil h.ne_nil⟩
  · rw [if_neg hnil, readDigits_eq_some_iff, Nat.zero_mul, Nat.zero_add]
    exact ⟨fun h => ⟨hnil,h.1,h.2⟩,fun h => ⟨h.digits,h.value⟩⟩

/-- The sign is not part of a numeral. -/
lemma splitSign_of_numeral (h : Numeral text n) : splitSign text = (false,text) := by
  cases text with
  | nil => rfl
  | cons b rest =>
    have hb := h.digits b List.mem_cons_self
    have hminus : b ≠ minus := by rintro rfl; revert hb; decide
    have hplus : b ≠ plus := by rintro rfl; revert hb; decide
    rw [splitSign, if_neg hminus, if_neg hplus]

lemma splitSign_eq_false_iff {numeral : Bytes} (h : Numeral numeral n) :
    splitSign text = (false,numeral) ↔ text = numeral ∨ text = plus :: numeral := by
  constructor
  · intro hsplit
    cases text with
    | nil => exact Or.inl (Prod.mk.inj hsplit).2
    | cons b rest =>
      rw [splitSign] at hsplit
      split_ifs at hsplit with hminus hplus
      · cases (Prod.mk.inj hsplit).1
      · rw [hplus, (Prod.mk.inj hsplit).2]
        exact Or.inr rfl
      · exact Or.inl (Prod.mk.inj hsplit).2
  · rintro (rfl | rfl)
    · exact splitSign_of_numeral h
    · rfl

lemma SignedNumeral.ne_nil (h : SignedNumeral text n) : text ≠ [] := by
  obtain ⟨numeral,hnumeral,rfl | rfl⟩ := h
  · exact hnumeral.ne_nil
  · exact List.cons_ne_nil _ _

lemma atoi_eq_some_iff {m : Int64} : atoi text = some m ↔ ∃ negative numeral n,
    splitSign text = (negative,numeral) ∧ Numeral numeral n ∧
      m.toInt = if negative then -(n : ℤ) else n := by
  rcases hsplit : splitSign text with ⟨negative,numeral⟩
  simp only [atoi, hsplit, Option.bind_eq_some_iff, parseUint_eq_some_iff, Option.ite_none_right_eq_some,
    Option.some.injEq, Prod.mk.injEq]
  constructor
  · rintro ⟨n,hn,hrange,rfl⟩
    exact ⟨negative,numeral,n,⟨rfl,rfl⟩,hn,Int64.toInt_ofInt_of_le hrange.1 hrange.2⟩
  · rintro ⟨_,_,n,⟨rfl,rfl⟩,hn,hm⟩
    refine ⟨n,hn,?_⟩
    rw [← hm]
    exact ⟨⟨m.le_toInt,m.toInt_lt⟩,m.ofInt_toInt⟩

/-- The positive numbers `Atoi` reads: those a numeral writes, as far as an `int` goes. -/
theorem atoi_pos_iff : (∃ m, atoi text = some m ∧ 0 < m ∧ m.toInt = n) ↔
    SignedNumeral text n ∧ 0 < n ∧ n < 2^63 := by
  constructor
  · rintro ⟨m,hm,hpos,hvalue⟩
    obtain ⟨negative,numeral,k,hsplit,hnumeral,hk⟩ := atoi_eq_some_iff.mp hm
    have hpos : 0 < m.toInt := Int64.lt_iff_toInt_lt.mp hpos
    have hlt := m.toInt_lt
    cases negative with
    | true =>
      rw [if_pos rfl] at hk
      omega
    | false =>
      rw [if_neg Bool.false_ne_true] at hk
      obtain rfl : k = n := by omega
      exact ⟨⟨numeral,hnumeral,(splitSign_eq_false_iff hnumeral).mp hsplit⟩,by omega,by omega⟩
  · rintro ⟨⟨numeral,hnumeral,htext⟩,hpos,hlt⟩
    have hm : (Int64.ofInt n).toInt = n := Int64.toInt_ofInt_of_le (by omega) (by omega)
    refine ⟨Int64.ofInt n,atoi_eq_some_iff.mpr ?_,?_,hm⟩
    · exact ⟨false,numeral,n,(splitSign_eq_false_iff hnumeral).mpr htext,hnumeral,hm⟩
    · rw [Int64.lt_iff_toInt_lt, hm]
      exact Int.natCast_pos.mpr hpos

end

end OpsPlatform.Go.Strconv
