import OpsPlatform.Go.Strconv

/-! `config.Load`: what the environment says about the tokens. -/
namespace OpsPlatform
open Go Go.Strconv

structure Config where
  authTokenSecret : Bytes
  authTokenTTL : Duration

namespace Config

/-- `os.LookupEnv`. -/
abbrev Environ := String → Option Bytes

/-- `time.Minute`. -/
def minute : Duration := 60000000000

def getEnv (environ : Environ) (key : String) (fallback : Bytes) : Bytes :=
  match environ key with
  | some value => if value ≠ [] then value else fallback
  | none => fallback

/-- The products wrap, as those of two `time.Duration` do. -/
def getEnvMinutes (environ : Environ) (key : String) (fallbackMinutes : Int64) : Duration :=
  let value := getEnv environ key []
  if value = [] then fallbackMinutes*minute
  else
    match atoi value with
    | none => fallbackMinutes*minute
    | some minutes => if minutes ≤ 0 then fallbackMinutes*minute else minutes*minute

def load (environ : Environ) : Config where
  authTokenSecret := getEnv environ "AUTH_TOKEN_SECRET" "change-me-super-secret".toUTF8.toList
  authTokenTTL := getEnvMinutes environ "AUTH_TOKEN_TTL_MINUTES" 60

/-- So many nanoseconds are no positive `time.Duration`: they end in the upper half of a round of
`2^64`, or at its end. -/
def Wraps (nanoseconds : ℕ) : Prop :=
  ∃ k, (2*k + 1)*2^63 ≤ nanoseconds ∧ nanoseconds ≤ (2*k + 2)*2^63

section
variable {environ : Environ} {key : String} {fallbackMinutes minutes : Int64} {value : Bytes} {n : ℕ}

lemma bmod_pos_iff (h : 0 < n) : 0 < (n : ℤ).bmod (2^64) ↔ ¬ Wraps n := by
  constructor
  · rintro hpos ⟨k,hlow,hhigh⟩
    -- within the round, or at the start of the next one
    have hround : (n : ℤ)%2^64 = n - k*2^64 ∨ (n : ℤ)%2^64 = 0 := by omega
    rw [Int.bmod] at hpos
    split_ifs at hpos <;> omega
  · intro hwraps
    by_contra hpos
    have hhalf : (n : ℤ)%2^64 = 0 ∨ 2^63 ≤ (n : ℤ)%2^64 := by
      rw [Int.bmod] at hpos
      split_ifs at hpos <;> omega
    obtain hzero | hhalf := hhalf
    · exact hwraps ⟨n/2^64 - 1,by omega,by omega⟩
    · exact hwraps ⟨n/2^64,by omega,by omega⟩

lemma toInt_mul_minute (h : minutes.toInt = n) :
    (minutes*minute).toInt = ((n*60000000000 : ℕ) : ℤ).bmod (2^64) := by
  rw [Int64.toInt_mul, h, Nat.cast_mul]
  rfl

lemma eq_some_getEnv (h : getEnv environ key [] ≠ []) : environ key = some (getEnv environ key []) := by
  rw [getEnv] at h ⊢
  cases hvalue : environ key with
  | none => simp [hvalue] at h
  | some value => simp

lemma getEnvMinutes_of_numeral (hvalue : environ key = some value) (h : SignedNumeral value n)
    (hpos : 0 < n) (hlt : n < 2^63) :
    (getEnvMinutes environ key fallbackMinutes).toInt = ((n*60000000000 : ℕ) : ℤ).bmod (2^64) := by
  obtain ⟨minutes,hminutes,hminutesPos,hn⟩ := atoi_pos_iff.mpr ⟨h,hpos,hlt⟩
  have hgetEnv : getEnv environ key [] = value := by
    simp [getEnv, hvalue, eq_comm]
  have hne : value ≠ [] := h.ne_nil
  simp only [getEnvMinutes, hgetEnv, if_neg hne, hminutes, if_neg (Int64.not_le.mpr hminutesPos)]
  exact toInt_mul_minute hn

lemma getEnvMinutes_of_not_numeral (h : ¬ ∃ value n, environ key = some value ∧
    SignedNumeral value n ∧ 0 < n ∧ n < 2^63) :
    getEnvMinutes environ key fallbackMinutes = fallbackMinutes*minute := by
  simp only [getEnvMinutes]
  split_ifs with hempty
  · rfl
  · split
    · rfl
    · next minutes hminutes =>
      split_ifs with hpos
      · rfl
      · have hpos : 0 < minutes := Int64.not_le.mp hpos
        have hn : (minutes.toInt.toNat : ℤ) = minutes.toInt :=
          Int.toNat_of_nonneg (Int64.lt_iff_toInt_lt.mp hpos).le
        obtain ⟨hnumeral,hrange⟩ := atoi_pos_iff.mp ⟨minutes,hminutes,hpos,hn.symm⟩
        exact absurd ⟨_,_,eq_some_getEnv hempty,hnumeral,hrange⟩ h

/-- The number is tested, but its product with a minute is what is used. -/
theorem getEnvMinutes_pos_iff (hfallback : 0 < fallbackMinutes*minute) :
    0 < getEnvMinutes environ key fallbackMinutes ↔ ¬ ∃ value n, environ key = some value ∧
      SignedNumeral value n ∧ n < 2^63 ∧ Wraps (n*60000000000) := by
  constructor
  · rintro hpos ⟨value,n,hvalue,hnumeral,hlt,hwraps⟩
    have hn : 0 < n := by
      obtain ⟨k,hlow,_⟩ := hwraps
      omega
    rw [Int64.lt_iff_toInt_lt, getEnvMinutes_of_numeral hvalue hnumeral hn hlt] at hpos
    exact (bmod_pos_iff (by omega)).mp hpos hwraps
  · intro h
    by_cases hnumeral : ∃ value n, environ key = some value ∧ SignedNumeral value n ∧ 0 < n ∧ n < 2^63
    · obtain ⟨value,n,hvalue,hnumeral,hn,hlt⟩ := hnumeral
      rw [Int64.lt_iff_toInt_lt, getEnvMinutes_of_numeral hvalue hnumeral hn hlt]
      exact (bmod_pos_iff (by omega)).mpr fun hwraps => h ⟨value,n,hvalue,hnumeral,hlt,hwraps⟩
    · rwa [getEnvMinutes_of_not_numeral hnumeral]

end

end Config
end OpsPlatform
