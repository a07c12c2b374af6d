import OpsPlatform.Go.Filepath
import OpsPlatform.Interaction.Runs

/-! `LocalDiskStorage`: where an upload is put. The name it is stored under starts with what no other
upload has, and only ends in what the client calls the file. -/
namespace OpsPlatform.Attachments
open OpsPlatform.Go OpsPlatform.Go.Filepath Interaction Program

def dash : UInt8 := 45

/-- The bytes of a text whose characters all take one. -/
def asciiBytes (text : List Char) : Bytes := text.map fun c => c.toUInt8

/-- `%d`. -/
def formatInt (n : Int) : Bytes :=
  asciiBytes ((if n < 0 then ['-'] else []) ++ Nat.toDigits 10 n.natAbs)

def hexDigit (n : ℕ) : UInt8 := (asciiBytes "0123456789abcdef".toList)[n]?.getD 0

/-- `hex.EncodeToString`. -/
def hexEncode (src : Bytes) : Bytes := src.flatMap fun b => [hexDigit (b.toNat/16),hexDigit (b.toNat%16)]

structure LocalDiskStorage where
  baseDir : Bytes

section Format
variable {m n : ℤ} {a b : List Char}

lemma toNat_of_isDigit {c : Char} (h : c.isDigit = true) : 48 ≤ c.toNat ∧ c.toNat ≤ 57 := by
  simpa [Char.isDigit, UInt32.le_iff_toNat_le] using h

lemma toNat_toUInt8 {c : Char} (h : c.isDigit = true) : c.toUInt8.toNat = c.toNat := by
  have hrange := toNat_of_isDigit h
  rw [Char.toUInt8, UInt32.toNat_toUInt8, Nat.mod_eq_of_lt]
  · rfl
  · change c.toNat < 256
    omega

/-- Digits can be read back. -/
lemma asciiBytes_injOn (ha : ∀ c ∈ a, c.isDigit = true) (hb : ∀ c ∈ b, c.isDigit = true)
    (h : asciiBytes a = asciiBytes b) : a = b := by
  have hback : ∀ l : List Char, (∀ c ∈ l, c.isDigit = true) →
      (asciiBytes l).map (fun b => Char.ofNat b.toNat) = l := by
    intro l hl
    rw [asciiBytes, List.map_map]
    refine (List.map_congr_left fun c hc => ?_).trans (List.map_id l)
    rw [Function.comp_apply, toNat_toUInt8 (hl c hc), Char.ofNat_toNat, id]
  rw [← hback a ha, ← hback b hb, h]

lemma formatInt_of_nonneg (h : 0 ≤ n) : formatInt n = asciiBytes (Nat.toDigits 10 n.natAbs) := by
  rw [formatInt, if_neg (Int.not_lt.mpr h), List.nil_append]

lemma isDigit_of_mem_toDigits {k : ℕ} : ∀ c ∈ Nat.toDigits 10 k, c.isDigit = true :=
  fun _ => Nat.isDigit_of_mem_toDigits (by decide) (by decide)

lemma digit_of_mem_formatInt (h : 0 ≤ n) {d : UInt8} (hd : d ∈ formatInt n) :
    48 ≤ d.toNat ∧ d.toNat ≤ 57 := by
  rw [formatInt_of_nonneg h, asciiBytes] at hd
  obtain ⟨c,hc,rfl⟩ := List.mem_map.mp hd
  rw [toNat_toUInt8 (isDigit_of_mem_toDigits c hc)]
  exact toNat_of_isDigit (isDigit_of_mem_toDigits c hc)

lemma formatInt_injOn (hm : 0 ≤ m) (hn : 0 ≤ n) (h : formatInt m = formatInt n) : m = n := by
  rw [formatInt_of_nonneg hm, formatInt_of_nonneg hn] at h
  have hdigits := asciiBytes_injOn isDigit_of_mem_toDigits isDigit_of_mem_toDigits h
  have hnumbers := congrArg (fun l => Nat.ofDigitChars 10 l 0) hdigits
  simp only [Nat.ofDigitChars_ten_toDigits] at hnumbers
  omega

lemma hexDigit_injOn : ∀ m < 16, ∀ n < 16, hexDigit m = hexDigit n → m = n := by decide

lemma hexDigit_ne : ∀ n < 16, hexDigit n ≠ separator := by decide

lemma hexEncode_cons (b : UInt8) (src : Bytes) :
    hexEncode (b :: src) = hexDigit (b.toNat/16) :: hexDigit (b.toNat%16) :: hexEncode src := rfl

lemma length_hexEncode (src : Bytes) : (hexEncode src).length = 2*src.length := by
  induction src with
  | nil => rfl
  | cons b src ih =>
    rw [hexEncode_cons, List.length_cons, List.length_cons, ih, List.length_cons]
    omega

lemma separator_notMem_hexEncode (src : Bytes) : separator ∉ hexEncode src := by
  induction src with
  | nil => simp [hexEncode]
  | cons b src ih =>
    have hb := b.toNat_lt
    rw [hexEncode_cons, List.mem_cons, List.mem_cons, not_or, not_or]
    exact ⟨(hexDigit_ne _ (by omega)).symm,(hexDigit_ne _ (by omega)).symm,ih⟩

lemma hexEncode_injective : Function.Injective hexEncode := by
  intro src src' h
  induction src generalizing src' with
  | nil =>
    cases src' with
    | nil => rfl
    | cons b' src' => cases h
  | cons b src ih =>
    cases src' with
    | nil => cases h
    | cons b' src' =>
      rw [hexEncode_cons, hexEncode_cons, List.cons_eq_cons, List.cons_eq_cons] at h
      obtain ⟨hhigh,hlow,hrest⟩ := h
      have hb := b.toNat_lt
      have hb' := b'.toNat_lt
      have hhigh := hexDigit_injOn _ (by omega) _ (by omega) hhigh
      have hlow := hexDigit_injOn _ (by omega) _ (by omega) hlow
      rw [UInt8.toNat_inj.mp (by omega : b.toNat = b'.toNat), ih hrest]

end Format

namespace LocalDiskStorage

/-- The calls `Save` makes: `rand.Read` of four bytes, `time.Now().UnixNano()`, `os.Create` and
`io.Copy` into the created file. -/
inductive Op
  | randRead
  | unixNano
  | create (path : Bytes)
  | copy (path content : Bytes)

abbrev Op.Res : Op → Type
  | .randRead => Except Error (Vector UInt8 4)
  | .unixNano => Int
  | .create _ => Except Error Unit
  | .copy _ _ => Except Error Int

abbrev M (α : Type) := Program Op.Res Error α

/-- `fmt.Sprintf("%d-%s-%s", …)`. -/
def storedName (unixNano : Int) (suffix : Vector UInt8 4) (filename : Bytes) : Bytes :=
  formatInt unixNano ++ [dash] ++ hexEncode suffix.toList ++ [dash] ++ base filename

def fullPath (s : LocalDiskStorage) (unixNano : Int) (suffix : Vector UInt8 4) (filename : Bytes) :
    Bytes := join [s.baseDir,storedName unixNano suffix filename]

example : (⟨"uploads".toUTF8.toList⟩ : LocalDiskStorage).fullPath 17 #v[0,171,1,255]
    "../x/..".toUTF8.toList = "uploads/17-00ab01ff-..".toUTF8.toList := by decide +kernel

/-- `Save`; the results are the path and the size. -/
def save (s : LocalDiskStorage) (filename content : Bytes) : M (Bytes × Int) := do
  let suffix ← call .randRead fun r => fromResult (r.mapError fun err =>
    ⟨"attachments: generate unique filename: " ++ err.text⟩)
  let unixNano ← call .unixNano ret
  let path := s.fullPath unixNano suffix filename
  call (.create path) fun r => fromResult (r.mapError fun err =>
    ⟨"attachments: create destination file: " ++ err.text⟩)
  let size ← call (.copy path content) fun r => fromResult (r.mapError fun err =>
    ⟨"attachments: write file contents: " ++ err.text⟩)
  return (path,size)

/-- What the system answers to one call of `Save`. -/
structure Env where
  random : Except Error (Vector UInt8 4)
  unixNano : Int
  create : Bytes → Except Error Unit
  copy : Bytes → Bytes → Except Error Int

/-- The state is the paths that `os.Create` was called with. -/
def exec (env : Env) : (op : Op) → List Bytes → op.Res × List Bytes
  | .randRead, created => (env.random,created)
  | .unixNano, created => (env.unixNano,created)
  | .create path, created => (env.create path,created ++ [path])
  | .copy path content, created => (env.copy path content,created)

/-- The files one call of `Save` creates, or overwrites. -/
def created (s : LocalDiskStorage) (env : Env) (filename content : Bytes) : List Bytes :=
  ((s.save filename content).run (exec env) []).2

section Paths
variable {s : LocalDiskStorage} {m n : ℤ} {suffix suffix' : Vector UInt8 4} {filename filename' : Bytes}

/-- The part of a stored name that the client has no say in. -/
def stem (unixNano : Int) (suffix : Vector UInt8 4) : Bytes :=
  formatInt unixNano ++ dash :: (hexEncode suffix.toList ++ [dash])

lemma separator_notMem_stem (h : 0 ≤ n) : separator ∉ stem n suffix := by
  simp only [stem, List.mem_append, List.mem_cons, List.not_mem_nil, or_false, not_or]
  refine ⟨fun hd => ?_,by decide,separator_notMem_hexEncode _,by decide⟩
  obtain ⟨hlow,-⟩ := digit_of_mem_formatInt h hd
  revert hlow
  decide

/-- Two stems apart stay apart whatever follows them: the first dash ends the number, and the suffix
has its length. -/
lemma stem_inj (hm : 0 ≤ m) (hn : 0 ≤ n) {rest rest' : Bytes}
    (h : stem m suffix ++ rest = stem n suffix' ++ rest') : m = n ∧ suffix = suffix' := by
  have hdash {k : ℤ} (hk : 0 ≤ k) : ∀ d ∈ formatInt k, (d != dash) = true := by
    intro d hd
    obtain ⟨hlow,-⟩ := digit_of_mem_formatInt hk hd
    rw [bne_iff_ne]
    rintro rfl
    revert hlow
    decide
  simp only [stem, List.append_assoc, List.cons_append] at h
  have hnumbers := congrArg (List.takeWhile (· != dash)) h
  rw [List.takeWhile_append_of_pos (hdash hm), List.takeWhile_append_of_pos (hdash hn),
    List.takeWhile_cons_of_neg (by simp), List.takeWhile_cons_of_neg (by simp), List.append_nil,
    List.append_nil] at hnumbers
  rw [hnumbers] at h
  have hsuffixes := (List.append_inj (List.cons.inj (List.append_cancel_left h)).2
    (by simp [length_hexEncode])).1
  exact ⟨formatInt_injOn hm hn hnumbers,Vector.toList_inj.mp (hexEncode_injective hsuffixes)⟩

variable (suffix filename) in
/-- What an upload is stored as: an entry of the upload directory whose name starts with the stem. -/
lemma elements_fullPath (hbase : s.baseDir ≠ []) (h : 0 ≤ n) : ∃ rest,
    IsName (stem n suffix ++ rest) ∧ isRooted (s.fullPath n suffix filename) = isRooted s.baseDir ∧
    elements (s.fullPath n suffix filename) = elements s.baseDir ++ [stem n suffix ++ rest] := by
  have hstored : storedName n suffix filename = stem n suffix ++ base filename := by
    simp [storedName, stem]
  have hname {rest : Bytes} (hrest : separator ∉ rest) : IsName (stem n suffix ++ rest) := by
    have hmem : dash ∈ stem n suffix ++ rest := by simp [stem]
    refine ⟨?_,?_,?_,?_⟩
    · exact List.ne_nil_of_mem hmem
    · intro h
      rw [h] at hmem
      revert hmem
      decide
    · intro h
      rw [h] at hmem
      revert hmem
      decide
    · rw [List.mem_append, not_or]
      exact ⟨separator_notMem_stem h,hrest⟩
  rw [fullPath, hstored]
  obtain hslash | hsingle := base_cases filename
  · -- a file without a name of its own is called after the stem alone
    have hsplit : (stem n suffix ++ base filename).splitOn separator = (stem n suffix ++ []) :: [[]] := by
      rw [hslash, List.append_nil, List.splitOn_append_cons_self_of_not_mem (separator_notMem_stem h)]
      rfl
    exact ⟨[],hname (by simp),elements_join hbase (hname (by simp)) hsplit (by simp)⟩
  · have hsplit : (stem n suffix ++ base filename).splitOn separator = (stem n suffix ++ base filename) :: [] :=
      List.splitOn_eq_singleton (hname hsingle).single
    exact ⟨base filename,hname hsingle,elements_join hbase (hname hsingle) hsplit (by simp)⟩

/-- `Save` creates the one file, or fails before it does. -/
lemma mem_created {env : Env} {content path : Bytes} (h : path ∈ s.created env filename content) :
    ∃ suffix, env.random = .ok suffix ∧ path = s.fullPath env.unixNano suffix filename := by
  simp only [created, save, call_bind, run_call, exec] at h
  cases hrandom : env.random with
  | error err =>
    rw [hrandom, Except.mapError, fromResult_error, fail_bind, run_fail] at h
    cases h
  | ok suffix =>
    refine ⟨suffix,rfl,?_⟩
    simp only [hrandom, Except.mapError, fromResult_ok, ret_bind, run_call, exec] at h
    cases hcreate : env.create (s.fullPath env.unixNano suffix filename) <;>
      cases hcopy : env.copy (s.fullPath env.unixNano suffix filename) content <;>
      simpa [hcreate, hcopy, exec] using h

end Paths

/-- Whatever the files are called, they are put into the upload directory itself, and two of them into
different places unless both the clock and the random source repeat themselves. -/
theorem save_stays_inside (s : LocalDiskStorage) (hbase : s.baseDir ≠ []) (env env' : Env)
    (hnow : 0 ≤ env.unixNano) (hnow' : 0 ≤ env'.unixNano)
    (filename filename' content content' : Bytes) :
    (∀ path ∈ s.created env filename content, DirectChild s.baseDir path) ∧
    ((env.unixNano,env.random) ≠ (env'.unixNano,env'.random) →
      ∀ path ∈ s.created env filename content, ∀ path' ∈ s.created env' filename' content',
        path ≠ path') := by
  constructor
  · intro path hpath
    obtain ⟨suffix,_,rfl⟩ := mem_created hpath
    obtain ⟨rest,hname,hrooted,helements⟩ := elements_fullPath suffix filename hbase hnow
    exact ⟨hrooted,_,hname,helements⟩
  · rintro hdiffer path hpath path' hpath' rfl
    obtain ⟨suffix,hrandom,rfl⟩ := mem_created hpath
    obtain ⟨suffix',hrandom',hsame⟩ := mem_created hpath'
    obtain ⟨rest,_,_,helements⟩ := elements_fullPath suffix filename hbase hnow
    obtain ⟨rest',_,_,helements'⟩ :=
      elements_fullPath suffix' filename' hbase hnow'
    rw [hsame, helements', List.append_cancel_left_eq, List.cons.injEq] at helements
    obtain ⟨hunix,rfl⟩ := stem_inj hnow' hnow helements.1
    exact hdiffer (by rw [hrandom, hrandom', hunix])

/-- A system that lets every call succeed, at one instant. -/
def sampleEnv (suffix : Vector UInt8 4) : Env :=
  ⟨.ok suffix,17,fun _ => .ok (),fun _ content => .ok content.length⟩

theorem save_stays_inside_dots :
    let s : LocalDiskStorage := ⟨"./uploads/".toUTF8.toList⟩
    ∃ path ∈ s.created (sampleEnv #v[0,0,0,0]) "..".toUTF8.toList [1],
      ∃ path' ∈ s.created (sampleEnv #v[0,0,0,1]) "/".toUTF8.toList [1],
        DirectChild s.baseDir path ∧ path ≠ path' := by
  intro s
  have h := save_stays_inside s (by decide +kernel) (sampleEnv #v[0,0,0,0]) (sampleEnv #v[0,0,0,1])
    (by decide) (by decide) "..".toUTF8.toList "/".toUTF8.toList [1] [1]
  have hdiffer : ((sampleEnv #v[0,0,0,0]).unixNano,(sampleEnv #v[0,0,0,0]).random) ≠
      ((sampleEnv #v[0,0,0,1]).unixNano,(sampleEnv #v[0,0,0,1]).random) := by
    intro hsame
    cases (Prod.mk.inj hsame).2
  have hpath : "uploads/17-00000000-..".toUTF8.toList ∈
      s.created (sampleEnv #v[0,0,0,0]) "..".toUTF8.toList [1] := by decide +kernel
  have hpath' : "uploads/17-00000001-".toUTF8.toList ∈
      s.created (sampleEnv #v[0,0,0,1]) "/".toUTF8.toList [1] := by decide +kernel
  exact ⟨_,hpath,_,hpath',h.1 _ hpath,h.2 hdiffer _ hpath _ hpath'⟩

end LocalDiskStorage
end OpsPlatform.Attachments
