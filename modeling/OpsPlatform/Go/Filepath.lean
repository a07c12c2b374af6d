import OpsPlatform.Go.Basic

/-! `path/filepath` on Unix, for paths that are any strings of bytes. A path is read as a list of
elements, from the root or from where one stands; `Clean` writes that list out again. -/
namespace OpsPlatform.Go.Filepath

def separator : UInt8 := 47
def dot : UInt8 := 46

def isRooted (path : Bytes) : Bool := path.head? = some separator

/-- A double dot, the last element on top: it takes the element before it away, stands where there is
none to take, and is dropped at the root. -/
def up (rooted : Bool) : List Bytes → List Bytes
  | [] => if rooted then [] else [[dot,dot]]
  | top :: rest => if top = [dot,dot] then [dot,dot] :: top :: rest else rest

/-- What `Clean` makes of one more element. -/
def push (rooted : Bool) (stack : List Bytes) (element : Bytes) : List Bytes :=
  if element = [] ∨ element = [dot] then stack
  else if element = [dot,dot] then up rooted stack
  else element :: stack

/-- The elements of a path that `Clean` leaves, the last one on top. -/
def stack (path : Bytes) : List Bytes := (path.splitOn separator).foldl (push (isRooted path)) []

/-- The same in their order: what the path names, by the names along the way. -/
def elements (path : Bytes) : List Bytes := (stack path).reverse

/-- A list of elements as a path; no elements are the root or a dot. -/
def render (rooted : Bool) (elements : List Bytes) : Bytes :=
  let out := (if rooted then [separator] else []) ++ [separator].intercalate elements
  if out = [] then [dot] else out

/-- `filepath.Clean`. -/
def clean (path : Bytes) : Bytes := render (isRooted path) (elements path)

/-- `filepath.Join`. -/
def join (elements : List Bytes) : Bytes :=
  match elements.dropWhile (· = []) with
  | [] => []
  | rest => clean ([separator].intercalate rest)

/-- `filepath.Base`. -/
def base (path : Bytes) : Bytes :=
  if path = [] then [dot]
  else
    let last := (path.rdropWhile (· = separator)).rtakeWhile (· ≠ separator)
    if last = [] then [separator] else last

example : clean "a//b/./../c/".toUTF8.toList = "a/c".toUTF8.toList := by decide +kernel

/-- A name that a directory may have an entry under. -/
structure IsName (name : Bytes) : Prop where
  ne_nil : name ≠ []
  ne_dot : name ≠ [dot]
  ne_dots : name ≠ [dot,dot]
  single : separator ∉ name

/-- The path names an entry of the directory. -/
structure DirectChild (dir path : Bytes) : Prop where
  rooted : isRooted path = isRooted dir
  child : ∃ name, IsName name ∧ elements path = elements dir ++ [name]

/-- A stack that `push` builds: double dots only at the bottom, and not at the root. -/
def Normal (rooted : Bool) : List Bytes → Prop
  | [] => True
  | element :: rest => element ≠ [] ∧ element ≠ [dot] ∧ separator ∉ element ∧
    (element = [dot,dot] → rooted = false ∧ ∀ e ∈ rest, e = [dot,dot]) ∧ Normal rooted rest

section
variable {rooted : Bool} {elements : List Bytes} {element path : Bytes}

lemma IsName.push (h : IsName element) (elements : List Bytes) :
    push rooted elements element = element :: elements := by
  rw [Filepath.push, if_neg (not_or.mpr ⟨h.ne_nil,h.ne_dot⟩), if_neg h.ne_dots]

lemma Normal.up (h : Normal rooted elements) : Normal rooted (up rooted elements) := by
  cases elements with
  | nil =>
    unfold Filepath.up
    split_ifs with hroot
    · trivial
    · exact ⟨by simp,by decide,by decide,fun _ => ⟨by simpa using hroot,by simp⟩,trivial⟩
  | cons top rest =>
    rw [Filepath.up]
    split_ifs with htop
    · refine ⟨by simp,by decide,by decide,fun _ => ?_,h⟩
      obtain ⟨hroot,hrest⟩ := h.2.2.2.1 htop
      exact ⟨hroot,List.forall_mem_cons.mpr ⟨htop,hrest⟩⟩
    · exact h.2.2.2.2

lemma Normal.push (h : Normal rooted elements) (helement : separator ∉ element) :
    Normal rooted (push rooted elements element) := by
  unfold Filepath.push
  split_ifs with hskip hdots
  · exact h
  · exact h.up
  · rw [not_or] at hskip
    exact ⟨hskip.1,hskip.2,helement,fun h => (hdots h).elim,h⟩

lemma Normal.foldl (h : Normal rooted elements) {more : List Bytes}
    (hmore : ∀ e ∈ more, separator ∉ e) : Normal rooted (more.foldl (Filepath.push rooted) elements) := by
  induction more generalizing elements with
  | nil => exact h
  | cons e rest ih =>
    obtain ⟨he,hrest⟩ := List.forall_mem_cons.mp hmore
    exact ih (h.push he) hrest

/-- Pushed once more, the elements of such a stack stay as they are. -/
lemma Normal.rebuild (h : Normal rooted elements) :
    elements.reverse.foldl (Filepath.push rooted) [] = elements := by
  induction elements with
  | nil => rfl
  | cons element rest ih =>
    obtain ⟨hnil,hdot,_,hdots,hrest⟩ := h
    rw [List.reverse_cons, List.foldl_append, ih hrest, List.foldl_cons, List.foldl_nil,
      Filepath.push, if_neg (not_or.mpr ⟨hnil,hdot⟩)]
    split_ifs with hel
    · obtain ⟨hroot,hall⟩ := hdots hel
      cases rest with
      | nil => simp [Filepath.up, hroot, hel]
      | cons top rest => simp [Filepath.up, hall top (by simp), hel]
    · rfl

lemma Normal.single (h : Normal rooted elements) : ∀ e ∈ elements, separator ∉ e ∧ e ≠ [] := by
  induction elements with
  | nil => simp
  | cons element rest ih =>
    rintro e he
    obtain rfl | he := List.mem_cons.mp he
    · exact ⟨h.2.2.1,h.1⟩
    · exact ih h.2.2.2.2 e he

lemma single_of_mem_splitOn (h : element ∈ path.splitOn separator) : separator ∉ element := by
  induction path generalizing element with
  | nil =>
    rw [List.splitOn_nil, List.mem_singleton] at h
    simp [h]
  | cons c path ih =>
    rw [List.splitOn_cons_eq_if_modifyHead] at h
    split_ifs at h with hc
    · obtain rfl | h := List.mem_cons.mp h
      · simp
      · exact ih h
    · cases hsplit : path.splitOn separator with
      | nil => exact (List.splitOn_ne_nil _ _ hsplit).elim
      | cons first rest =>
        rw [hsplit] at h ih
        obtain rfl | h := List.mem_cons.mp h
        · rw [List.mem_cons, not_or]
          exact ⟨fun heq => hc (by simp [heq]),ih List.mem_cons_self⟩
        · exact ih (List.mem_cons_of_mem _ h)

lemma normal_stack (path : Bytes) : Normal (isRooted path) (stack path) :=
  Normal.foldl (show Normal _ [] from trivial) fun _ => single_of_mem_splitOn

section Render
variable (h : ∀ e ∈ elements, separator ∉ e ∧ e ≠ [])
include h

lemma render_of_ne_nil (hne : elements ≠ []) : render rooted elements =
    (if rooted then [separator] else []) ++ [separator].intercalate elements := by
  rw [render, if_neg]
  cases elements with
  | nil => exact (hne rfl).elim
  | cons e rest => cases rest <;> simp [(h e (by simp)).2]

lemma isRooted_render : isRooted (render rooted elements) = rooted := by
  cases elements with
  | nil => cases rooted <;> rfl
  | cons e rest =>
    rw [render_of_ne_nil h (List.cons_ne_nil _ _)]
    obtain ⟨hsep,hne⟩ := h e (by simp)
    cases rooted with
    | true => rfl
    | false =>
      obtain ⟨c,cs,rfl⟩ := List.exists_cons_of_ne_nil hne
      have hc : c ≠ separator := fun hc => hsep (by simp [hc])
      cases rest <;> simp [isRooted, hc]

variable (rooted) in
lemma splitOn_render : ∃ front, (render rooted elements).splitOn separator = front ++ elements ∧
    ∀ e ∈ front, e = [] ∨ e = [dot] := by
  cases helements : elements with
  | nil =>
    cases rooted with
    | false => exact ⟨[[dot]],by decide,by simp⟩
    | true => exact ⟨[[],[]],by decide,by simp⟩
  | cons e rest =>
    rw [← helements]
    have hne : elements ≠ [] := by simp [helements]
    rw [render_of_ne_nil h hne]
    have hsplit := List.splitOn_intercalate separator (fun e he => (h e he).1) hne
    cases rooted with
    | false => exact ⟨[],by simpa using hsplit,by simp⟩
    | true =>
      refine ⟨[[]],?_,by simp⟩
      have hfront := List.splitOn_append_cons_self (a := separator) [] ([separator].intercalate elements)
      rw [hsplit] at hfront
      simpa using hfront

end Render

lemma foldl_push_of_skipped {front : List Bytes} (h : ∀ e ∈ front, e = [] ∨ e = [dot]) :
    front.foldl (push rooted) elements = elements := by
  induction front with
  | nil => rfl
  | cons e rest ih =>
    obtain ⟨he,hrest⟩ := List.forall_mem_cons.mp h
    rw [List.foldl_cons, push, if_pos he]
    exact ih hrest

lemma stack_render (h : Normal rooted elements) : stack (render rooted elements.reverse) = elements := by
  have hsingle : ∀ e ∈ elements.reverse, separator ∉ e ∧ e ≠ [] :=
    fun e he => h.single e (List.mem_reverse.mp he)
  obtain ⟨front,hsplit,hfront⟩ := splitOn_render rooted hsingle
  rw [stack, isRooted_render hsingle, hsplit, List.foldl_append, foldl_push_of_skipped hfront, h.rebuild]

/-- `Clean` does not change what a path names. -/
theorem isRooted_clean (path : Bytes) : isRooted (clean path) = isRooted path :=
  isRooted_render fun e he => (normal_stack path).single e (List.mem_reverse.mp he)

theorem elements_clean (path : Bytes) : Filepath.elements (clean path) = Filepath.elements path := by
  rw [clean, Filepath.elements, Filepath.elements, stack_render (normal_stack path)]

/-- An element that names one thing, whatever slashes are behind it, makes a child of a directory. -/
theorem elements_join {dir name : Bytes} {rest : List Bytes} (hdir : dir ≠ []) (hname : IsName name)
    (helement : element.splitOn separator = name :: rest) (hrest : ∀ e ∈ rest, e = []) :
    isRooted (join [dir,element]) = isRooted dir ∧
      Filepath.elements (join [dir,element]) = Filepath.elements dir ++ [name] := by
  have hjoin : join [dir,element] = clean (dir ++ separator :: element) := by
    simp [join, hdir]
  have hrooted : isRooted (dir ++ separator :: element) = isRooted dir := by
    obtain ⟨c,cs,rfl⟩ := List.exists_cons_of_ne_nil hdir
    rfl
  rw [hjoin]
  refine ⟨(isRooted_clean _).trans hrooted,?_⟩
  rw [elements_clean, Filepath.elements, stack, List.splitOn_append_cons_self, hrooted,
    List.foldl_append, helement, List.foldl_cons, hname.push,
    foldl_push_of_skipped fun e he => .inl (hrest e he), List.reverse_cons]
  rfl

/-- A base is a slash, or free of them. -/
theorem base_cases (path : Bytes) : base path = [separator] ∨ separator ∉ base path := by
  unfold base
  dsimp only
  split_ifs
  · exact .inr (by decide)
  · exact .inl rfl
  · refine .inr fun h => ?_
    simpa using List.mem_rtakeWhile_imp h

end
end OpsPlatform.Go.Filepath
