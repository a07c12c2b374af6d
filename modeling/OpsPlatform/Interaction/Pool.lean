import OpsPlatform.Interaction.Program
import OpsPlatform.Interaction.Trace

/-! Programs running concurrently over one state: each step executes one operation of one program.
A program is judged by what it does after the answers it has seen, so that a judgement made once
about the program alone holds of it in every interleaving. -/
namespace Interaction

variable {ι Op : Type} {Res : Op → Type} {ε α β S : Type}

/-- An operation with the answer it got. -/
structure Event (Res : Op → Type) where
  op : Op
  res : Res op

namespace Program
variable (R : List (Event Res) → Event Res → Prop) (P : List (Event Res) → Op → Prop)

/-- Having seen `h`, the program issues only operations that satisfy `P`, as long as the answers
satisfy `R`, and finishes as `Q` says. -/
def Ensures : Program Res ε α → (List (Event Res) → Except ε α → Prop) → List (Event Res) → Prop
  | ret a, Q, h => Q h (.ok a)
  | fail e, Q, h => Q h (.error e)
  | call op next, Q, h => P h op ∧ ∀ r, R h ⟨op,r⟩ → (next r).Ensures Q (h ++ [⟨op,r⟩])

variable {R P} {Q Q' : List (Event Res) → Except ε α → Prop} {h : List (Event Res)}

@[simp] theorem ensures_ret (a : α) : (ret a).Ensures R P Q h ↔ Q h (.ok a) := Iff.rfl

@[simp] theorem ensures_fail (e : ε) : (fail e).Ensures R P Q h ↔ Q h (.error e) := Iff.rfl

theorem ensures_call (op : Op) (next : Res op → Program Res ε α) :
    (call op next).Ensures R P Q h ↔
      P h op ∧ ∀ r, R h ⟨op,r⟩ → (next r).Ensures R P Q (h ++ [⟨op,r⟩]) := Iff.rfl

theorem ensures_fromResult (x : Except ε α) :
    (fromResult x).Ensures R P Q h ↔ Q h x := by cases x <;> rfl

/-- The second program starts with what the first has seen; an error skips it. -/
theorem ensures_bind (p : Program Res ε α) (f : α → Program Res ε β)
    {Q : List (Event Res) → Except ε β → Prop} (h : List (Event Res)) :
    (p >>= f).Ensures R P Q h ↔ p.Ensures R P (fun h x =>
      match x with
      | .ok a => (f a).Ensures R P Q h
      | .error e => Q h (.error e)) h := by
  induction p generalizing h with
  | ret a => rfl
  | fail e => rfl
  | call op next ih => simp only [call_bind, ensures_call, ih]

theorem ensures_map (f : α → β) (p : Program Res ε α)
    {Q : List (Event Res) → Except ε β → Prop} (h : List (Event Res)) :
    (f <$> p).Ensures R P Q h ↔ p.Ensures R P (fun h x => Q h (x.map f)) h := by
  rw [← bind_pure_comp, ensures_bind]
  refine iff_of_eq (congrArg (fun Q => p.Ensures R P Q h) ?_)
  funext h x
  cases x <;> rfl

theorem ensures_failIf (c : Prop) [Decidable c] (e : ε) {Q : List (Event Res) → Except ε Unit → Prop} :
    (failIf c e).Ensures R P Q h ↔ (c → Q h (.error e)) ∧ (¬ c → Q h (.ok ())) := by
  by_cases hc : c
  · rw [failIf_true hc, ensures_fail]
    simp [hc]
  · rw [failIf_false hc, ensures_ret]
    simp [hc]

theorem ensures_failIf_bind (c : Prop) [Decidable c] (e : ε) (f : Unit → Program Res ε α) :
    (failIf c e >>= f).Ensures R P Q h ↔
      (c → Q h (.error e)) ∧ (¬ c → (f ()).Ensures R P Q h) := by
  by_cases hc : c
  · rw [failIf_true hc, fail_bind, ensures_fail]
    simp [hc]
  · rw [failIf_false hc, ret_bind]
    simp [hc]

/-- An error that is kept as a value ends nothing. -/
theorem ensures_attempt (p : Program Res ε α)
    {Q : List (Event Res) → Except ε (Except ε α) → Prop} (h : List (Event Res)) :
    p.attempt.Ensures R P Q h ↔ p.Ensures R P (fun h x => Q h (.ok x)) h := by
  induction p generalizing h with
  | ret a => rfl
  | fail e => rfl
  | call op next ih => simp only [attempt, ensures_call, ih]

/-- Weaken the obligations, keeping that the final sight extends the first. -/
theorem Ensures.imp {P' : List (Event Res) → Op → Prop} {p : Program Res ε α}
    (hp : p.Ensures R P Q h) (hP : ∀ h op, P h op → P' h op)
    (hQ : ∀ h' x, h <+: h' → Q h' x → Q' h' x) : p.Ensures R P' Q' h := by
  induction p generalizing h with
  | ret a => exact hQ h _ List.prefix_rfl hp
  | fail e => exact hQ h _ List.prefix_rfl hp
  | call op next ih =>
    refine ⟨hP h op hp.1,fun r hr => ih r (hp.2 r hr) ?_⟩
    intro h' x hh'
    exact hQ h' x ((List.prefix_append h _).trans hh')

/-- Two judgements about one program hold together. -/
theorem Ensures.and {P' : List (Event Res) → Op → Prop} {p : Program Res ε α}
    (hp : p.Ensures R P Q h) (hp' : p.Ensures R P' Q' h) :
    p.Ensures R (fun h op => P h op ∧ P' h op) (fun h x => Q h x ∧ Q' h x) h := by
  induction p generalizing h with
  | ret a => exact ⟨hp,hp'⟩
  | fail e => exact ⟨hp,hp'⟩
  | call op next ih => exact ⟨⟨hp.1,hp'.1⟩,fun r hr => ih r (hp.2 r hr) (hp'.2 r hr)⟩

/-- Where only the operations matter, an error ends all obligations. -/
theorem Ensures.andThen {p : Program Res ε α} {f : α → Program Res ε β} (hp : p.Ensures R P Q h)
    (hf : ∀ h' a, h <+: h' → Q h' (.ok a) → (f a).Ensures R P (fun _ _ => True) h') :
    (p >>= f).Ensures R P (fun _ _ => True) h := by
  rw [ensures_bind]
  refine hp.imp (fun _ _ h => h) fun h' x hh' hx => ?_
  cases x with
  | error e => trivial
  | ok a => exact hf h' a hh' hx

theorem ensures_fromResult_bind {x : Except ε α} {f : α → Program Res ε β}
    (hf : ∀ a, x = .ok a → (f a).Ensures R P (fun _ _ => True) h) :
    (fromResult x >>= f).Ensures R P (fun _ _ => True) h := by
  cases x with
  | error e => trivial
  | ok a => exact hf a rfl

theorem ensures_failIf_andThen {c : Prop} [Decidable c] {e : ε} {f : Unit → Program Res ε α}
    (hf : ¬ c → (f ()).Ensures R P (fun _ _ => True) h) :
    (failIf c e >>= f).Ensures R P (fun _ _ => True) h :=
  (ensures_failIf_bind c e f).mpr ⟨fun _ => trivial,hf⟩

theorem ensures_trivial (p : Program Res ε α) (h : List (Event Res)) :
    p.Ensures R (fun _ _ => True) (fun _ _ => True) h := by
  induction p generalizing h with
  | ret a => trivial
  | fail e => trivial
  | call op next ih => exact ⟨trivial,fun r _ => ih r _⟩

/-- What nothing seen later takes away holds to the end. -/
theorem ensures_stable {K : List (Event Res) → Prop} (hK : ∀ h e, K h → K (h ++ [e]))
    (p : Program Res ε α) (hh : K h) : p.Ensures R (fun h _ => K h) (fun h _ => K h) h := by
  induction p generalizing h with
  | ret a => exact hh
  | fail e => exact hh
  | call op next ih => exact ⟨hh,fun r _ => ih r (hK h _ hh)⟩

theorem ensures_of_only {p : Program Res ε α} {K : Op → Prop} (hp : p.Only K)
    (hK : ∀ op, K op → ∀ h, P h op) (h : List (Event Res)) :
    p.Ensures R P (fun _ _ => True) h := by
  induction p generalizing h with
  | ret a => trivial
  | fail e => trivial
  | call op next ih =>
    rw [only_call_iff] at hp
    exact ⟨hK op hp.1 h,fun r _ => ih r (hp.2 r) _⟩

/-- The outcome of a finished program. -/
def result : Program Res ε α → Option (Except ε α)
  | ret a => some (.ok a)
  | fail e => some (.error e)
  | call _ _ => none

theorem Ensures.result {p : Program Res ε α} (hp : p.Ensures R P Q h) {x : Except ε α}
    (hx : p.result = some x) : Q h x := by
  cases p <;> cases hx <;> exact hp

attribute [irreducible] Ensures

end Program

/-- The shared state and the programs under way, each with what it has seen so far. -/
structure Pool (ι : Type) (Res : Op → Type) (ε α S : Type) where
  state : S
  thread : ι → Program Res ε α
  seen : ι → List (Event Res)

namespace Pool
variable [DecidableEq ι]

/-- All programs at their beginning. -/
def start (s : S) (thread : ι → Program Res ε α) : Pool ι Res ε α S := ⟨s,thread,fun _ => []⟩

/-- One operation of one program, answered as `answers` allows. -/
inductive Step (answers : (op : Op) → S → Res op → S → Prop) (p : Pool ι Res ε α S) :
    ι × Event Res → Pool ι Res ε α S → Prop
  | mk {i : ι} {op : Op} {next : Res op → Program Res ε α} {r : Res op} {t : S}
      (hthread : p.thread i = .call op next) (hanswer : answers op p.state r t) :
      Step answers p (i,⟨op,r⟩)
        ⟨t,Function.update p.thread i (next r),Function.update p.seen i (p.seen i ++ [⟨op,r⟩])⟩

section Step
variable {answers : (op : Op) → S → Res op → S → Prop} {p q : Pool ι Res ε α S}
  {l : ι × Event Res} {R : ι → List (Event Res) → Event Res → Prop}
  {P : ι → List (Event Res) → Op → Prop} {Q : ι → List (Event Res) → Except ε α → Prop}

theorem Step.answered (h : Step answers p l q) : answers l.2.op p.state l.2.res q.state := by
  cases h with
  | mk _ hanswer => exact hanswer

theorem Step.seen (h : Step answers p l q) :
    q.seen = Function.update p.seen l.1 (p.seen l.1 ++ [l.2]) := by
  cases h; rfl

lemma Step.mem_seen (h : Step answers p l q) {i : ι} {e : Event Res} :
    e ∈ q.seen i ↔ e ∈ p.seen i ∨ i = l.1 ∧ e = l.2 := by
  rw [h.seen, Function.update_apply]
  split_ifs with hi
  · subst hi
    simp
  · simp [hi]

/-- A step meets the obligation of the program it belongs to, and every program keeps its
judgement. -/
theorem Step.ensures (h : Step answers p l q)
    (hp : ∀ i, (p.thread i).Ensures (R i) (P i) (Q i) (p.seen i)) (hR : R l.1 (p.seen l.1) l.2) :
    P l.1 (p.seen l.1) l.2.op ∧ ∀ i, (q.thread i).Ensures (R i) (P i) (Q i) (q.seen i) := by
  cases h with
  | @mk i op next r t hthread =>
    have hi := hp i
    rw [hthread, Program.ensures_call] at hi
    refine ⟨hi.1,fun j => ?_⟩
    by_cases hj : j = i
    · subst hj
      simpa only [Function.update_self] using hi.2 r hR
    · simpa only [Function.update_of_ne hj] using hp j

/-- The answers a program may get while an invariant of the state holds. -/
def Rely (answers : (op : Op) → S → Res op → S → Prop) (I : S → Prop)
    (_ : List (Event Res)) (e : Event Res) : Prop := ∃ s t, I s ∧ answers e.op s e.res t

/-- Programs that rely on an invariant and do nothing to break it keep it together. -/
theorem inv_of_ensures {I : S → Prop} {ls : List (ι × Event Res)}
    (hkeep : ∀ i h op s r t, P i h op → I s → answers op s r t → I t)
    (h : Trace (Step answers) p ls q) (hp : I p.state)
    (hthreads : ∀ i, (p.thread i).Ensures (Rely answers I) (P i) (Q i) (p.seen i)) :
    (I q.state ∧ ∀ i, (q.thread i).Ensures (Rely answers I) (P i) (Q i) (q.seen i)) ∧
    Trace (fun p l q => Step answers p l q ∧ I p.state ∧ P l.1 (p.seen l.1) l.2.op) p ls q := by
  induction h with
  | nil => exact ⟨⟨hp,hthreads⟩,.nil⟩
  | @snoc t u ls l _ hl ih =>
    obtain ⟨⟨ht,hthreads⟩,htrace⟩ := ih
    obtain ⟨hP,hnext⟩ := hl.ensures hthreads ⟨_,_,ht,hl.answered⟩
    exact ⟨⟨hkeep _ _ _ _ _ _ hP ht hl.answered,hnext⟩,htrace.snoc ⟨hl,ht,hP⟩⟩

/-- What a program has seen are the labels of its steps. -/
theorem mem_seen {s : S} {thread : ι → Program Res ε α} {ls : List (ι × Event Res)}
    (h : Trace (Step answers) (start s thread) ls p) (i : ι) (e : Event Res) :
    e ∈ p.seen i ↔ (i,e) ∈ ls := by
  induction h with
  | nil => simp [start]
  | @snoc p q ls l _ hl ih =>
    rw [hl.seen, Function.update_apply, List.mem_append, List.mem_singleton, ← ih]
    split_ifs with hi
    · subst hi
      rw [List.mem_append, List.mem_singleton]
      simp [Prod.ext_iff]
    · simp [Prod.ext_iff, hi]

end Step

variable (exec : (op : Op) → S → Res op × S)

/-- The next step of one program; a finished program makes none. -/
def next? (p : Pool ι Res ε α S) (i : ι) : Option ((ι × Event Res) × Pool ι Res ε α S) :=
  match p.thread i with
  | .call op next =>
    let r := (exec op p.state).1
    some ((i,⟨op,r⟩),⟨(exec op p.state).2,Function.update p.thread i (next r),
      Function.update p.seen i (p.seen i ++ [⟨op,r⟩])⟩)
  | _ => none

/-- Let the programs make one step each in the order of a schedule. -/
def play (p : Pool ι Res ε α S) : List ι → List (ι × Event Res) × Pool ι Res ε α S
  | [] => ([],p)
  | i :: schedule =>
    match p.next? exec i with
    | some (l,q) => (l :: (play q schedule).1,(play q schedule).2)
    | none => play p schedule

/-- Every step of the schedule passes the test. -/
def passes (good : Pool ι Res ε α S → ι × Event Res → Bool) (p : Pool ι Res ε α S) :
    List ι → Bool
  | [] => true
  | i :: schedule =>
    match p.next? exec i with
    | some (l,q) => good p l && passes good q schedule
    | none => passes good p schedule

variable {answers : (op : Op) → S → Res op → S → Prop} {exec}

/-- The next step is one the answers allow, where an invariant of the function says that they allow
its answers. -/
lemma step_of_next?_of_inv {I : S → Prop}
    (hexec : ∀ op s, I s → answers op s (exec op s).1 (exec op s).2 ∧ I (exec op s).2)
    {p q : Pool ι Res ε α S} {i : ι} {l : ι × Event Res} (h : p.next? exec i = some (l,q))
    (hp : I p.state) : Step answers p l q ∧ I q.state := by
  unfold next? at h
  split at h
  · rename_i op next hthread
    cases h
    obtain ⟨hanswer,hq⟩ := hexec op p.state hp
    exact ⟨Step.mk hthread hanswer,hq⟩
  · cases h

lemma step_of_next? (hexec : ∀ op s, answers op s (exec op s).1 (exec op s).2)
    {p q : Pool ι Res ε α S} {i : ι} {l : ι × Event Res} (h : p.next? exec i = some (l,q)) :
    Step answers p l q :=
  (step_of_next?_of_inv (I := fun _ => True) (fun op s _ => ⟨hexec op s,trivial⟩) h trivial).1

/-- So is every step of a schedule. -/
theorem trace_play_of_inv {I : S → Prop}
    (hexec : ∀ op s, I s → answers op s (exec op s).1 (exec op s).2 ∧ I (exec op s).2)
    (good : Pool ι Res ε α S → ι × Event Res → Bool) (p : Pool ι Res ε α S) (schedule : List ι)
    (hgood : p.passes exec good schedule = true) (hp : I p.state) :
    Trace (fun p l q => Step answers p l q ∧ good p l = true) p (p.play exec schedule).1
      (p.play exec schedule).2 := by
  induction schedule generalizing p with
  | nil => exact .nil
  | cons i schedule ih =>
    unfold play
    unfold passes at hgood
    cases hnext : p.next? exec i with
    | none =>
      rw [hnext] at hgood
      exact ih p hgood hp
    | some lq =>
      rw [hnext, Bool.and_eq_true] at hgood
      obtain ⟨hstep,hq⟩ := step_of_next?_of_inv hexec hnext hp
      exact (Trace.one ⟨hstep,hgood.1⟩).append (ih lq.2 hgood.2 hq)

theorem trace_play (hexec : ∀ op s, answers op s (exec op s).1 (exec op s).2)
    (good : Pool ι Res ε α S → ι × Event Res → Bool) (p : Pool ι Res ε α S) (schedule : List ι)
    (hgood : p.passes exec good schedule = true) :
    Trace (fun p l q => Step answers p l q ∧ good p l = true) p (p.play exec schedule).1
      (p.play exec schedule).2 :=
  trace_play_of_inv (I := fun _ => True) (fun op s _ => ⟨hexec op s,trivial⟩) good p schedule hgood
    trivial

lemma passes_true (p : Pool ι Res ε α S) (schedule : List ι) :
    p.passes exec (fun _ _ => true) schedule = true := by
  induction schedule generalizing p with
  | nil => rfl
  | cons i schedule ih =>
    unfold passes
    split
    · exact ih _
    · exact ih p

end Pool
end Interaction
