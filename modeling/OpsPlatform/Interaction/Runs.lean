import OpsPlatform.Interaction.Pool

/-! Programs executed alone over a state whose operations have more than one possible answer: the
executions of a program, and the weakest precondition for all of them to end well. -/
namespace Interaction

variable {Op : Type} {Res : Op → Type} {ε α β S : Type}

namespace Program

/-- One complete execution, each operation answered as `answers` allows. -/
inductive Runs (answers : (op : Op) → S → Res op → S → Prop) :
    Program Res ε α → S → Except ε α → S → Prop
  | ret (a : α) (s : S) : Runs answers (ret a) s (.ok a) s
  | fail (e : ε) (s : S) : Runs answers (fail e) s (.error e) s
  | call {op : Op} {next : Res op → Program Res ε α} {s t u : S} {r : Res op} {x : Except ε α}
      (hanswer : answers op s r t) (hnext : Runs answers (next r) t x u) :
      Runs answers (call op next) s x u

variable (answers : (op : Op) → S → Res op → S → Prop)

/-- Every execution from this state ends as `Q` says. -/
def Wp : Program Res ε α → S → (Except ε α → S → Prop) → Prop
  | ret a, s, Q => Q (.ok a) s
  | fail e, s, Q => Q (.error e) s
  | call op next, s, Q => ∀ r t, answers op s r t → (next r).Wp t Q

variable {answers} {Q Q' : Except ε α → S → Prop} {s t : S} {p : Program Res ε α}

theorem wp_iff : p.Wp answers s Q ↔ ∀ x t, p.Runs answers s x t → Q x t := by
  induction p generalizing s with
  | ret a =>
    refine ⟨?_,fun h => h _ _ (.ret a s)⟩
    intro h x t hruns
    cases hruns
    exact h
  | fail e =>
    refine ⟨?_,fun h => h _ _ (.fail e s)⟩
    intro h x t hruns
    cases hruns
    exact h
  | call op next ih =>
    constructor
    · intro h x u hruns
      cases hruns with
      | call hanswer hnext => exact (ih _).mp (h _ _ hanswer) _ _ hnext
    · intro h r t hanswer
      exact (ih r).mpr fun x u hnext => h x u (.call hanswer hnext)

theorem Runs.wp {x : Except ε α} (h : p.Runs answers s x t) (hp : p.Wp answers s Q) : Q x t :=
  wp_iff.mp hp x t h

@[simp] theorem wp_ret (a : α) : (ret a).Wp answers s Q ↔ Q (.ok a) s := Iff.rfl

@[simp] theorem wp_fail (e : ε) : (fail e).Wp answers s Q ↔ Q (.error e) s := Iff.rfl

theorem wp_call (op : Op) (next : Res op → Program Res ε α) :
    (call op next).Wp answers s Q ↔ ∀ r t, answers op s r t → (next r).Wp answers t Q := Iff.rfl

@[simp] theorem wp_fromResult (x : Except ε α) : (fromResult x).Wp answers s Q ↔ Q x s := by
  cases x <;> rfl

/-- The second program starts where the first one returned; an error skips it. -/
theorem wp_bind (p : Program Res ε α) (f : α → Program Res ε β) {Q : Except ε β → S → Prop} :
    (p >>= f).Wp answers s Q ↔ p.Wp answers s fun x t =>
      match x with
      | .ok a => (f a).Wp answers t Q
      | .error e => Q (.error e) t := by
  induction p generalizing s with
  | ret a => rfl
  | fail e => rfl
  | call op next ih => simp only [call_bind, wp_call, ih]

theorem wp_map (f : α → β) (p : Program Res ε α) {Q : Except ε β → S → Prop} :
    (f <$> p).Wp answers s Q ↔ p.Wp answers s fun x t => Q (x.map f) t := by
  rw [← bind_pure_comp, wp_bind]
  refine iff_of_eq (congrArg (fun Q => p.Wp answers s Q) ?_)
  funext x t
  cases x <;> simp only [pure_eq, wp_ret, Except.map]

theorem wp_failIf_bind (c : Prop) [Decidable c] (e : ε) (f : Unit → Program Res ε α) :
    (failIf c e >>= f).Wp answers s Q ↔
      (c → Q (.error e) s) ∧ (¬ c → (f ()).Wp answers s Q) := by
  by_cases hc : c
  · rw [failIf_true hc, fail_bind, wp_fail]
    simp [hc]
  · rw [failIf_false hc, ret_bind]
    simp [hc]

theorem wp_failIf (c : Prop) [Decidable c] (e : ε) {Q : Except ε Unit → S → Prop} :
    (failIf c e).Wp answers s Q ↔ (c → Q (.error e) s) ∧ (¬ c → Q (.ok ()) s) := by
  by_cases hc : c
  · rw [failIf_true hc, wp_fail]
    simp [hc]
  · rw [failIf_false hc, wp_ret]
    simp [hc]

theorem wp_attempt {Q : Except ε (Except ε α) → S → Prop} :
    p.attempt.Wp answers s Q ↔ p.Wp answers s fun x t => Q (.ok x) t := by
  induction p generalizing s with
  | ret a => rfl
  | fail e => rfl
  | call op next ih => simp only [attempt, wp_call, ih]

theorem Wp.imp (hp : p.Wp answers s Q) (h : ∀ x t, Q x t → Q' x t) : p.Wp answers s Q' :=
  wp_iff.mpr fun x t hruns => h x t (hruns.wp hp)

/-- Fewer answers, fewer executions. -/
theorem Wp.mono {answers' : (op : Op) → S → Res op → S → Prop} (hp : p.Wp answers s Q)
    (h : ∀ op s r t, answers' op s r t → answers op s r t) : p.Wp answers' s Q := by
  induction p generalizing s with
  | ret a => exact hp
  | fail e => exact hp
  | call op next ih => exact fun r t hanswer => ih r (hp r t (h op s r t hanswer))

/-- The first program establishes `I`, from which the second one is judged. -/
theorem Wp.andThen {I : Except ε α → S → Prop} {f : α → Program Res ε β}
    {Q : Except ε β → S → Prop} (hp : p.Wp answers s I)
    (hok : ∀ a t, I (.ok a) t → (f a).Wp answers t Q)
    (herror : ∀ e t, I (.error e) t → Q (.error e) t) : (p >>= f).Wp answers s Q := by
  rw [wp_bind]
  refine hp.imp fun x t hx => ?_
  cases x with
  | ok a => exact hok a t hx
  | error e => exact herror e t hx

/-- Operations that keep an invariant make a program that keeps it. -/
theorem wp_of_only {I : S → Prop} {P : Op → Prop} (hp : p.Only P)
    (hkeep : ∀ op s r t, P op → I s → answers op s r t → I t) (hs : I s) :
    p.Wp answers s fun _ t => I t := by
  induction p generalizing s with
  | ret a => exact hs
  | fail e => exact hs
  | call op next ih =>
    rw [only_call_iff] at hp
    exact fun r t hanswer => ih r (hp.2 r) (hkeep op s r t hp.1 hs hanswer)

theorem runs_call {op : Op} {next : Res op → Program Res ε α} {x : Except ε α} :
    (call op next).Runs answers s x t ↔
      ∃ r u, answers op s r u ∧ (next r).Runs answers u x t := by
  constructor
  · intro h
    cases h with
    | call hanswer hnext => exact ⟨_,_,hanswer,hnext⟩
  · rintro ⟨r,u,hanswer,hnext⟩
    exact .call hanswer hnext

/-- An execution of two programs in sequence is one of the first, and one of the second from where
the first returned. -/
theorem runs_bind {p : Program Res ε α} {f : α → Program Res ε β} {x : Except ε β} :
    (p >>= f).Runs answers s x t ↔
      (∃ a u, p.Runs answers s (.ok a) u ∧ (f a).Runs answers u x t) ∨
      ∃ e, p.Runs answers s (.error e) t ∧ x = .error e := by
  induction p generalizing s with
  | ret a =>
    rw [ret_bind]
    constructor
    · intro h
      exact .inl ⟨a,s,.ret a s,h⟩
    · rintro (⟨_,_,⟨⟩,h⟩ | ⟨e,⟨⟩,_⟩)
      exact h
  | fail e =>
    rw [fail_bind]
    constructor
    · rintro ⟨⟩
      exact .inr ⟨e,.fail e _,rfl⟩
    · rintro (⟨_,_,⟨⟩,_⟩ | ⟨_,⟨⟩,rfl⟩)
      exact .fail e _
  | call op next ih =>
    rw [call_bind]
    constructor
    · intro h
      cases h with
      | call hanswer hnext =>
        obtain ⟨a,u,hp,hf⟩ | ⟨e,hp,rfl⟩ := (ih _).mp hnext
        · exact .inl ⟨a,u,.call hanswer hp,hf⟩
        · exact .inr ⟨e,.call hanswer hp,rfl⟩
    · rintro (⟨a,u,hp,hf⟩ | ⟨e,hp,rfl⟩)
      · cases hp with
        | call hanswer hnext => exact .call hanswer ((ih _).mpr (.inl ⟨a,u,hnext,hf⟩))
      · cases hp with
        | call hanswer hnext => exact .call hanswer ((ih _).mpr (.inr ⟨e,hnext,rfl⟩))

/-- A program whose result is dropped leaves what it would leave. -/
theorem Runs.of_discard {p : Program Res ε α} {b : β} {x : Except ε β}
    (h : (do let _ ← p; return b : Program Res ε β).Runs answers s x t) :
    ∃ y, p.Runs answers s y t := by
  obtain ⟨a,u,hp,hret⟩ | ⟨e,hp,_⟩ := runs_bind.mp h
  · cases hret
    exact ⟨.ok a,hp⟩
  · exact ⟨.error e,hp⟩

theorem Runs.discard {x : Except ε α} (h : p.Runs answers s x t) (b : β) :
    ∃ y, (do let _ ← p; return b : Program Res ε β).Runs answers s y t := by
  cases x with
  | ok a => exact ⟨.ok b,runs_bind.mpr (.inl ⟨a,t,h,.ret b t⟩)⟩
  | error e => exact ⟨.error e,runs_bind.mpr (.inr ⟨e,h,rfl⟩)⟩

/-- More answers, more executions. -/
theorem Runs.mono {answers' : (op : Op) → S → Res op → S → Prop} {x : Except ε α}
    (h : p.Runs answers s x t) (hmore : ∀ op s r t, answers op s r t → answers' op s r t) :
    p.Runs answers' s x t := by
  induction h with
  | ret a s => exact .ret a s
  | fail e s => exact .fail e s
  | call hanswer _ ih => exact .call (hmore _ _ _ _ hanswer) ih

/-- An execution whose result is mapped. -/
theorem runs_map {f : α → β} {x : Except ε β} :
    (f <$> p).Runs answers s x t ↔ ∃ y, p.Runs answers s y t ∧ x = y.map f := by
  rw [← bind_pure_comp, runs_bind]
  constructor
  · rintro (⟨a,u,hp,hret⟩ | ⟨e,hp,rfl⟩)
    · cases hret
      exact ⟨.ok a,hp,rfl⟩
    · exact ⟨.error e,hp,rfl⟩
  · rintro ⟨y,hp,rfl⟩
    cases y with
    | ok a => exact .inl ⟨a,t,hp,.ret (f a) t⟩
    | error e => exact .inr ⟨e,hp,rfl⟩

theorem runs_fromResult {x y : Except ε α} :
    (fromResult x).Runs answers s y t ↔ y = x ∧ t = s := by
  cases x with
  | ok a =>
    constructor
    · rintro ⟨⟩; exact ⟨rfl,rfl⟩
    · rintro ⟨rfl,rfl⟩; exact .ret a t
  | error e =>
    constructor
    · rintro ⟨⟩; exact ⟨rfl,rfl⟩
    · rintro ⟨rfl,rfl⟩; exact .fail e t

/-- A guard lets an execution through, or ends it. -/
theorem runs_failIf_bind {c : Prop} [Decidable c] {e : ε} {f : Unit → Program Res ε α}
    {x : Except ε α} : (failIf c e >>= f).Runs answers s x t ↔
      (c ∧ x = .error e ∧ t = s) ∨ (¬ c ∧ (f ()).Runs answers s x t) := by
  by_cases hc : c
  · rw [failIf_true hc, fail_bind, ← fromResult_error, runs_fromResult]
    simp [hc]
  · rw [failIf_false hc, ret_bind]
    simp [hc]

/-- Where every operation has one answer there is one execution. -/
theorem Runs.eq_run {exec : (op : Op) → S → Res op × S} {x : Except ε α}
    (h : p.Runs answers s x t) (hexec : ∀ op s r t, answers op s r t → exec op s = (r,t)) :
    p.run exec s = (x,t) := by
  induction h with
  | ret a s => exact run_ret exec a s
  | fail e s => exact run_fail exec e s
  | call hanswer _ ih => rw [run_call, hexec _ _ _ _ hanswer, ih]

/-- The execution by a function is one of the executions its answers allow, where an invariant of
the function says that they do. -/
theorem runs_run_of_inv {exec : (op : Op) → S → Res op × S} {I : S → Prop}
    (hexec : ∀ op s, I s → answers op s (exec op s).1 (exec op s).2 ∧ I (exec op s).2)
    (p : Program Res ε α) (hs : I s) : p.Runs answers s (p.run exec s).1 (p.run exec s).2 := by
  induction p generalizing s with
  | ret a => rw [run_ret]; exact .ret a s
  | fail e => rw [run_fail]; exact .fail e s
  | call op next ih =>
    rw [run_call]
    obtain ⟨hanswer,hnext⟩ := hexec op s hs
    exact .call hanswer (ih _ hnext)

theorem runs_run {exec : (op : Op) → S → Res op × S}
    (hexec : ∀ op s, answers op s (exec op s).1 (exec op s).2) (p : Program Res ε α) (s : S) :
    p.Runs answers s (p.run exec s).1 (p.run exec s).2 :=
  runs_run_of_inv (I := fun _ => True) (fun op s _ => ⟨hexec op s,trivial⟩) p trivial

/-- A judgement about a program holds of its executions: what the answers establish step by step
is there at the end, together with what the program ensures of its result. -/
theorem Ensures.runs {answers : (op : Op) → S → Res op → S → Prop} {s t : S} {x : Except ε α}
    {p : Program Res ε α} {R : List (Event Res) → Event Res → Prop}
    {P : List (Event Res) → Op → Prop} {Q : List (Event Res) → Except ε α → Prop}
    {h : List (Event Res)} {J : List (Event Res) → S → Prop} (hp : p.Ensures R P Q h)
    (hruns : p.Runs answers s x t) (hstart : J h s)
    (hstep : ∀ h op s r t, P h op → J h s → answers op s r t →
      R h ⟨op,r⟩ ∧ J (h ++ [⟨op,r⟩]) t) : ∃ h', J h' t ∧ Q h' x := by
  induction hruns generalizing h with
  | ret a s => exact ⟨h,hstart,(ensures_ret a).mp hp⟩
  | fail e s => exact ⟨h,hstart,(ensures_fail e).mp hp⟩
  | call hanswer _ ih =>
    obtain ⟨hP,hnext⟩ := (ensures_call _ _).mp hp
    obtain ⟨hR,hJ⟩ := hstep _ _ _ _ _ hP hstart hanswer
    exact ih (hnext _ hR) hJ

/-- One complete execution together with the answers it gets, in their order. -/
inductive Executes (answers : (op : Op) → S → Res op → S → Prop) :
    Program Res ε α → S → List (Event Res) → Except ε α → S → Prop
  | ret (a : α) (s : S) : Executes answers (ret a) s [] (.ok a) s
  | fail (e : ε) (s : S) : Executes answers (fail e) s [] (.error e) s
  | call {op : Op} {next : Res op → Program Res ε α} {s t u : S} {r : Res op}
      {es : List (Event Res)} {x : Except ε α} (hanswer : answers op s r t)
      (hnext : Executes answers (next r) t es x u) :
      Executes answers (call op next) s (⟨op,r⟩ :: es) x u

theorem Executes.runs {es : List (Event Res)} {x : Except ε α} (h : p.Executes answers s es x t) :
    p.Runs answers s x t := by
  induction h with
  | ret a s => exact .ret a s
  | fail e s => exact .fail e s
  | call hanswer _ ih => exact .call hanswer ih

theorem Runs.executes {x : Except ε α} (h : p.Runs answers s x t) :
    ∃ es, p.Executes answers s es x t := by
  induction h with
  | ret a s => exact ⟨[],.ret a s⟩
  | fail e s => exact ⟨[],.fail e s⟩
  | call hanswer _ ih =>
    obtain ⟨es,hes⟩ := ih
    exact ⟨_,.call hanswer hes⟩

/-- The judgement at the end of an execution is about all it has seen. -/
theorem Ensures.executes {P : List (Event Res) → Op → Prop}
    {Q : List (Event Res) → Except ε α → Prop} {h es : List (Event Res)} {x : Except ε α}
    (hp : p.Ensures (fun _ _ => True) P Q h) (hes : p.Executes answers s es x t) :
    Q (h ++ es) x := by
  induction hes generalizing h with
  | ret a s =>
    rw [List.append_nil]
    exact (ensures_ret a).mp hp
  | fail e s =>
    rw [List.append_nil]
    exact (ensures_fail e).mp hp
  | call _ _ ih =>
    obtain ⟨_,hnext⟩ := (ensures_call _ _).mp hp
    rw [List.append_cons]
    exact ih (hnext _ trivial)

section Strict
variable (failed : (op : Op) → Res op → Prop)

/-- Whoever has seen a failed answer returns no result. -/
def Strict (p : Program Res ε α) : Prop :=
  ∀ h, (∀ e ∈ h, ¬ failed e.op e.res) → p.Ensures (fun _ _ => True) (fun _ _ => True)
    (fun h' x => ∀ a, x = .ok a → ∀ e ∈ h', ¬ failed e.op e.res) h

variable {failed}

/-- Where there is a result no answer has failed. -/
theorem Strict.executes {es : List (Event Res)} {a : α} (hp : p.Strict failed)
    (h : p.Executes answers s es (.ok a) t) : ∀ e ∈ es, ¬ failed e.op e.res :=
  (hp [] fun _ h => absurd h List.not_mem_nil).executes h a rfl

theorem strict_ret (a : α) : (ret a : Program Res ε α).Strict failed :=
  fun _ hh => (ensures_ret a).mpr fun _ _ => hh

theorem strict_fail (e : ε) : (fail e : Program Res ε α).Strict failed :=
  fun _ _ => (ensures_fail e).mpr fun _ h => (by cases h)

theorem strict_failIf (c : Prop) [Decidable c] (e : ε) :
    (failIf c e : Program Res ε Unit).Strict failed := by
  unfold failIf
  split_ifs
  · exact strict_fail e
  · exact strict_ret ()

theorem strict_bind {f : α → Program Res ε β} (hp : p.Strict failed)
    (hf : ∀ a, (f a).Strict failed) : (p >>= f).Strict failed := by
  intro h hh
  rw [ensures_bind]
  refine (hp h hh).imp (fun _ _ _ => trivial) fun h' x _ hx => ?_
  cases x with
  | error e => exact fun _ h => (by cases h)
  | ok a => exact hf a h' (hx a rfl)

/-- A call whose failed answers end the program. -/
theorem strict_call {op : Op} {read : Res op → Except ε α}
    (hread : ∀ r a, read r = .ok a → ¬ failed op r) :
    (call op fun r => fromResult (read r)).Strict failed := by
  intro h hh
  refine (ensures_call _ _).mpr ⟨trivial,fun r _ => (ensures_fromResult _).mpr fun a ha => ?_⟩
  intro e he
  rw [List.mem_append, List.mem_singleton] at he
  obtain he | rfl := he
  · exact hh e he
  · exact hread r a ha

/-- A program that returns no result. -/
def Barren (p : Program Res ε α) : Prop :=
  ∀ h, p.Ensures (fun _ _ => True) (fun _ _ => True) (fun _ x => ∀ a, x ≠ .ok a) h

theorem barren_fail (e : ε) : (fail e : Program Res ε α).Barren :=
  fun _ => (ensures_fail e).mpr fun _ h => (by cases h)

/-- A program all of whose continuations return no result. -/
theorem barren_attempt_bind {f : Except ε α → Program Res ε β} (hf : ∀ x, (f x).Barren) :
    (p.attempt >>= f).Barren := by
  intro h
  rw [ensures_bind, ensures_attempt]
  exact (ensures_trivial p h).imp (fun _ _ _ => trivial) fun h' x _ _ => hf x h'

/-- An error kept as a value does no harm where no result follows it. -/
theorem strict_attempt_bind {f : Except ε α → Program Res ε β} (hp : p.Strict failed)
    (hok : ∀ a, (f (.ok a)).Strict failed) (herror : ∀ e, (f (.error e)).Barren) :
    (p.attempt >>= f).Strict failed := by
  intro h hh
  rw [ensures_bind, ensures_attempt]
  refine (hp h hh).imp (fun _ _ _ => trivial) fun h' x _ hx => ?_
  cases x with
  | ok a => exact hok a h' (hx a rfl)
  | error e =>
    exact (herror e h').imp (fun _ _ _ => trivial) fun _ x _ hx a ha => absurd ha (hx a)

theorem strict_map (f : α → β) (hp : p.Strict failed) : (f <$> p).Strict failed := by
  rw [← bind_pure_comp]
  exact strict_bind hp fun a => strict_ret _

end Strict

attribute [irreducible] Wp

end Program
end Interaction
