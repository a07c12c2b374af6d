import OpsPlatform.Interaction.Pool

/-! Two systems that are given the same operations. As long as they agree, one answers what the
other does; the transcripts are the same up to the first operation on which they part. -/
namespace Interaction

variable {Op : Type} {Res : Op → Type} {S T : Type}

/-- One operation answered, as a labelled step. -/
def Answered (answers : (op : Op) → S → Res op → S → Prop) (s : S) (e : Event Res) (t : S) : Prop :=
  answers e.op s e.res t

/-- Every operation of a transcript is fit for the answers before it. -/
inductive Admissible (fit : List (Event Res) → Op → Prop) : List (Event Res) → Prop
  | nil : Admissible fit []
  | snoc {es : List (Event Res)} {e : Event Res} :
      Admissible fit es → fit es e.op → Admissible fit (es ++ [e])

lemma admissible_concat {fit : List (Event Res) → Op → Prop} {es : List (Event Res)}
    {e : Event Res} : Admissible fit (es ++ [e]) ↔ Admissible fit es ∧ fit es e.op := by
  constructor
  · intro h
    generalize hes : es ++ [e] = all at h
    cases h with
    | nil => simp at hes
    | snoc hes' he =>
      obtain ⟨rfl,rfl⟩ := List.append_singleton_inj.mp hes
      exact ⟨hes',he⟩
  · rintro ⟨hes,he⟩
    exact hes.snoc he

lemma admissible_true (es : List (Event Res)) : Admissible (fun _ _ => True) es := by
  induction es using List.reverseRecOn with
  | nil => exact .nil
  | append_singleton es e ih => exact ih.snoc trivial

/-- A system that always has an answer serves any operations. -/
lemma exists_transcript {answers : (op : Op) → S → Res op → S → Prop}
    (htotal : ∀ op s, ∃ r t, answers op s r t) (s : S) (ops : List Op) :
    ∃ es t, Trace (Answered answers) s es t ∧ es.map (·.op) = ops := by
  induction ops using List.reverseRecOn with
  | nil => exact ⟨[],s,.nil,rfl⟩
  | append_singleton ops op ih =>
    obtain ⟨es,t,htrace,hops⟩ := ih
    obtain ⟨r,u,hanswer⟩ := htotal op t
    have hstep : Answered answers t ⟨op,r⟩ u := hanswer
    exact ⟨es ++ [⟨op,r⟩],u,htrace.snoc hstep,by simp [hops]⟩

section
variable {A : (op : Op) → S → Res op → S → Prop} {B : (op : Op) → T → Res op → T → Prop}
  {R : List (Event Res) → S → T → Prop} {fit good : List (Event Res) → Op → Prop} {s s' : S}
  {t t' : T} {es es' : List (Event Res)}

/-- Where good operations keep an agreement and are answered alike, and others are not, the
transcripts are the same exactly if all operations are good. -/
theorem transcripts_eq_iff (hstart : R [] s t)
    (hgood : ∀ es s t op r s' r' t', R es s t → fit es op → good es op → A op s r s' →
      B op t r' t' → r' = r ∧ R (es ++ [⟨op,r⟩]) s' t')
    (hbad : ∀ es s t op r s' r' t', R es s t → fit es op → ¬ good es op → A op s r s' →
      B op t r' t' → r' ≠ r)
    (ha : Trace (Answered A) s es s') (hb : Trace (Answered B) t es' t')
    (hops : es'.map (·.op) = es.map (·.op)) (hfit : Admissible fit es) :
    es' = es ↔ Admissible good es := by
  have hboth : (es' = es ↔ Admissible good es) ∧ (es' = es → R es s' t') := by
    induction ha generalizing es' t' with
    | nil =>
      obtain rfl := List.map_eq_nil_iff.mp hops
      obtain rfl := eq_of_trace_nil hb
      exact ⟨iff_of_true rfl .nil,fun _ => hstart⟩
    | @snoc s₁ s₂ es e htrace hanswer ih =>
      rw [admissible_concat] at hfit
      rw [List.map_append] at hops
      obtain ⟨fs,gs,rfl,hfs,hgs⟩ := List.map_eq_append_iff.mp hops
      obtain ⟨f,rfl,hf⟩ := List.map_eq_singleton_iff.mp hgs
      obtain ⟨t₁,hb,hanswer'⟩ := trace_concat.mp hb
      obtain ⟨hiff,hrel⟩ := ih hb hfs hfit.1
      obtain ⟨op,r⟩ := e
      obtain ⟨op',r'⟩ := f
      obtain rfl : op' = op := hf
      rw [List.append_singleton_inj, admissible_concat]
      constructor
      · constructor
        · rintro ⟨rfl,hsame⟩
          obtain rfl : r' = r := by cases hsame; rfl
          refine ⟨hiff.mp rfl,?_⟩
          by_contra hnot
          exact hbad _ _ _ _ _ _ _ _ (hrel rfl) hfit.2 hnot hanswer hanswer' rfl
        · rintro ⟨hes,hop⟩
          obtain rfl := hiff.mpr hes
          obtain ⟨rfl,_⟩ := hgood _ _ _ _ _ _ _ _ (hrel rfl) hfit.2 hop hanswer hanswer'
          exact ⟨rfl,rfl⟩
      · rintro ⟨rfl,hsame⟩
        obtain rfl : r' = r := by cases hsame; rfl
        have hop : good fs op' := by
          by_contra hnot
          exact hbad _ _ _ _ _ _ _ _ (hrel rfl) hfit.2 hnot hanswer hanswer' rfl
        exact (hgood _ _ _ _ _ _ _ _ (hrel rfl) hfit.2 hop hanswer hanswer').2
  exact hboth.1

/-- Systems that answer alike as long as they agree give the same transcripts. -/
theorem transcripts_eq (hstart : R [] s t)
    (hstep : ∀ es s t op r s' r' t', R es s t → fit es op → A op s r s' → B op t r' t' →
      r' = r ∧ R (es ++ [⟨op,r⟩]) s' t')
    (ha : Trace (Answered A) s es s') (hb : Trace (Answered B) t es' t')
    (hops : es'.map (·.op) = es.map (·.op)) (hfit : Admissible fit es) : es' = es := by
  have hiff : es' = es ↔ Admissible (fun _ _ => True) es := transcripts_eq_iff hstart
    (fun es s t op r s' r' t' hR hfit _ => hstep es s t op r s' r' t' hR hfit)
    (fun _ _ _ _ _ _ _ _ _ _ hnot => (hnot trivial).elim) ha hb hops hfit
  exact hiff.mpr (admissible_true es)

/-- What a system shows of another that answers as it does has the same transcripts. -/
theorem transcript_of_view (J : S → Prop) (view : S → T)
    (hstep : ∀ op s r s', J s → A op s r s' → J s' ∧ B op (view s) r (view s'))
    (h : Trace (Answered A) s es s') (hs : J s) : Trace (Answered B) (view s) es (view s') := by
  have hview : ∀ s e s', J s → Answered A s e s' →
      J s' ∧ Trace (Answered B) (view s) [e] (view s') := by
    intro s e s' hs hanswer
    obtain ⟨hs',hanswer'⟩ := hstep e.op s e.res s' hs hanswer
    exact ⟨hs',.one hanswer'⟩
  have hrun := (h.simulate view (fun e => [e]) hview hs).2
  rwa [List.flatMap_singleton'] at hrun

end
end Interaction
