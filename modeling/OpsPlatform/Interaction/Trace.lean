import Mathlib.Data.List.Chain
import Mathlib.Tactic.Common

/-! Labelled runs of a transition relation, their invariants and simulations, and the runs of a
server that answers one request after another. -/
namespace Interaction

variable {S T L M : Type}

/-- A run from one state to another, with the labels of its steps in order. -/
inductive Trace (step : S → L → S → Prop) (s : S) : List L → S → Prop
  | nil : Trace step s [] s
  | snoc {t u : S} {ls : List L} {l : L} :
      Trace step s ls t → step t l u → Trace step s (ls ++ [l]) u

namespace Trace
variable {step : S → L → S → Prop} {s t u : S} {ls ls' : List L} {l : L}

theorem one (h : step s l t) : Trace step s [l] t := Trace.nil.snoc h

theorem append (h : Trace step s ls t) (h' : Trace step t ls' u) :
    Trace step s (ls ++ ls') u := by
  induction h' with
  | nil => simpa using h
  | snoc _ hl ih => simpa using ih.snoc hl

/-- An invariant may speak of the labels so far as well as of the state. -/
theorem inv {I : List L → S → Prop} (h : Trace step s ls t) (h0 : I [] s)
    (hstep : ∀ ls t l u, I ls t → step t l u → I (ls ++ [l]) u) : I ls t := by
  induction h with
  | nil => exact h0
  | snoc _ hl ih => exact hstep _ _ _ _ ih hl

theorem imp {step' : S → L → S → Prop} (h : Trace step s ls t)
    (hstep : ∀ s l t, step s l t → step' s l t) : Trace step' s ls t := by
  induction h with
  | nil => exact .nil
  | snoc _ hl ih => exact ih.snoc (hstep _ _ _ hl)

/-- What holds of every label may be read off every step. -/
theorem and_label {P : L → Prop} (h : Trace step s ls t) (hP : ∀ l ∈ ls, P l) :
    Trace (fun s l t => step s l t ∧ P l) s ls t := by
  induction h with
  | nil => exact .nil
  | snoc _ hl ih =>
    exact (ih fun l hl => hP l (List.mem_append_left _ hl)).snoc ⟨hl,hP _ (by simp)⟩

/-- Where each step, seen through `f`, is a run of its own, so is the whole run. -/
theorem simulate {step' : T → M → T → Prop} {J : S → Prop} (f : S → T) (g : L → List M)
    (hstep : ∀ s l t, J s → step s l t → J t ∧ Trace step' (f s) (g l) (f t))
    (h : Trace step s ls t) (hs : J s) : J t ∧ Trace step' (f s) (ls.flatMap g) (f t) := by
  induction h with
  | nil => exact ⟨hs,.nil⟩
  | snoc _ hl ih =>
    obtain ⟨ht,hrun⟩ := ih
    obtain ⟨hu,hlast⟩ := hstep _ _ _ ht hl
    refine ⟨hu,?_⟩
    simpa using hrun.append hlast

section Ends
variable {X : Type} (key : S → X) (src dst : L → X)

/-- Labels that name the states they lead from and to form a chain between the two ends. -/
theorem ends (h : Trace step s ls t) (hsrc : ∀ s l t, step s l t → src l = key s)
    (hdst : ∀ s l t, step s l t → dst l = key t) :
    (∀ l ∈ ls.head?, src l = key s) ∧ ls.IsChain (fun a b => src b = dst a) ∧
      (ls.getLast?.map dst).getD (key s) = key t := by
  induction h with
  | nil => simp
  | @snoc t u ls l _ hl ih =>
    obtain ⟨hhead,hchain,hlast⟩ := ih
    refine ⟨?_,?_,by simp [hdst _ _ _ hl]⟩
    · intro a ha
      cases ls with
      | nil =>
        obtain rfl : l = a := by simpa using ha
        rw [hsrc _ _ _ hl, ← hlast]; rfl
      | cons b ls => exact hhead a (by simpa using ha)
    · rw [List.isChain_append]
      refine ⟨hchain,by simp,?_⟩
      intro a ha b hb
      obtain rfl : l = b := by simpa using hb
      rw [hsrc _ _ _ hl, ← hlast, Option.mem_def.mp ha]; rfl

/-- What every step guarantees of its label holds of every label of a run. -/
theorem forall_label {P : L → Prop} (h : Trace step s ls t) (hP : ∀ s l t, step s l t → P l) :
    ∀ l ∈ ls, P l := by
  induction h with
  | nil => simp
  | snoc _ hl ih =>
    intro a ha
    rcases List.mem_append.mp ha with ha | ha
    · exact ih a ha
    · rw [List.mem_singleton.mp ha]; exact hP _ _ _ hl

end Ends
section Cell
variable {X : Type} {cell : S → X} {x₀ : X} {spent : X → Prop} {reads writes good : L → Prop}

/-- A cell that nothing writes back to its first value keeps it until the first write. -/
lemma cell_value (h : Trace step s ls t) (h0 : cell s = x₀)
    (hquiet : ∀ s l t, step s l t → ¬ writes l → cell t = cell s)
    (hwrite : ∀ s l t, step s l t → writes l → spent (cell t)) :
    ((∀ l ∈ ls, ¬ writes l) → cell t = x₀) ∧ ((∃ l ∈ ls, writes l) → spent (cell t)) := by
  induction h with
  | nil => exact ⟨fun _ => h0,by simp⟩
  | @snoc t u ls l _ hl ih =>
    by_cases hlast : writes l
    · refine ⟨fun hnone => (hnone l (by simp) hlast).elim,fun _ => hwrite _ _ _ hl hlast⟩
    · rw [hquiet _ _ _ hl hlast]
      refine ⟨fun hnone => ih.1 fun a ha => hnone a (by simp [ha]),?_⟩
      rintro ⟨a,ha,hwrites⟩
      rcases List.mem_append.mp ha with ha | ha
      · exact ih.2 ⟨a,ha,hwrites⟩
      · exact (hlast (List.mem_singleton.mp ha ▸ hwrites)).elim

variable (cell spent reads writes good) in
/-- Every read of the cell returns its first value exactly if no read comes after a write. -/
theorem reads_first_iff (h : Trace step s ls t) (h0 : cell s = x₀) (hx₀ : ¬ spent x₀)
    (hread : ∀ s l t, step s l t → reads l → (good l ↔ cell s = x₀))
    (hquiet : ∀ s l t, step s l t → ¬ writes l → cell t = cell s)
    (hwrite : ∀ s l t, step s l t → writes l → spent (cell t)) :
    (∀ l ∈ ls, reads l → good l) ↔ ls.Pairwise fun a b => ¬ (writes a ∧ reads b) := by
  induction h with
  | nil => simp
  | @snoc t u ls l htrace hl ih =>
    obtain ⟨hnone,hsome⟩ := htrace.cell_value h0 hquiet hwrite
    have hlast : (reads l → good l) ↔ ∀ a ∈ ls, ¬ (writes a ∧ reads l) := by
      constructor
      · rintro hgood a ha ⟨hwrites,hreads⟩
        have hfirst := (hread _ _ _ hl hreads).mp (hgood hreads)
        exact hx₀ (hfirst ▸ hsome ⟨a,ha,hwrites⟩)
      · intro hfree hreads
        exact (hread _ _ _ hl hreads).mpr (hnone fun a ha hwrites => hfree a ha ⟨hwrites,hreads⟩)
    simp only [List.forall_mem_append, List.pairwise_append, ih, List.forall_mem_singleton, hlast,
      List.pairwise_singleton, true_and]

end Cell
end Trace

theorem eq_of_trace_nil {step : S → L → S → Prop} {s t : S} (h : Trace step s [] t) : t = s := by
  generalize hnone : ([] : List L) = ls at h
  cases h with
  | nil => rfl
  | snoc => simp at hnone

/-- A run that ends with a label is a run to the step with this label. -/
theorem trace_concat {step : S → L → S → Prop} {s u : S} {ls : List L} {l : L} :
    Trace step s (ls ++ [l]) u ↔ ∃ t, Trace step s ls t ∧ step t l u := by
  constructor
  · intro h
    generalize hall : ls ++ [l] = all at h
    cases h with
    | nil => simp at hall
    | snoc htrace hstep =>
      obtain ⟨rfl,rfl⟩ := List.append_singleton_inj.mp hall
      exact ⟨_,htrace,hstep⟩
  · rintro ⟨t,htrace,hstep⟩
    exact htrace.snoc hstep

section Server
variable {Req Reply : Type} (serve : Req → S → Reply × S)

/-- The state after the requests were served in order. -/
def serveAll (s : S) : List Req → S
  | [] => s
  | r :: rs => serveAll (serve r s).2 rs

/-- The requests, each with the reply it got. -/
def transcript (s : S) : List Req → List (Req × Reply)
  | [] => []
  | r :: rs => (r,(serve r s).1) :: transcript (serve r s).2 rs

/-- One request served, as a labelled step. -/
def Serves (s : S) (exchange : Req × Reply) (t : S) : Prop := serve exchange.1 s = (exchange.2,t)

theorem trace_transcript (s : S) (rs : List Req) :
    Trace (Serves serve) s (transcript serve s rs) (serveAll serve s rs) := by
  induction rs generalizing s with
  | nil => exact .nil
  | cons r rs ih => exact (Trace.one (l := (r,(serve r s).1)) rfl).append (ih _)

theorem serveAll_append (s : S) (rs rs' : List Req) :
    serveAll serve s (rs ++ rs') = serveAll serve (serveAll serve s rs) rs' := by
  induction rs generalizing s with
  | nil => rfl
  | cons r rs ih => exact ih _

/-- An invariant of the single requests holds after any number of them. -/
theorem serveAll_inv {I : S → Prop} (hstep : ∀ r s, I s → I (serve r s).2) {s : S} (hs : I s)
    (rs : List Req) : I (serveAll serve s rs) := by
  induction rs generalizing s with
  | nil => exact hs
  | cons r rs ih => exact ih (hstep r s hs)

/-- The labels of the steps that serve these requests, each from the state the one before led
to. -/
def labels (label : Req → S → L) (dst : L → S) (s : S) : List Req → List L
  | [] => []
  | r :: rs => label r s :: labels label dst (dst (label r s)) rs

theorem trace_labels_of_inv {I : S → Prop} {step : S → L → S → Prop} {label : Req → S → L}
    {dst : L → S} (hstep : ∀ r s, I s → step s (label r s) (dst (label r s)) ∧ I (dst (label r s)))
    {s : S} (hs : I s) (rs : List Req) : ∃ t, Trace step s (labels label dst s rs) t := by
  induction rs generalizing s with
  | nil => exact ⟨s,.nil⟩
  | cons r rs ih =>
    obtain ⟨hserved,ht⟩ := hstep r s hs
    obtain ⟨t,hrest⟩ := ih ht
    exact ⟨t,(Trace.one hserved).append hrest⟩

theorem trace_labels {step : S → L → S → Prop} {label : Req → S → L} {dst : L → S}
    (hstep : ∀ r s, step s (label r s) (dst (label r s))) (s : S) (rs : List Req) :
    ∃ t, Trace step s (labels label dst s rs) t :=
  trace_labels_of_inv (I := fun _ => True) (fun r s _ => ⟨hstep r s,trivial⟩) trivial rs

/-- Which request a label is about. -/
theorem request_of_label {label : Req → S → L} {dst : L → S} {s : S} {rs : List Req} {i : ℕ} {l : L}
    (h : (labels label dst s rs)[i]? = some l) : ∃ r t, rs[i]? = some r ∧ l = label r t := by
  induction rs generalizing s i with
  | nil => cases h
  | cons r rs ih =>
    cases i with
    | zero => exact ⟨r,s,rfl,(Option.some.inj h).symm⟩
    | succ i => exact ih h

end Server
end Interaction
