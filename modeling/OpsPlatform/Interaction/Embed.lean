import OpsPlatform.Interaction.Runs

/-! A program over one signature as a part of programs over a larger one. -/
namespace Interaction

variable {Op Op' : Type} {Res : Op → Type} {Res' : Op' → Type} {ε ε' α : Type}

namespace Program

/-- The program with every operation issued as `f op`, whose answers `back` reads, and every error
reported as `g` says. -/
def translate (f : Op → Op') (back : ∀ op, Res' (f op) → Res op) (g : ε → ε') :
    Program Res ε α → Program Res' ε' α
  | ret a => ret a
  | fail e => fail (g e)
  | call op next => call (f op) fun r => (next (back op r)).translate f back g

variable {f : Op → Op'} {back : ∀ op, Res' (f op) → Res op} {g : ε → ε'}

theorem only_translate {P : Op' → Prop} {p : Program Res ε α} (hp : p.Only fun op => P (f op)) :
    (p.translate f back g).Only P := by
  induction p with
  | ret a => exact only_ret a
  | fail e => exact only_fail _
  | call op next ih =>
    rw [only_call_iff] at hp
    exact only_call hp.1 fun r => ih _ (hp.2 _)

/-- A part of a part is a part. -/
theorem translate_translate {Op'' : Type} {Res'' : Op'' → Type} {ε'' : Type} {f' : Op' → Op''}
    {back' : ∀ op, Res'' (f' op) → Res' op} {g' : ε' → ε''} (p : Program Res ε α) :
    (p.translate f back g).translate f' back' g' =
      p.translate (fun op => f' (f op)) (fun op r => back op (back' (f op) r)) fun e => g' (g e) := by
  induction p with
  | ret a => rfl
  | fail e => rfl
  | call op next ih => simp only [translate, ih]

theorem translate_bind {β : Type} (p : Program Res ε α) (k : α → Program Res ε β) :
    (p >>= k).translate f back g = p.translate f back g >>= fun a => (k a).translate f back g := by
  induction p with
  | ret a => rfl
  | fail e => rfl
  | call op next ih =>
    rw [call_bind]
    simp only [translate, ih]
    rfl

theorem translate_failIf (c : Prop) [Decidable c] (e : ε) :
    (failIf c e).translate f back g = failIf c (g e) := by
  unfold failIf
  split_ifs <;> rfl

/-- Judgements carry over along a view of the larger events that sees all events of the part. -/
theorem ensures_translate (view : Event Res' → Option (Event Res))
    (hview : ∀ op r, view ⟨f op,r⟩ = some ⟨op,back op r⟩)
    {R : List (Event Res) → Event Res → Prop}
    {P : List (Event Res) → Op → Prop} {Q : List (Event Res) → Except ε α → Prop}
    {R' : List (Event Res') → Event Res' → Prop} {P' : List (Event Res') → Op' → Prop}
    {Q' : List (Event Res') → Except ε' α → Prop} {p : Program Res ε α} {h : List (Event Res')}
    (hp : p.Ensures R P Q (h.filterMap view))
    (hR : ∀ h' op r, h <+: h' → R' h' ⟨f op,r⟩ → R (h'.filterMap view) ⟨op,back op r⟩)
    (hP : ∀ h' op, h <+: h' → P (h'.filterMap view) op → P' h' (f op))
    (hQ : ∀ h' x, h <+: h' → Q (h'.filterMap view) x → Q' h' (x.mapError g)) :
    (p.translate f back g).Ensures R' P' Q' h := by
  induction p generalizing h with
  | ret a => exact (ensures_ret a).mpr (hQ h _ List.prefix_rfl ((ensures_ret a).mp hp))
  | fail e => exact (ensures_fail _).mpr (hQ h _ List.prefix_rfl ((ensures_fail e).mp hp))
  | call op next ih =>
    rw [ensures_call] at hp
    rw [translate, ensures_call]
    refine ⟨hP h op List.prefix_rfl hp.1,fun r hr => ih (back op r) ?_ ?_ ?_ ?_⟩
    · simpa [hview] using hp.2 (back op r) (hR h op r List.prefix_rfl hr)
    · exact fun h' op r hh' => hR h' op r ((List.prefix_append h _).trans hh')
    · exact fun h' op hh' => hP h' op ((List.prefix_append h _).trans hh')
    · exact fun h' x hh' => hQ h' x ((List.prefix_append h _).trans hh')

/-- An execution inside the larger signature is one of the part, on the part of the state it sees,
where each answer leaves the rest of the state. -/
theorem Runs.of_translate {S S' F : Type} {answers : (op : Op) → S → Res op → S → Prop}
    {answers' : (op : Op') → S' → Res' op → S' → Prop} (part : S' → S) (rest : S' → F)
    (hanswers : ∀ op s r t, answers' (f op) s r t →
      answers op (part s) (back op r) (part t) ∧ rest t = rest s)
    {p : Program Res ε α} {s t : S'} {x : Except ε' α}
    (h : (p.translate f back g).Runs answers' s x t) :
    ∃ y, x = y.mapError g ∧ p.Runs answers (part s) y (part t) ∧ rest t = rest s := by
  induction p generalizing s with
  | ret a =>
    cases h
    exact ⟨.ok a,rfl,.ret a _,rfl⟩
  | fail e =>
    cases h
    exact ⟨.error e,rfl,.fail e _,rfl⟩
  | call op next ih =>
    cases h with
    | call hanswer hnext =>
      obtain ⟨hpart,hnow⟩ := hanswers _ _ _ _ hanswer
      obtain ⟨y,hy,hruns,hrest⟩ := ih _ hnext
      exact ⟨y,hy,.call hpart hruns,hrest.trans hnow⟩

/-- The same for the execution by a function: only the error is reported differently. -/
theorem run_translate {S S' F : Type} {exec : (op : Op) → S → Res op × S}
    {exec' : (op : Op') → S' → Res' op × S'} (part : S' → S) (rest : S' → F)
    (hexec : ∀ op s, (exec op (part s)) = (back op (exec' (f op) s).1,part (exec' (f op) s).2) ∧
      rest (exec' (f op) s).2 = rest s) (p : Program Res ε α) (s : S') :
    ((p.translate f back g).run exec' s).1 = (p.run exec (part s)).1.mapError g ∧
      part ((p.translate f back g).run exec' s).2 = (p.run exec (part s)).2 ∧
      rest ((p.translate f back g).run exec' s).2 = rest s := by
  have hruns : (p.translate f back g).Runs (fun op s r t => exec' op s = (r,t)) s _ _ :=
    runs_run (fun _ _ => rfl) _ s
  have hanswers : ∀ op s r t, exec' (f op) s = (r,t) →
      exec op (part s) = (back op r,part t) ∧ rest t = rest s := by
    intro op s r t hanswer
    have hsame := hexec op s
    rwa [hanswer] at hsame
  have hsplit : ∃ y, _ = y.mapError g ∧ p.Runs (fun op s r t => exec op s = (r,t)) (part s) y _ ∧
      _ = rest s := Runs.of_translate part rest hanswers hruns
  obtain ⟨y,hy,hpart,hrest⟩ := hsplit
  have hrun := hpart.eq_run fun _ _ _ _ hanswer => hanswer
  rw [hrun]
  exact ⟨hy,rfl,hrest⟩

end Program
end Interaction
