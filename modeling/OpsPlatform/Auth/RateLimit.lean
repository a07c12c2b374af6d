import OpsPlatform.Interaction.Spacing
import OpsPlatform.Auth.Sequential

/-! The rate limit on guessed codes. Both code flows count on one counter; from the fifth wrong
guess on, each one locks the account, so that the next comes a lockout later at the earliest. -/
namespace OpsPlatform.Auth
open OpsPlatform.Go Interaction Program

namespace Exchange
variable (lib : Lib) (id : String) (x : Exchange)

/-- A code was presented for this account. -/
def Guesses : Prop := x.call.target lib x.before.users = some id

/-- The check of the presented code succeeded. -/
def Redeems : Prop :=
  x.Guesses lib id ∧ ∃ g ∈ x.call.guess, ∃ user ∈ x.before.users.findByID id,
    (checkOTP lib x.after.clock g.1 g.2 user).2.valid = true

/-- The presented code was compared with the stored one, and was wrong. -/
def Wrong : Prop := x.Guesses lib id ∧ x.result = .error errInvalidOrExpiredCode

instance : Decidable (x.Guesses lib id) :=
  inferInstanceAs (Decidable (x.call.target lib x.before.users = some id))

instance : Decidable (x.Redeems lib id) := inferInstanceAs (Decidable (_ ∧ _))

instance : Decidable (x.Wrong lib id) :=
  inferInstanceAs (Decidable (x.Guesses lib id ∧ x.result = .error errInvalidOrExpiredCode))

end Exchange

/-- The instants of the wrong guesses for this account. -/
def wrongGuesses (lib : Lib) (id : String) (xs : List Exchange) : List Time :=
  (xs.filter fun x => x.Wrong lib id).map (·.after.clock)

/-- The counter and the lock of an account after these wrong guesses. -/
structure Counts (user : User) (gs : List Time) : Prop where
  attempts : user.failedOTPAttempts = gs.length
  locked : otpMaxAttempts ≤ gs.length →
    ∃ lockedUntil, user.otpLockedUntil = some lockedUntil ∧
      ∀ g ∈ gs, g+otpLockoutDuration ≤ lockedUntil
  spaced : Spaced otpMaxAttempts otpLockoutDuration gs

section Step
variable {lib : Lib} {id : String} {user row : User} {gs : List Time} {s t : State} {x : Exchange}

/-- A wrong guess outside the lockout is counted, and keeps its distance. -/
lemma Counts.recordFailure (h : Counts user gs) {now : Time} (hpast : ∀ g ∈ gs, g ≤ now)
    (hfree : user.lockedAt now = false) : Counts (user.recordFailure now) (gs ++ [now]) where
  attempts := by simp [User.recordFailure, h.attempts]
  locked := by
    intro hmany
    have hcount : otpMaxAttempts ≤ user.failedOTPAttempts+1 := by
      rw [h.attempts]
      simpa using hmany
    refine ⟨now+otpLockoutDuration,by simp [User.recordFailure, hcount],?_⟩
    intro g hg
    obtain hg | hg := List.mem_append.mp hg
    · exact Int.add_le_add_right (hpast g hg) _
    · rw [List.mem_singleton.mp hg]
  spaced := by
    refine h.spaced.concat fun hmany g hg => ?_
    obtain ⟨lockedUntil,huntil,hlast⟩ := h.locked hmany
    have hover : lockedUntil ≤ now := by simpa [User.lockedAt, huntil] using hfree
    exact (hlast g hg).trans hover

/-- What a call without a wrong guess leaves in the account keeps the count. -/
lemma Counts.congr (h : Counts user gs) (hattempts : Field.failedOTPAttempts.Same user row)
    (hlock : Field.otpLockedUntil.Same user row) : Counts row gs where
  attempts := Eq.trans (Eq.symm hattempts) h.attempts
  locked := by
    intro hmany
    obtain ⟨lockedUntil,huntil,hlast⟩ := h.locked hmany
    exact ⟨lockedUntil,Eq.trans (Eq.symm hlock) huntil,hlast⟩
  spaced := h.spaced

/-- The step lemma. A guess that is not a wrong one runs into the lockout. -/
theorem counts_step (hx : Serves lib s x t) (hclock : x.before.clock ≤ x.after.clock)
    (hnone : ¬ x.Redeems lib id) (hfind : s.users.findByID id = some user) (h : Counts user gs)
    (hpast : ∀ g ∈ gs, g ≤ s.clock) :
    (∃ row, t.users.findByID id = some row ∧
      Counts row (if x.Wrong lib id then gs ++ [t.clock] else gs)) ∧
    (x.Guesses lib id → ¬ x.Wrong lib id → x.result = .error errTooManyAttempts ∧
      x.after.users.findByID id = x.before.users.findByID id) := by
  obtain ⟨rfl,rfl,hruns⟩ := hx
  cases hguess : x.call.guess with
  | none =>
    -- a call that presents no code does not answer for the counter and the lock
    have htarget : ¬ x.Guesses lib id := by
      unfold Exchange.Guesses
      cases hc : x.call <;> simp_all [Call.guess, Call.target]
    obtain ⟨row,hrow,hsame⟩ := Call.keeps hruns id user hfind
    have hfields : Field.failedOTPAttempts ∉ x.call.responsible ∧
        Field.otpLockedUntil ∉ x.call.responsible := by
      cases hc : x.call <;> simp_all [Call.guess, Call.responsible]
    refine ⟨⟨row,hrow,?_⟩,fun htarget' => (htarget htarget').elim⟩
    rw [if_neg fun hwrong => htarget hwrong.1]
    exact h.congr (hsame _ hfields.1) (hsame _ hfields.2)
  | some g =>
    obtain ⟨kind,code⟩ := g
    obtain ⟨huntouched,heffect⟩ := guess_effect hguess hruns
    by_cases htarget : x.Guesses lib id
    · have hvalid : (checkOTP lib x.after.clock kind code user).2.valid = false := by
        by_contra hvalid
        exact hnone ⟨htarget,_,hguess,user,hfind,by simpa using hvalid⟩
      obtain ⟨hresult,hrow⟩ := (heffect id htarget).2 user hfind hvalid
      obtain ⟨hlocked,hcheck⟩ | ⟨_,_,hcheck⟩ | ⟨hfree,_,hcheck⟩ :=
        checkOTP_cases lib x.after.clock kind code user
      · rw [hcheck] at hresult hrow
        have hwrong : ¬ x.Wrong lib id := by
          rintro ⟨_,hwrong⟩
          rw [hresult] at hwrong
          simp [OTPCheckResult.verdict, errTooManyAttempts, errInvalidOrExpiredCode] at hwrong
        rw [if_neg hwrong]
        exact ⟨⟨user,hrow,h⟩,fun _ _ => ⟨hresult,hrow.trans hfind.symm⟩⟩
      · rw [hcheck] at hvalid
        cases hvalid
      · rw [hcheck] at hresult hrow
        have hwrong : x.Wrong lib id := ⟨htarget,hresult⟩
        rw [if_pos hwrong]
        exact ⟨⟨_,hrow,h.recordFailure (fun g hg => (hpast g hg).trans hclock) hfree⟩,
          fun _ hnot => (hnot hwrong).elim⟩
    · have hrow : x.after.users.findByID id = x.before.users.findByID id := by
        cases hother : x.call.target lib x.before.users with
        | none => rw [huntouched hother]
        | some id' =>
          have hne : id ≠ id' := by
            rintro rfl
            exact htarget hother
          exact (heffect id' hother).1 id hne
      rw [if_neg fun hwrong => htarget hwrong.1]
      exact ⟨⟨user,hrow.trans hfind,h⟩,fun htarget' => (htarget htarget').elim⟩

end Step

section Run
variable {lib : Lib} {id : String} {user : User} {s t : State} {xs : List Exchange}

/-- In a stretch without a successful check, the wrong guesses in a time window are at most five
and one more for each quarter of an hour; every other guess is refused unseen. -/
theorem wrong_guesses_bounded (hfind : s.users.findByID id = some user)
    (hattempts : user.failedOTPAttempts = 0)
    (hrun : Trace (fun s x t => Serves lib s x t ∧ x.before.clock ≤ x.after.clock ∧
      ¬ x.Redeems lib id) s xs t) :
    (∀ a d, 0 ≤ d →
      ((within a (a+d) (wrongGuesses lib id xs)).length : ℤ) ≤ 5 + d/(15*minute)) ∧
    ∀ x ∈ xs, x.Guesses lib id → ¬ x.Wrong lib id → x.result = .error errTooManyAttempts ∧
      x.after.users.findByID id = x.before.users.findByID id := by
  have hcounts : (∃ row, t.users.findByID id = some row ∧ Counts row (wrongGuesses lib id xs)) ∧
      (∀ g ∈ wrongGuesses lib id xs, g ≤ t.clock) ∧
      ∀ x ∈ xs, x.Guesses lib id → ¬ x.Wrong lib id → x.result = .error errTooManyAttempts ∧
        x.after.users.findByID id = x.before.users.findByID id := by
    induction hrun with
    | nil =>
      refine ⟨⟨user,hfind,?_⟩,by simp [wrongGuesses],by simp⟩
      exact ⟨hattempts,nofun,.nil⟩
    | @snoc t u xs x _ hx ih =>
      obtain ⟨hserves,hclock,hnone⟩ := hx
      obtain ⟨⟨row,hrow,hcounts⟩,hpast,hrefused⟩ := ih
      obtain ⟨⟨row',hrow',hcounts'⟩,hrefused'⟩ :=
        counts_step hserves hclock hnone hrow hcounts hpast
      have hconcat : wrongGuesses lib id (xs ++ [x]) =
          if x.Wrong lib id then wrongGuesses lib id xs ++ [u.clock]
          else wrongGuesses lib id xs := by
        by_cases hwrong : x.Wrong lib id <;> simp [wrongGuesses, hwrong, hserves.after]
      refine ⟨⟨row',hrow',by rw [hconcat]; exact hcounts'⟩,?_,?_⟩
      · have hearlier : ∀ g ∈ wrongGuesses lib id xs, g ≤ u.clock :=
          fun g hg => (hpast g hg).trans (hserves.before ▸ hserves.after ▸ hclock)
        rw [hconcat]
        split_ifs
        · intro g hg
          obtain hg | hg := List.mem_append.mp hg
          · exact hearlier g hg
          · rw [List.mem_singleton.mp hg]
        · exact hearlier
      · intro y hy
        obtain hy | hy := List.mem_append.mp hy
        · exact hrefused y hy
        · obtain rfl := List.mem_singleton.mp hy
          exact hrefused'
  obtain ⟨⟨row,_,hcounts⟩,_,hrefused⟩ := hcounts
  refine ⟨fun a d hd => ?_,hrefused⟩
  have h := hcounts.spaced.length_within (by decide) (by decide) hd a
  exact h

end Run

/-- Five guesses at once, one more that is refused, and one a quarter of an hour later. -/
def guessing : List (Env × Call) :=
  List.replicate 6 (sampleEnv 0,.verifyEmail "user-0001" "123456") ++
    [(sampleEnv (15*minute),.completePasswordReset "ada@example.org" "123456" "battery staple")]

theorem wrong_guesses_bounded_guessing : ∃ xs : List Exchange,
    (∃ x ∈ xs, x.result = .error errTooManyAttempts) ∧
    (within 0 (0+15*minute) (wrongGuesses sampleLib "user-0001" xs)).length = 6 ∧
    ((within 0 (0+15*minute) (wrongGuesses sampleLib "user-0001" xs)).length : ℤ) ≤
      5 + 15*minute/(15*minute) := by
  obtain ⟨t,hrun⟩ := trace_serveAll sampleLib ⟨⟨1,[sampleUser]⟩,0⟩ guessing
  have hcalm : ∀ x ∈ serveAll sampleLib ⟨⟨1,[sampleUser]⟩,0⟩ guessing,
      x.before.clock ≤ x.after.clock ∧ ¬ x.Redeems sampleLib "user-0001" := by decide +kernel
  exact ⟨_,by decide +kernel,by decide +kernel,
    (wrong_guesses_bounded rfl rfl (hrun.and_label hcalm)).1 0 (15*minute) (by decide)⟩

end OpsPlatform.Auth
