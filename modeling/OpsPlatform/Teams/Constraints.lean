import Mathlib.Data.Int.Order.Basic
import OpsPlatform.Interaction.Runs
import OpsPlatform.Teams.Postgres
import OpsPlatform.Teams.Scope

/-! The statements that a constraint refuses. A refused `INSERT` has taken a number and leaves a gap,
so that none was refused where there are no more gaps than before. -/
namespace OpsPlatform.Teams.Postgres
open OpsPlatform.Go OpsPlatform.Db Interaction Program

/-- A constraint has refused the statement: it failed, and not for want of a row. -/
def Refused : (op : Op) → op.Res → Prop
  | .teamCreate _ _, r => ∃ err, r = .error err
  | .membershipCreate _ _, r => ∃ err, r = .error err
  | .supervisionCreate _ _, r => ∃ err, r = .error err
  | .membershipUpdate _ _, r => ∃ err, r = .error err ∧ err ≠ errNotFound
  | .supervisionUpdate _ _, r => ∃ err, r = .error err ∧ err ≠ errNotFound
  | _, _ => False

/-- The numbers of the memberships and supervisions that are in no row. -/
def Tables.gaps (d : Tables) : ℤ := d.memberships.gaps + d.supervisions.gaps

section Statements
variable {timestamptz : Time → Time} {clock : Time → Prop} {d d' : Tables}

end Statements

section Programs
variable {α : Type} {p : M α} (ctx : Context)

end Programs

end OpsPlatform.Teams.Postgres
