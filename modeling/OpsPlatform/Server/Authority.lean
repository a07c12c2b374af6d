import OpsPlatform.Auth.Roles
import OpsPlatform.Server.Footprint

/-! Where every role comes from. Whatever runs at the same time, an account holds only roles it had at
the start, the role of those who register, and roles given to it by an admin whose own role came about
in the same way. -/
namespace OpsPlatform.Server
open OpsPlatform.Go OpsPlatform.Http Interaction Program
open OpsPlatform.Auth (Role User)

/-- A request by which somebody registers. -/
def Request.Registers : Request → Prop
  | .open (.signUp _) | .open (.googleCallback _) => True
  | _ => False

/-- How the account of this id came to this role, by what the requests have seen. -/
inductive Granted {ι : Type} (requests : ι → Request) (s : State)
    (seen : ι → List (Event Op.Res)) : String → Role → Prop
  | seeded {user : User} {role : Role} (stored : user ∈ s.accounts.users) (has : role ∈ user.roles) :
      Granted requests s seen user.id role
  | registered {i : ι} {user created : User} (request : (requests i).Registers)
      (create : ⟨.users (.auth (.create user)),.ok created⟩ ∈ seen i) :
      Granted requests s seen created.id .requester
  | created {i : ι} {authorizationHeader : String} {r : Req Users.CreateUserInput}
      {input : Users.CreateUserInput} {admin user created : User}
      (request : requests i = .guarded authorizationHeader (.manage (.createUser r)))
      (body : r.body = some input)
      (admitted : AdmittedAs authorizationHeader (.of [.admin]) admin (seen i))
      (authority : Granted requests s seen admin.id .admin)
      (create : ⟨.users (.auth (.create user)),.ok created⟩ ∈ seen i) :
      Granted requests s seen created.id input.role
  | given {i : ι} {authorizationHeader : String} {r : Req Auth.UpdateUserInput}
      {input : Auth.UpdateUserInput} {admin : User} {role : Role}
      (request : requests i = .guarded authorizationHeader (.manage (.updateUser r)))
      (body : r.body = some input) (gives : input.role = some role)
      (admitted : AdmittedAs authorizationHeader (.of [.admin,.supervisor]) admin (seen i))
      (isAdmin : admin.hasRole .admin = true)
      (authority : Granted requests s seen admin.id .admin) : Granted requests s seen r.id role

section Run
variable {ι : Type} {cfg : Config} {requests : ι → Request} {s : State} {id : String} {role : Role}
  {seen seen' : ι → List (Event Op.Res)} {m : Moment}

lemma Granted.mono (hseen : ∀ i, seen i <+: seen' i) (h : Granted requests s seen id role) :
    Granted requests s seen' id role := by
  induction h with
  | seeded stored has => exact .seeded stored has
  | registered request create => exact .registered request ((hseen _).subset create)
  | created request body admitted _ create ih =>
    exact .created request body (admitted.mono (hseen _)) ih ((hseen _).subset create)
  | given request body gives admitted isAdmin _ ih =>
    exact .given request body gives (admitted.mono (hseen _)) isAdmin ih

/-- Where nobody starts as an admin nobody gets a role. -/
lemma Granted.of_no_admin (hadmin : ∀ user ∈ s.accounts.users, user.hasRole .admin = false)
    (h : Granted requests s seen id role) :
    role = .requester ∨ ∃ user ∈ s.accounts.users, user.id = id ∧ role ∈ user.roles := by
  have hnone : ∀ k, ¬ ((Role.admin = .requester) ∨
      ∃ user ∈ s.accounts.users, user.id = k ∧ Role.admin ∈ user.roles) := by
    rintro k (h | ⟨user,huser,_,hhas⟩)
    · cases h
    · simpa [User.hasRole, hhas] using hadmin user huser
  induction h with
  | seeded stored has => exact .inr ⟨_,stored,rfl,has⟩
  | registered => exact .inl rfl
  | created _ _ _ _ _ ih | given _ _ _ _ _ _ ih => exact (hnone _ ih).elim

/-- What the requests have seen and the store keeps has been granted. -/
structure Authority (requests : ι → Request) (s : State) (p : Requests ι) : Prop where
  stored : ∀ user ∈ p.state.accounts.users, user.Holds (Granted requests s p.seen)
  found : ∀ i id row, ⟨.users (.auth (.findByID id)),some row⟩ ∈ p.seen i →
    row.id = id ∧ row.Holds (Granted requests s p.seen)

lemma accounts_of_answers {op : Op} {r : op.Res} {u v : State} (h : Answers cfg m op u r v)
    (hop : ∀ aop, op ≠ .users (.auth aop)) : v.accounts = u.accounts := by
  cases h with
  | users hmanages =>
    cases hmanages with
    | auth => exact (hop _ rfl).elim
    | teams => rfl
  | _ => rfl

/-- The authority behind an admission. -/
lemma AdmittedAs.holds {K : String → Role → Prop} {authorizationHeader : String} {gate : Gate}
    {user : User} {events : List (Event Op.Res)}
    (h : AdmittedAs authorizationHeader gate user events)
    (hfound : ∀ id row, ⟨.users (.auth (.findByID id)),some row⟩ ∈ events →
      row.id = id ∧ row.Holds K) : user.Holds K := by
  obtain ⟨_,read,_,_,hfind,_⟩ := h
  exact (hfound _ user hfind).2

lemma holds_admin {K : String → Role → Prop} {user : User} (h : user.Holds K)
    (hadmin : user.hasRole .admin = true) : K user.id .admin :=
  h .admin (by simpa [User.hasRole] using hadmin)

/-- The gate of the admins. -/
lemma AdmittedAs.isAdmin {authorizationHeader : String} {user : User}
    {events : List (Event Op.Res)}
    (h : AdmittedAs authorizationHeader (.of [.admin]) user events) :
    user.hasRole .admin = true := by
  obtain ⟨_,_,_,_,_,_,hlets⟩ := h
  simpa [Auth.Principal.hasAnyRole, Auth.principalFromUser, User.hasRole,
    Auth.Principal.hasRole] using hlets.roles _ rfl

/-- A call that a request has sent gives only what has been granted. -/
lemma Sent.gives {i : ι} {c : Auth.Call} {e : Event Auth.Op.Res}
    (hsent : Sent (seen i) (requests i) c)
    (hseen : ∀ j, seen j <+: seen' j) (he : ⟨.users (.auth e.op),e.res⟩ ∈ seen' i)
    (hfound : ∀ id row, ⟨.users (.auth (.findByID id)),some row⟩ ∈ seen i →
      row.id = id ∧ row.Holds (Granted requests s seen)) :
    c.Gives (Granted requests s seen') e := by
  generalize hrequest : requests i = request at hsent
  refine ⟨?_,?_⟩
  · rintro user created roles rfl hroles role hrole
    have hregisters : (requests i).Registers → roles = [.requester] →
        Granted requests s seen' created.id role := by
      rintro hregisters rfl
      obtain rfl := List.mem_singleton.mp hrole
      exact .registered hregisters he
    cases hsent with
    | signUp | google =>
      exact hregisters (by rw [hrequest]; trivial) (Option.some.inj hroles).symm
    | createUser body admitted =>
      obtain rfl := Option.some.inj hroles
      obtain rfl := List.mem_singleton.mp hrole
      have hauthority := holds_admin (admitted.holds hfound) admitted.isAdmin
      exact .created hrequest body (admitted.mono (hseen i)) (hauthority.mono hseen) he
    | _ => cases hroles
  · rintro userID input role rfl hrole
    cases hsent with
    | updateUser body admitted allowed =>
      have hadmin := allowed.resolve_right (by simp [hrole])
      have hauthority := holds_admin (admitted.holds hfound) hadmin
      exact .given hrequest body hrole (admitted.mono (hseen i)) hadmin (hauthority.mono hseen)

variable [DecidableEq ι] {p q : Requests ι} {ls : List (ι × Event Op.Res)} {l : ι × Event Op.Res}

lemma seen_prefix (hstep : Pool.Step (Answered cfg) p l q) (i : ι) : p.seen i <+: q.seen i := by
  rw [hstep.seen, Function.update_apply]
  split_ifs with hi
  · rw [hi]
    exact List.prefix_append _ _
  · exact List.prefix_rfl

/-- The step lemma. -/
lemma Authority.step (h : Authority requests s p) (hstep : Pool.Step (Answered cfg) p l q)
    (hmay : (requests l.1).MayWrite cfg.lib (p.seen l.1) l.2.op) : Authority requests s q := by
  have hseen := seen_prefix hstep
  have hstored : ∀ user ∈ p.state.accounts.users, user.Holds (Granted requests s q.seen) :=
    fun user huser role hrole => (h.stored user huser role hrole).mono hseen
  have hevent : l.2 ∈ q.seen l.1 := by
    rw [hstep.seen, Function.update_self]
    simp
  have hnext : ∀ user ∈ q.state.accounts.users, user.Holds (Granted requests s q.seen) := by
    obtain ⟨m,hanswer⟩ := hstep.answered
    obtain ⟨i,op,r⟩ := l
    by_cases hop : ∃ aop, op = .users (.auth aop)
    swap
    · rw [accounts_of_answers hanswer fun aop heq => hop ⟨aop,heq⟩]
      exact hstored
    obtain ⟨aop,rfl⟩ := hop
    have hauth := (answers_auth hanswer).1
    obtain hquiet | ⟨c,hsent,hwrites⟩ := hmay aop rfl
    · rw [State.accounts, Auth.users_of_quiet hquiet hauth]
      exact hstored
    · have hgives := hsent.gives (e := ⟨aop,r⟩) hseen hevent (h.found i)
      refine Auth.roles_step (e := ⟨aop,r⟩) hsent.not_seed hstored ?_ hwrites hgives hauth
      intro id row hrow
      obtain ⟨hid,hold⟩ := h.found i id row (mem_authEvent.mp hrow)
      exact ⟨hid,fun role hrole => (hold role hrole).mono hseen⟩
  refine ⟨hnext,fun i id row hrow => ?_⟩
  rw [hstep.seen, Function.update_apply] at hrow
  have hbefore : ∀ j, ⟨.users (.auth (.findByID id)),some row⟩ ∈ p.seen j →
      row.id = id ∧ row.Holds (Granted requests s q.seen) := by
    intro j hj
    obtain ⟨hid,hold⟩ := h.found j id row hj
    exact ⟨hid,fun role hrole => (hold role hrole).mono hseen⟩
  split_ifs at hrow
  · obtain hrow | hrow := List.mem_append.mp hrow
    · exact hbefore _ hrow
    · obtain ⟨m,hanswer⟩ := hstep.answered
      rw [← List.mem_singleton.mp hrow] at hanswer
      have hauth := (answers_auth hanswer).1
      have hfound := findByID_of_answers hauth
      refine ⟨Auth.MemoryUserStore.id_of_findByID hfound.symm,hnext row ?_⟩
      exact Auth.mem_of_shown (e := ⟨.findByID id,some row⟩) hauth rfl
  · exact hbefore i hrow

/-- In every interleaving every role of every account has been granted; without an admin at the start
that leaves the roles of the start and the role of those who register. -/
theorem roles_granted (hrun : Trace (Pool.Step (Answered cfg)) (begin cfg requests s) ls q) :
    (∀ user ∈ q.state.accounts.users, user.Holds (Granted requests s q.seen)) ∧
    ((∀ user ∈ s.accounts.users, user.hasRole .admin = false) →
      ∀ user ∈ q.state.accounts.users, ∀ role ∈ user.roles,
        role = .requester ∨ ∃ old ∈ s.accounts.users, old.id = user.id ∧ role ∈ old.roles) := by
  have hauthority : Authority requests s q ∧ ∀ i, (q.thread i).Ensures (fun _ _ => True)
      ((requests i).MayWrite cfg.lib) (fun _ _ => True) (q.seen i) := by
    refine hrun.inv (I := fun _ q => Authority requests s q ∧ ∀ i, (q.thread i).Ensures
      (fun _ _ => True) ((requests i).MayWrite cfg.lib) (fun _ _ => True) (q.seen i)) ?_ ?_
    · exact ⟨⟨fun user huser role hrole => .seeded huser hrole,fun i id row h => (by cases h)⟩,
        fun i => (requests i).ensures_mayWrite cfg⟩
    · rintro _ p l q ⟨hp,hthreads⟩ hstep
      obtain ⟨hmay,hnext⟩ := hstep.ensures hthreads trivial
      exact ⟨hp.step hstep hmay,hnext⟩
  exact ⟨hauthority.1.stored,fun hadmin user huser role hrole =>
    (hauthority.1.stored user huser role hrole).of_no_admin hadmin⟩

end Run

/-- The admin makes the requester an admin, who makes the assignee a supervisor. -/
def promotions (second : Bool) : Request :=
  if second then .guarded "Bearer user-requester-001"
    (.manage (.updateUser ⟨background,"user-assignee-001",none,some ⟨none,some .supervisor⟩⟩))
  else .guarded "Bearer user-admin-001"
    (.manage (.updateUser ⟨background,"user-requester-001",none,some ⟨none,some .admin⟩⟩))

theorem roles_granted_promotions : ∃ q : Requests Bool,
    (q.state.accounts.findByID "user-assignee-001").map (·.roles) = some [.supervisor] ∧
    Granted promotions started q.seen "user-assignee-001" .supervisor := by
  let p := begin sampleConfig promotions started
  let schedule := List.replicate 4 false ++ List.replicate 4 true
  obtain ⟨hgranted,-⟩ := roles_granted (trace_schedule promotions schedule)
  have hroles : ((p.play (exec sampleConfig (sampleEnv 0)) schedule).2.state.accounts.findByID
      "user-assignee-001").map (·.roles) = some [.supervisor] := by decide +kernel
  obtain ⟨user,hfound,hsupervisor⟩ := Option.map_eq_some_iff.mp hroles
  have hid := Auth.MemoryUserStore.id_of_findByID hfound
  have hholds := hgranted user (Auth.MemoryUserStore.mem_of_findByID hfound) .supervisor
    (by simp [hsupervisor])
  exact ⟨_,hroles,hid ▸ hholds⟩

end OpsPlatform.Server
