import OpsPlatform.Interaction.Runs
import OpsPlatform.Auth.Service

/-! The auth service on the in-memory user store. Everything outside the store, the clock
included, may answer as it likes. -/
namespace OpsPlatform.Auth
open OpsPlatform.Go Interaction Program

/-- The user store, and the last reading of the clock. -/
structure State where
  users : MemoryUserStore
  clock : Time

/-- One atomic call. -/
inductive Answers (lib : Lib) : (op : Op) → State → op.Res → State → Prop
  | findByIdentifier {s : State} (identifier : String) :
      Answers lib (.findByIdentifier identifier) s (s.users.findByIdentifier lib identifier) s
  | findByID {s : State} (id : String) : Answers lib (.findByID id) s (s.users.findByID id) s
  | findByGoogleSubjectID {s : State} (subjectID : String) :
      Answers lib (.findByGoogleSubjectID subjectID) s (s.users.findByGoogleSubjectID subjectID) s
  | create {s : State} (user : User) :
      Answers lib (.create user) s (s.users.create lib user).1
        { s with users := (s.users.create lib user).2 }
  | update {s : State} (user : User) :
      Answers lib (.update user) s (s.users.update user).1
        { s with users := (s.users.update user).2 }
  | updateAtomic {s : State} (id : String) (mutate : User → Except Error (User × OTPCheckResult)) :
      Answers lib (.updateAtomic id mutate) s (s.users.updateAtomic id mutate).1
        { s with users := (s.users.updateAtomic id mutate).2 }
  | seed {s : State} (user : User) :
      Answers lib (.seed user) s (.ok ()) { s with users := s.users.seed lib user }
  | hash {s : State} (password : String) (r : Except Error String) :
      Answers lib (.hash password) s r s
  | compare {s : State} (hash password : String) (r : Except Error Unit) :
      Answers lib (.compare hash password) s r s
  | issue {s : State} (principal : Principal) (r : Except Error (String × Time)) :
      Answers lib (.issue principal) s r s
  | parse {s : State} (rawToken : String) (r : Except Error Principal) :
      Answers lib (.parse rawToken) s r s
  | send {s : State} (recipient subject body : String) (r : Except Error Unit) :
      Answers lib (.send recipient subject body) s r s
  | sendLater {s : State} (recipient subject body : String) :
      Answers lib (.sendLater recipient subject body) s () s
  | randInt {s : State} (max : ℕ) (r : Except Error (Fin max)) :
      Answers lib (.randInt max) s r s
  | now {s : State} (reading : Time) : Answers lib .now s reading { s with clock := reading }

/-- What the rest of the world answers to one call. -/
structure Env where
  now : Time
  hash : String → Except Error String
  compare : String → String → Except Error Unit
  issue : Principal → Except Error (String × Time)
  parse : String → Except Error Principal
  send : Except Error Unit
  randInt : (max : ℕ) → Except Error (Fin max)

/-- One atomic call in a given environment. -/
def exec (lib : Lib) (env : Env) : (op : Op) → State → op.Res × State
  | .findByIdentifier identifier, s => (s.users.findByIdentifier lib identifier,s)
  | .findByID id, s => (s.users.findByID id,s)
  | .findByGoogleSubjectID subjectID, s => (s.users.findByGoogleSubjectID subjectID,s)
  | .create user, s => ((s.users.create lib user).1,{ s with users := (s.users.create lib user).2 })
  | .update user, s => ((s.users.update user).1,{ s with users := (s.users.update user).2 })
  | .updateAtomic id mutate, s =>
    ((s.users.updateAtomic id mutate).1,{ s with users := (s.users.updateAtomic id mutate).2 })
  | .seed user, s => (.ok (),{ s with users := s.users.seed lib user })
  | .hash password, s => (env.hash password,s)
  | .compare hash password, s => (env.compare hash password,s)
  | .issue principal, s => (env.issue principal,s)
  | .parse rawToken, s => (env.parse rawToken,s)
  | .send _ _ _, s => (env.send,s)
  | .sendLater _ _ _, s => ((),s)
  | .randInt max, s => (env.randInt max,s)
  | .now, s => (env.now,{ s with clock := env.now })

theorem answers_exec (lib : Lib) (env : Env) (op : Op) (s : State) :
    Answers lib op s (exec lib env op s).1 (exec lib env op s).2 := by
  cases op <;> constructor

/-- A world for runs on fixed inputs. It knows the digests of the codes 000000 and 123456, draws
zero at random, and recognises a password in its hash. -/
def sampleLib : Lib where
  toLower := Char.toLower
  sha256Hex code :=
    if code = "000000" then "91b4d142823f7d20c5f08df69122de43f35f057a988d9619f6d3138485c9a203"
    else if code = "123456" then "8d969eef6ecad3c29a3a629280e686cf0c3f5d5a86aff3ca12020c923adc6c92"
    else ""

def sampleEnv (now : Time) : Env where
  now := now
  hash password := .ok ("$2a$10$" ++ password)
  compare hash password :=
    if hash = "$2a$10$" ++ password then .ok () else .error ⟨"crypto/bcrypt: mismatch"⟩
  issue principal := .ok (principal.userID,now+minute)
  parse _ := .error errInvalidToken
  send := .ok ()
  randInt max := if h : 0 < max then .ok ⟨0,h⟩ else .error ⟨"no range"⟩

end OpsPlatform.Auth
