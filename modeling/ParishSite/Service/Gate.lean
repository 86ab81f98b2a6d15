import ParishSite.Service.Basic

/-! The gate of the admin pages. Whoever comes with a token is asked for at the store; a pending change
of the password lets nobody pass but to the change itself. A session of a user who is there no more is
signed out on the way. -/

namespace ParishSite.Service

structure Admin where
  token : String
  user : User

inductive SignIn
  | authorized (admin : Admin)
  | mustChangePassword (admin : Admin)
  | unauthorized

namespace SignIn

def name : SignIn → String
  | authorized _ => "authorized"
  | mustChangePassword _ => "must_change_password"
  | unauthorized => "unauthorized"

def user? : SignIn → Option User
  | authorized admin | mustChangePassword admin => some admin.user
  | unauthorized => none

def toJson (s : SignIn) : Json :=
  .obj [("state", .str s.name), ("user", s.user?.elim .null User.toJson)]

def resolve (c : Backend.Client) (token : Option String) : Dialogue SignIn :=
  match token with
  | none => return .unauthorized
  | some token => do
    match ← (c.user token).run with
    | .ok user =>
      if ParishSite.mustChangePassword user.metadata then
        return .mustChangePassword ⟨token, user⟩
      else return .authorized ⟨token, user⟩
    | .error fault => do
      if fault.isMissingUser then
        let _ ← (c.signOut token).run
      return .unauthorized

end SignIn

def invalidSession : Failure := .unauthorized "Invalid or expired session"

def gate (c : Backend.Client) (token : Option String) (mayChangePassword : Bool) : Act Admin := do
  if c.isNone then
    Act.fail (.unavailable
      "Admin login is unavailable. Configure Supabase environment variables.")
  else
    match ← ExceptT.lift (StateT.lift (SignIn.resolve c token)) with
    | .authorized admin => return admin
    | .mustChangePassword admin =>
      if mayChangePassword then return admin
      else Act.fail (.forbidden "Password change required before continuing")
    | .unauthorized => Act.fail invalidSession

end ParishSite.Service
