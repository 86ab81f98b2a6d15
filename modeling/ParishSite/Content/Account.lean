import ParishSite.Json.Decoder
import ParishSite.Json.Encode

/-! People who sign in, and their sessions. What is known about a person besides the id and the
address is free; one entry of it says that the password must be changed before anything else. -/

namespace ParishSite

structure User where
  id : String
  email : Option String
  metadata : List (String × Json)

namespace User

def toJson (u : User) : Json :=
  .obj [("id", .str u.id), ("email", Json.text? u.email), ("user_metadata", .obj u.metadata)]

def decoder : Json.Decoder User :=
  (Json.Record.of User.mk
    |>.required "id" .string
    |>.optional "email" .string
    |>.defaulted "user_metadata" .members []).decoder "AuthUser"

end User

structure Session where
  accessToken : String
  tokenType : Option String
  expiresIn : Option Int
  refreshToken : Option String
  user : User

namespace Session

def toJson (s : Session) : Json :=
  .obj [("access_token", .str s.accessToken), ("token_type", Json.text? s.tokenType),
    ("expires_in", Json.int? s.expiresIn), ("refresh_token", Json.text? s.refreshToken),
    ("user", s.user.toJson)]

def decoder : Json.Decoder Session :=
  (Json.Record.of Session.mk
    |>.required "access_token" .string
    |>.optional "token_type" .string
    |>.optional "expires_in" .int64
    |>.optional "refresh_token" .string
    |>.required "user" User.decoder).decoder "AuthSession"

end Session

/-- Whether the password must be changed: the entry is true, the text `true` or `1`, or the integer 1. -/
def mustChangePassword (metadata : List (String × Json)) : Bool :=
  match Json.find? "must_change_password" metadata with
  | some (.bool flag) => flag
  | some (.str flag) => flag = "true" || flag = "1"
  | some (.int n) => n = 1
  | _ => false

def passwordChanged (metadata : List (String × Json)) (now : Time.Instant) :
    List (String × Json) :=
  Json.bind "password_changed_at" (.str (Time.Rfc3339.writeOffset now))
    (Json.bind "must_change_password" (.bool false) metadata)

inductive PasswordFault
  | tooShort
  | confirmedDifferently
deriving DecidableEq

def PasswordFault.message : PasswordFault → String
  | tooShort => "New password must be at least 8 characters long."
  | confirmedDifferently => "Passwords do not match."

def passwordFault? (new confirmed : String) : Option PasswordFault :=
  if new.length < 8 then some .tooShort
  else if new ≠ confirmed then some .confirmedDifferently
  else none

/-- Where to go after signing in: back to the admin page that was asked for. -/
def pathAfterSignIn (wanted : Option String) : String :=
  match wanted with
  | some path =>
    if "/admin".toList.isPrefixOf path.toList ∧ path ≠ "/admin/login" then path else "/admin"
  | none => "/admin"

end ParishSite
