import ParishSite.Backend.Fault
import ParishSite.Backend.Query
import ParishSite.Content.Account
import ParishSite.Dialogue
import ParishSite.Json.Decoder
import ParishSite.Settings

/-! The store of the content: tables, which are read and written row by row, and the accounts of
those who sign in. Every write names its row by the id, and is made with the token of who asks. -/

namespace ParishSite.Backend

open Web (Method Outgoing Url)

structure Access where
  url : Url
  key : String

/-- The store of some settings; without an address or a key there is none. -/
abbrev Client := Option Access

def Client.ofSettings (s : Settings) : Client := do
  let url ← s.storeUrl
  let key ← s.storeKey.filter (· ≠ "")
  some ⟨url, key⟩

abbrev Call := ExceptT Fault Dialogue

structure Refusal where
  code : Option Json
  errorCode : Option String
  message : Option String
  shortMessage : Option String
  description : Option String
  error : Option String

namespace Refusal

def empty : Refusal := ⟨none, none, none, none, none, none⟩

def decoder : Json.Decoder Refusal :=
  (Json.Record.of Refusal.mk
    |>.optional "code" .any
    |>.optional "error_code" .string
    |>.optional "message" .string
    |>.optional "msg" .string
    |>.optional "error_description" .string
    |>.optional "error" .string).decoder "ErrorBody"

/-- What a body says; a body of any other shape says nothing. -/
def ofBody (body : Option (List UInt8)) : Refusal :=
  (body.bind fun bytes => (Json.read decoder (Text.Utf8.symbols bytes)).toOption).getD empty

private def codeText? : Json → Option String
  | .str s => some s
  | .int n => some (toString n)
  | .float x => some (Number.Layout.data.render x)
  | _ => none

def faultCode? (r : Refusal) : Option String :=
  match r.code.bind codeText? with
  | some code => some code
  | none => r.errorCode

/-- The first text that is not empty, or the words for the status. -/
def faultMessage (r : Refusal) (status : Nat) : String :=
  let texts := [r.message, r.shortMessage, r.description, r.error].filterMap fun s => s
  (texts.find? (· ≠ "")).getD (Web.refusalText status)

def toFault (r : Refusal) (status : Nat) : Fault :=
  .refused status r.faultCode? (r.faultMessage status)

end Refusal

/-- A request before it is known where the store is. -/
structure Errand where
  method : Method
  path : List String
  pairs : List (String × String)
  /-- Who asks; nobody for the site itself. -/
  token : Option String
  wantsRows : Bool
  body : Option Json

namespace Access

def outgoing (a : Access) (e : Errand) : Outgoing where
  method := e.method
  url := (a.url.extended (e.path.map String.toList)).withPairs e.pairs
  apiKey := some a.key
  bearer := some (e.token.getD a.key)
  wantsRows := e.wantsRows
  body := e.body

end Access

namespace Client

def send (c : Client) (e : Errand) : Call (Option (List UInt8)) :=
  match c with
  | none => throw .notConfigured
  | some a => do
    match ← ExceptT.lift (Dialogue.ask (a.outgoing e)) with
    | .dropped => throw .unreachable
    | .answered status body =>
      if Web.isSuccess status then return body
      else throw ((Refusal.ofBody body).toFault status)

def fetch (c : Client) (e : Errand) (d : Json.Decoder α) : Call α := do
  match ← c.send e with
  | none => throw .unreachable
  | some bytes =>
    match Json.read d (Text.Utf8.symbols bytes) with
    | .ok a => return a
    | .error misfit => throw (.unexpected misfit)

def tablePath (table : String) : List String := ["rest", "v1", table]

def rowPairs (id : String) : List (String × String) := [("id", "eq." ++ id)]

def select (c : Client) (q : Query) (d : Json.Decoder α) (token : Option String) :
    Call (List α) :=
  c.fetch ⟨.get, tablePath q.table, q.params, token, false, none⟩ (.list d)

def insert (c : Client) (table : String) (row : List (String × Json)) (d : Json.Decoder α)
    (token : String) : Call α := do
  let rows ← c.fetch ⟨.post, tablePath table, [], some token, true, some (.obj row)⟩ (.list d)
  match rows with
  | row :: _ => return row
  | [] => throw (.refused 500 none ("Insert into " ++ table ++ " returned no rows"))

/-- Changes the row with an id; nothing comes back when there is none. -/
def update (c : Client) (table id : String) (row : List (String × Json)) (d : Json.Decoder α)
    (token : String) : Call (Option α) := do
  let rows ← c.fetch
    ⟨.patch, tablePath table, rowPairs id, some token, true, some (.obj row)⟩ (.list d)
  return rows.head?

/-- Removes the row with an id, and says whether there was one. -/
def delete (c : Client) (table id token : String) : Call Bool := do
  let rows ← c.fetch ⟨.delete, tablePath table, rowPairs id, some token, true, none⟩ (.list .any)
  return !rows.isEmpty

def signIn (c : Client) (email password : String) : Call Session :=
  c.fetch ⟨.post, ["auth", "v1", "token"], [("grant_type", "password")], none, false,
    some (.obj [("email", .str email), ("password", .str password)])⟩ Session.decoder

def user (c : Client) (token : String) : Call User :=
  c.fetch ⟨.get, ["auth", "v1", "user"], [], some token, false, none⟩ User.decoder

def changePassword (c : Client) (token password : String) (metadata : List (String × Json)) :
    Call User :=
  c.fetch ⟨.put, ["auth", "v1", "user"], [], some token, false,
    some (.obj [("password", .str password), ("data", .obj metadata)])⟩ User.decoder

def signOut (c : Client) (token : String) : Call Unit := do
  let _ ← c.send ⟨.post, ["auth", "v1", "logout"], [], some token, false, none⟩

def recoverPassword (c : Client) (email : String) (redirect : Option String) : Call Unit := do
  let pairs := redirect.elim [] fun target => [("redirect_to", target)]
  let _ ← c.send ⟨.post, ["auth", "v1", "recover"], pairs, none, false,
    some (.obj [("email", .str email)])⟩

end Client
end ParishSite.Backend
