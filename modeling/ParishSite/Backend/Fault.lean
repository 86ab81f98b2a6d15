import ParishSite.Content.Failure
import ParishSite.Json.Fault
import ParishSite.Text.LowerCase
import ParishSite.Web.Host

/-! What can go wrong with the store of the content, and what the client is told about it. -/

namespace ParishSite.Backend

inductive Fault
  | notConfigured
  | refused (status : Nat) (code : Option String) (message : String)
  | unreachable
  | badUrl (fault : Web.UrlFault)
  | unexpected (misfit : Json.Misfit)

namespace Fault

def message : Fault → String
  | notConfigured => "Supabase is not configured. Configure Supabase environment variables."
  | refused _ _ message => message
  | unreachable => "Failed to reach Supabase"
  | badUrl fault => "Invalid Supabase URL: " ++ fault.message
  | unexpected misfit => "Unexpected Supabase response: " ++ misfit.message

def undefinedColumn : String := "42703"

def containsText (part : List Char) : List Char → Bool
  | [] => part.isEmpty
  | c :: rest => part.isPrefixOf (c :: rest) || containsText part rest

/-- A query was refused because a column is not there. The name of the column in the message is
enough, in any case of its letters. -/
def isMissingColumn (column : String) : Fault → Bool
  | refused _ code message =>
    code == some undefinedColumn ||
      containsText (Text.lower column.toList) (Text.lower message.toList)
  | _ => false

/-- The submitted values were refused: the code is of class 22 or 23, five bytes in all. -/
def isInvalidInput : Fault → Bool
  | refused _ (some code) _ =>
    code.utf8ByteSize == 5 &&
      ("22".toList.isPrefixOf code.toList || "23".toList.isPrefixOf code.toList)
  | _ => false

/-- The session belongs to a user who is there no more. -/
def isMissingUser : Fault → Bool
  | refused _ _ message =>
    containsText "User from sub claim in JWT does not exist".toList message.toList
  | _ => false

/-- What the client is told. Sessions are checked before any table is touched, so a status of 403 is
about the rows and not about the session. -/
def toFailure (fault : Fault) : Failure :=
  if fault.isInvalidInput then .badRequest fault.message
  else
    match fault with
    | notConfigured => .unavailable fault.message
    | refused status _ message => if status = 403 then .forbidden message else .badGateway message
    | unexpected _ => .badGateway fault.message
    | badUrl cause => .internal cause.message
    | unreachable => .badGateway fault.message

end Fault
end ParishSite.Backend
