import ParishSite.Content.Failure
import ParishSite.Json.Printer
import ParishSite.Web.Request

/-! Answers to requests: JSON, plain text or a file. -/

namespace ParishSite.Web

inductive Body
  | empty
  | json (value : Json)
  | text (chars : List Char)

structure Response where
  status : Nat
  headers : List (String × String)
  body : Body

namespace Response

def json (status : Nat) (value : Json) : Response :=
  ⟨status, [("content-type", "application/json")], .json value⟩

def text (status : Nat) (message : String) : Response :=
  ⟨status, [("content-type", "text/plain; charset=utf-8")], .text message.toList⟩

def bare (status : Nat) : Response := ⟨status, [], .empty⟩

def calendar (name : String) (file : List Char) : Response :=
  ⟨200, [("content-type", "text/calendar; charset=utf-8"),
    ("content-disposition", "attachment; filename=\"" ++ name ++ "\"")], .text file⟩

def ofFailure (f : Failure) : Response :=
  match f with
  | .invalid faults => json f.status (.obj [("errors", FieldFault.toJson faults)])
  | .unauthorized message | .forbidden message | .badRequest message | .notFound message
  | .badGateway message | .unavailable message | .internal message => text f.status message

def ofRejection (r : Rejection) : Response := text r.status r.message

def withHeaders (r : Response) (more : List (String × String)) : Response :=
  { r with headers := r.headers ++ more }

def withoutBody (r : Response) : Response := { r with body := .empty }

end Response
end ParishSite.Web
