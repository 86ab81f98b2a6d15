import ParishSite.Content.Faults

/-! How a request can fail, as the client is told. Faults of a form are told field by field; every
other failure is one sentence. -/

namespace ParishSite

inductive Failure
  | unauthorized (message : String)
  | forbidden (message : String)
  | badRequest (message : String)
  | invalid (faults : List FieldFault)
  | notFound (message : String)
  | badGateway (message : String)
  | unavailable (message : String)
  | internal (message : String)
deriving DecidableEq

namespace Failure

def status : Failure → Nat
  | unauthorized _ => 401
  | forbidden _ => 403
  | badRequest _ => 400
  | invalid _ => 422
  | notFound _ => 404
  | badGateway _ => 502
  | unavailable _ => 503
  | internal _ => 500

end Failure

def checked (faults : List FieldFault) : Except Failure Unit :=
  if faults.isEmpty then .ok () else .error (.invalid faults)

/-- A page of videos has between 1 and 50 of them. -/
def checkedPageSize (size : Nat) : Except Failure Nat :=
  if 1 ≤ size ∧ size ≤ 50 then .ok size
  else .error (.badRequest "max_results must be between 1 and 50")

end ParishSite
