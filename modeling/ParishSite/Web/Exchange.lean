import ParishSite.Json.Basic
import ParishSite.Web.Url

/-! Requests to other services and what comes back. A request whose address is not of the web, or
whose headers hold control characters, cannot be sent at all. -/

namespace ParishSite.Web

inductive Method
  | get
  | post
  | put
  | patch
  | delete
deriving DecidableEq

namespace Method

def name : Method → String
  | get => "GET"
  | post => "POST"
  | put => "PUT"
  | patch => "PATCH"
  | delete => "DELETE"

end Method

structure Outgoing where
  method : Method
  url : Url
  /-- The key of the whole site. -/
  apiKey : Option String
  /-- On whose behalf the request is made. -/
  bearer : Option String
  /-- Whether the rows that were written are wanted back. -/
  wantsRows : Bool
  body : Option Json

namespace Outgoing

/-- A request for something that anybody may read. -/
def read (url : Url) : Outgoing := ⟨.get, url, none, none, false, none⟩

private def isHeaderChar (c : Char) : Bool := c == '\t' || (32 ≤ c.toNat && c.toNat != 127)

def isSendable (r : Outgoing) : Bool :=
  r.url.isHttp && (r.apiKey.all fun s => s.toList.all isHeaderChar) &&
    r.bearer.all fun s => s.toList.all isHeaderChar

end Outgoing

/-- What comes back: nothing, or a status with a body that may turn out not to be readable. -/
inductive Reply
  | dropped
  | answered (status : Nat) (body : Option (List UInt8))

def isSuccess (status : Nat) : Bool := 200 ≤ status && status < 300

/-- The usual words for a status, for those that have some. -/
def statusText? : Nat → Option String
  | 100 => some "Continue"
  | 101 => some "Switching Protocols"
  | 102 => some "Processing"
  | 103 => some "Early Hints"
  | 200 => some "OK"
  | 201 => some "Created"
  | 202 => some "Accepted"
  | 203 => some "Non Authoritative Information"
  | 204 => some "No Content"
  | 205 => some "Reset Content"
  | 206 => some "Partial Content"
  | 207 => some "Multi-Status"
  | 208 => some "Already Reported"
  | 226 => some "IM Used"
  | 300 => some "Multiple Choices"
  | 301 => some "Moved Permanently"
  | 302 => some "Found"
  | 303 => some "See Other"
  | 304 => some "Not Modified"
  | 305 => some "Use Proxy"
  | 307 => some "Temporary Redirect"
  | 308 => some "Permanent Redirect"
  | 400 => some "Bad Request"
  | 401 => some "Unauthorized"
  | 402 => some "Payment Required"
  | 403 => some "Forbidden"
  | 404 => some "Not Found"
  | 405 => some "Method Not Allowed"
  | 406 => some "Not Acceptable"
  | 407 => some "Proxy Authentication Required"
  | 408 => some "Request Timeout"
  | 409 => some "Conflict"
  | 410 => some "Gone"
  | 411 => some "Length Required"
  | 412 => some "Precondition Failed"
  | 413 => some "Payload Too Large"
  | 414 => some "URI Too Long"
  | 415 => some "Unsupported Media Type"
  | 416 => some "Range Not Satisfiable"
  | 417 => some "Expectation Failed"
  | 418 => some "I'm a teapot"
  | 421 => some "Misdirected Request"
  | 422 => some "Unprocessable Entity"
  | 423 => some "Locked"
  | 424 => some "Failed Dependency"
  | 425 => some "Too Early"
  | 426 => some "Upgrade Required"
  | 428 => some "Precondition Required"
  | 429 => some "Too Many Requests"
  | 431 => some "Request Header Fields Too Large"
  | 451 => some "Unavailable For Legal Reasons"
  | 500 => some "Internal Server Error"
  | 501 => some "Not Implemented"
  | 502 => some "Bad Gateway"
  | 503 => some "Service Unavailable"
  | 504 => some "Gateway Timeout"
  | 505 => some "HTTP Version Not Supported"
  | 506 => some "Variant Also Negotiates"
  | 507 => some "Insufficient Storage"
  | 508 => some "Loop Detected"
  | 510 => some "Not Extended"
  | 511 => some "Network Authentication Required"
  | _ => none

/-- What is said about a refusal that says nothing itself. -/
def refusalText (status : Nat) : String := (statusText? status).getD "Request failed"

end ParishSite.Web
