import ParishSite.Json.Decoder
import ParishSite.Text.LowerCase
import ParishSite.Web.Form

/-! Requests that come in, and reading their parts: the token of who asks, parts of the path, the
query and the body. A part that cannot be read is rejected before anything is done. -/

namespace ParishSite.Web

structure Request where
  method : String
  path : List Char
  query : Option (List Char)
  /-- The names, in any case, and the values. -/
  headers : List (String × String)
  body : List UInt8

inductive Rejection
  | badAuthorization
  | badPath (name : String)
  | badQuery (message : String)
  | notJson
  | badBody (misfit : Json.Misfit)

namespace Rejection

def status : Rejection → Nat
  | badAuthorization | badPath _ | badQuery _ => 400
  | notJson => 415
  | badBody m => if m.fault.isSyntax then 400 else 422

def message : Rejection → String
  | badAuthorization => "invalid HTTP header (authorization)"
  | badPath name => "Invalid URL: Invalid UTF-8 in `" ++ name ++ "`"
  | badQuery message => "Failed to deserialize query string: " ++ message
  | notJson => "Expected request with `Content-Type: application/json`"
  | badBody m =>
    (if m.fault.isSyntax then "Failed to parse the request body as JSON: "
      else "Failed to deserialize the JSON body into the target type: ") ++ m.locatedMessage

end Rejection

def isJsonMediaType (s : String) : Bool := (subtypes? s.toList).any fun (main, sub, suffix) =>
  main == "application".toList && (sub == "json".toList || suffix == some "json".toList)
where
  isToken (c : Char) : Bool :=
    ('a' ≤ c && c ≤ 'z') || ('A' ≤ c && c ≤ 'Z') || ('0' ≤ c && c ≤ '9') ||
      "!#$%&'*+-.^_|~".toList.contains c || c.toNat == 96
  isQuotable (c : Char) : Bool := 31 < c.toNat && c.toNat < 127
  /-- What follows a quoted value and its parameter; the value has at least one character. -/
  afterQuoted : List Char → Option (List Char)
    | [] => none
    | '"' :: rest =>
      match rest.dropWhile (· = ' ') with
      | [] => some []
      | ';' :: more => some more
      | _ => none
    | c :: rest => if isQuotable c then afterQuoted rest else none
  /-- What follows the first parameter. -/
  afterParameter (s : List Char) : Option (List Char) :=
    match s.dropWhile isToken with
    | '=' :: '"' :: c :: rest =>
      if (s.takeWhile isToken).isEmpty || !isQuotable c then none else afterQuoted rest
    | '=' :: value =>
      if (s.takeWhile isToken).isEmpty then none
      else
        match value.dropWhile isToken with
        | [] => some []
        | ';' :: more => if (value.takeWhile isToken).isEmpty then none else some more
        | _ => none
    | _ => none
  areParameters : Nat → List Char → Bool
    | 0, s => s.isEmpty
    | fuel + 1, s =>
      match s with
      | [] => true
      | ' ' :: rest => areParameters fuel rest
      | s =>
        match afterParameter s with
        | some rest => areParameters fuel rest
        | none => false
  /-- A subtype, and what follows its last plus sign. -/
  splitSuffix (s : List Char) : List Char × Option (List Char) :=
    match s with
    | [] => ([], none)
    | c :: rest =>
      match rest.reverse.dropWhile (· ≠ '+') with
      | [] => (s, none)
      | _ :: before => (c :: before.reverse, some ((rest.reverse.takeWhile (· ≠ '+')).reverse))
  subtypes? (s : List Char) : Option (List Char × List Char × Option (List Char)) := do
    let main := s.takeWhile isToken
    match s.dropWhile isToken with
    | '/' :: rest =>
      let whole := rest.takeWhile isToken
      let parameters ← match rest.dropWhile isToken with
        | [] => some []
        | ';' :: more => if whole.isEmpty then none else some more
        | _ => none
      if main.isEmpty || !areParameters (parameters.length + 1) parameters then none
      else
        let (sub, suffix) := splitSuffix (whole.map Char.toLower)
        some (main.map Char.toLower, sub, suffix)
    | _ => none

/-- A query in which every name is known once at most. -/
structure QueryField (α : Type) where
  name : String
  /-- The value with the field set, or what is wrong with its text. -/
  set : α → String → Except String α

/-- Sets the known fields one after another; unknown names are passed over. -/
def readQuery (fields : List (QueryField α)) (start : α) (pairs : List (String × String)) :
    Except String α :=
  go start [] pairs
where
  go (a : α) (seen : List String) : List (String × String) → Except String α
    | [] => .ok a
    | (name, value) :: rest =>
      match fields.find? fun f => f.name = name with
      | none => go a seen rest
      | some f =>
        if seen.contains name then .error ("duplicate field `" ++ name ++ "`")
        else
          match f.set a value with
          | .ok a => go a (name :: seen) rest
          | .error why => .error (name ++ ": " ++ why)

namespace QueryValue

/-- A number below `2 ^ 32`, with or without a plus sign. The first character that cannot go on is
what is wrong. -/
def nat32 (s : String) : Except String Nat :=
  match s.toList with
  | [] => .error "cannot parse integer from empty string"
  | ['+'] | ['-'] => .error badDigit
  | '+' :: ds => digits 0 ds
  | ds => digits 0 ds
where
  badDigit : String := "invalid digit found in string"
  digits (n : Nat) : List Char → Except String Nat
    | [] => .ok n
    | c :: rest =>
      if '0' ≤ c ∧ c ≤ '9' then
        let n := n * 10 + (c.toNat - 48)
        if n < 4294967296 then digits n rest
        else .error "number too large to fit in target type"
      else .error badDigit

def bool (s : String) : Except String Bool :=
  if s = "true" then .ok true
  else if s = "false" then .ok false
  else .error "provided string was not `true` or `false`"

end QueryValue

namespace Request

def header? (r : Request) (name : String) : Option String :=
  (r.headers.find? fun (n, _) => Text.lowerAscii n = name).map (·.2)

private def isPrintable (c : Char) : Bool := c == '\t' || (32 ≤ c.toNat && c.toNat < 127)

private def bearerMark : List Char := "bearer ".toList

/-- The token of who asks. An empty token counts as none. -/
def bearer (r : Request) : Except Rejection (Option String) :=
  match r.header? "authorization" with
  | none => .ok none
  | some value =>
    let cs := value.toList
    if (cs.take bearerMark.length).map Char.toLower = bearerMark ∧ cs.all isPrintable then
      let token := String.ofList (Text.trimStart (cs.drop bearerMark.length))
      .ok (if token = "" then none else some token)
    else .error .badAuthorization

def pathText (name : String) (part : List Char) : Except Rejection String :=
  match Text.Utf8.decode? (percentDecode part) with
  | some cs => .ok (String.ofList cs)
  | none => .error (.badPath name)

def queryPairs (r : Request) : List (String × String) := r.query.elim [] Form.decode

def readQuery (r : Request) (fields : List (QueryField α)) (start : α) : Except Rejection α :=
  (Web.readQuery fields start r.queryPairs).mapError .badQuery

/-- Reads the body. That a body of more than two mebibytes is answered with 413 before anything reads it
is left to the framework. -/
def readBody (r : Request) (d : Json.Decoder α) : Except Rejection α :=
  if (r.header? "content-type").any isJsonMediaType then
    (Json.read d (Text.Utf8.symbols r.body)).mapError .badBody
  else .error .notJson

end Request
end ParishSite.Web
