import ParishSite.Json.Node
import ParishSite.Time.Rfc3339

/-! Reading JSON text as a value of a known shape. A decoder goes through the tree of a text from left
to right and stops at the first fault. Records are read from objects, where unknown members are passed
over, and also from lists that hold the fields in order. -/

namespace ParishSite.Json

open Text.Utf8 (Symbol)

/-- How a part of a text is read: straight from the text, where only so many more levels may be
opened, or after it has been read once as a whole. -/
inductive Reading
  | direct (levels : Nat)
  | buffered

namespace Reading

/-- A text may open fewer than 128 levels. -/
def start : Reading := .direct 127

def opened : Reading → Except Misfit Reading
  | direct 0 => .error (.here (.text .nestedTooDeeply))
  | direct (levels + 1) => .ok (direct levels)
  | buffered => .ok buffered

end Reading

abbrev Decoder (α : Type) := Reading → Node → Except Misfit α

private def textFault (fault : SyntaxFault) : Misfit := .here (.text fault)

private def shapeFault (fault : ShapeFault) : Misfit := .here (.shape fault)

/-- The fault of a value of another kind than expected. Numbers and strings are read first, lists and
objects are not. -/
def Node.mismatch (node : Node) (expected : String) : Misfit :=
  let wrong (found : Found) := shapeFault (.wrongKind found expected)
  match node with
  | .null => wrong .null
  | .bool b => wrong (.bool b)
  | .number (.ok (.int n)) => wrong (.int n)
  | .number (.ok (.float x)) => wrong (.float x)
  | .number (.error fault) => textFault fault
  | .str (.ok s) => wrong (.str s)
  | .str (.error fault) => textFault fault
  | .list _ => wrong .list
  | .object _ => wrong .object
  | .absent => textFault .endInValue
  | .brokenStr read _ | .broken read _ => textFault read

mutual

/-- Any value at all. Of several members with one key the last counts. -/
def Node.whole (reading : Reading) : Node → Except Misfit Json
  | .null => .ok .null
  | .bool b => .ok (.bool b)
  | .number (.ok (.int n)) => .ok (.int n)
  | .number (.ok (.float x)) => .ok (.float x)
  | .number (.error fault) => .error (textFault fault)
  | .str (.ok s) => .ok (.str s)
  | .str (.error fault) => .error (textFault fault)
  | .list items => do
    let reading ← reading.opened
    .ok (.arr (← items.whole reading))
  | .object members => do
    let reading ← reading.opened
    .ok (.obj (Json.unique (← members.whole reading)))
  | .absent => .error (textFault .endInValue)
  | .brokenStr read _ | .broken read _ => .error (textFault read)

def Items.whole (reading : Reading) : Items → Except Misfit (List Json)
  | .done => .ok []
  | .stuck why => .error (textFault why.inList)
  | .item value rest => do
    let v ← value.whole reading
    let vs ← rest.whole reading
    .ok (v :: vs)

def Members.whole (reading : Reading) : Members → Except Misfit (List (String × Json))
  | .done => .ok []
  | .stuck why => .error (textFault why.inObject)
  | .stray _ => .error (textFault .keyNotString)
  | .brokenKey read _ => .error (textFault read)
  | .member (.error fault) _ _ => .error (textFault fault)
  | .member (.ok key) value rest => do
    let v ← value.whole reading
    let vs ← rest.whole reading
    .ok ((key, v) :: vs)

end

namespace Decoder

def any : Decoder Json := fun reading node => node.whole reading

def string : Decoder String := fun _ node =>
  match node with
  | .str (.ok s) => .ok s
  | other => .error (other.mismatch "a string")

def bool : Decoder Bool := fun _ node =>
  match node with
  | .bool b => .ok b
  | other => .error (other.mismatch "a boolean")

/-- An integer between two bounds, under the name of its range. -/
def int (name : String) (low high : Int) : Decoder Int := fun _ node =>
  match node with
  | .number (.ok (.int n)) =>
    if low ≤ n ∧ n ≤ high then .ok n else .error (shapeFault (.wrongValue (.int n) name))
  | other => .error (other.mismatch name)

def int32 : Decoder Int := int "i32" (-2147483648) 2147483647

def nat32 : Decoder Nat := fun reading node => do
  let n ← int "u32" 0 4294967295 reading node
  .ok n.toNat

def int64 : Decoder Int := int "i64" (-9223372036854775808) 9223372036854775807

def optional (d : Decoder α) : Decoder (Option α) := fun reading node =>
  match node with
  | .null => .ok none
  | other => some <$> d reading other

def items (d : Decoder α) (reading : Reading) (index : Nat) : Items → Except Misfit (List α)
  | .done => .ok []
  | .stuck why => .error (textFault why.inList)
  | .item value rest => do
    let a ← (d reading value).mapError (Misfit.under (.item index))
    let more ← items d reading (index + 1) rest
    .ok (a :: more)

def list (d : Decoder α) : Decoder (List α) := fun reading node =>
  match node with
  | .list is => do items d (← reading.opened) 0 is
  | other => .error (other.mismatch "a sequence")

def members : Decoder (List (String × Json)) := fun reading node =>
  match node with
  | .object ms => do .ok (Json.unique (← ms.whole (← reading.opened)))
  | other => .error (other.mismatch "a map")

def instant : Decoder Time.Instant := fun _ node =>
  match node with
  | .str (.ok s) =>
    match Time.Rfc3339.read s with
    | .ok t => .ok t
    | .error fault => .error (shapeFault (.badTime fault.message))
  | other => .error (other.mismatch "an RFC 3339 formatted date and time string")

/-- The id of a row: a text, or a whole number in its decimal digits. The value is read as a whole
before it is looked at. -/
def rowId : Decoder String := fun reading node => do
  match ← node.whole reading with
  | .str s => .ok s
  | .int n =>
    if -9223372036854775808 ≤ n ∧ n ≤ 9223372036854775807 then .ok (toString n)
    else .error (shapeFault .noSuchId)
  | _ => .error (shapeFault .noSuchId)

def variantNamed (known : List (String × α)) (name : String) : Except Misfit α :=
  match known.find? fun (n, _) => n = name with
  | some (_, a) => .ok a
  | none => .error (shapeFault (.unknownVariant name (known.map (·.1))))

/-- The name of a variant as the only key of an object, whose value says nothing. -/
private def variantObject (known : List (String × α)) : Members → Except Misfit α
  | .done => .error (textFault .expectedValue)
  | .stuck _ => .error (textFault .endInValue)
  | .stray value => .error (value.mismatch "variant identifier")
  | .brokenKey read _ => .error (textFault read)
  | .member (.error fault) _ _ => .error (textFault fault)
  | .member (.ok name) value rest => do
    let a ← variantNamed known name
    match value with
    | .null =>
      match rest with
      | .done => .ok a
      | .stuck why => .error (textFault why.afterVariant)
      | _ => .error (textFault .expectedValue)
    | .broken .expectedColon _ => .error (textFault .expectedColon)
    | .broken .endInObject _ => .error (textFault .endInObject)
    | other => .error ((other.mismatch "unit").under (.field name))

/-- The same for an object that has been read as a whole. -/
private def bufferedVariant (known : List (String × α)) : Members → Except Misfit α
  | .member (.ok name) value .done => do
    let a ← variantNamed known name
    match value with
    | .null | .object .done => .ok a
    | other => .error (other.mismatch "unit")
  | _ => .error (shapeFault (.wrongValue .object "map with a single key"))

/-- One of a few named values. It is written as its name. -/
def variant (known : List (String × α)) : Decoder α := fun reading node =>
  match reading, node with
  | _, .str (.ok name) => variantNamed known name
  | _, .str (.error fault) => .error (textFault fault)
  | .buffered, .object ms => bufferedVariant known ms
  | .buffered, other => .error (other.mismatch "string or map")
  | .direct _, .object ms => do
    let _ ← reading.opened
    variantObject known ms
  | .direct _, .absent => .error (textFault .endInValue)
  | .direct _, .brokenStr read _ => .error (textFault read)
  | .direct _, _ => .error (textFault .expectedValue)

end Decoder

structure Field where
  name : String
  check : Reading → Node → Except Misfit Unit
  /-- Whether a list may end before the field. -/
  mayEndBefore : Bool

/-- How the fields of a record are read, and how the record is built of what was found. -/
structure Record (α : Type) where
  fields : List Field
  build : Reading → List (String × Node) → Except Misfit α

namespace Record

def of (a : α) : Record α := ⟨[], fun _ _ => .ok a⟩

def lookup (name : String) (found : List (String × Node)) : Option Node :=
  (found.find? fun (n, _) => n = name).map (·.2)

def extended (r : Record (α → β)) (name : String) (d : Decoder α) (mayEndBefore : Bool)
    (absent : Except Misfit α) : Record β where
  fields := r.fields ++ [⟨name, fun reading node => (fun _ => ()) <$> d reading node, mayEndBefore⟩]
  build reading found := do
    let f ← r.build reading found
    match lookup name found with
    | some node => f <$> d reading node
    | none => f <$> absent

def required (r : Record (α → β)) (name : String) (d : Decoder α) : Record β :=
  r.extended name d false (.error (shapeFault (.missingField name)))

/-- A field that may be left out of an object, though not out of a list. -/
def optional (r : Record (Option α → β)) (name : String) (d : Decoder α) : Record β :=
  r.extended name d.optional false (.ok none)

def defaulted (r : Record (α → β)) (name : String) (d : Decoder α) (default : α) : Record β :=
  r.extended name d true (.ok default)

def fieldNamed (fields : List Field) (name : String) : Option Field :=
  fields.find? fun f => f.name = name

def isFound (found : List (String × Node)) (name : String) : Bool :=
  found.any fun (n, _) => n = name

/-- Reads the known members of an object, and passes over the others. -/
def readMembers (fields : List Field) (reading : Reading) (found : List (String × Node)) :
    Members → Except Misfit (List (String × Node))
  | .done => .ok found
  | .stuck why => .error (textFault why.inObject)
  | .stray _ => .error (textFault .keyNotString)
  | .brokenKey read _ => .error (textFault read)
  | .member (.error fault) _ _ => .error (textFault fault)
  | .member (.ok name) value rest =>
    match fieldNamed fields name with
    | none =>
      match value.pass with
      | .ok () => readMembers fields reading found rest
      | .error fault => .error ((textFault fault).under (.field name))
    | some field =>
      if isFound found name then .error (shapeFault (.repeatedField name))
      else
        match field.check reading value with
        | .ok () => readMembers fields reading (found ++ [(name, value)]) rest
        | .error m => .error (m.under (.field name))

private def afterFields (found : List (String × Node)) :
    Items → Except Misfit (List (String × Node))
  | .done => .ok found
  | .stuck why => .error (textFault why.afterList)
  | .item _ _ => .error (textFault .trailingCharacters)

/-- Reads the items of a list as the fields in their order. -/
def readItems (expected : String) (reading : Reading) (index : Nat)
    (found : List (String × Node)) : List Field → Items → Except Misfit (List (String × Node))
  | [], items => afterFields found items
  | field :: more, .done =>
    if field.mayEndBefore then readItems expected reading (index + 1) found more .done
    else .error (shapeFault (.wrongLength index expected))
  | _ :: _, .stuck why => .error (textFault why.inList)
  | field :: more, .item value rest =>
    match field.check reading value with
    | .ok () => readItems expected reading (index + 1) (found ++ [(field.name, value)]) more rest
    | .error m => .error (m.under (.item index))

private def described (name : String) : String := "struct " ++ name

private def counted (name : String) (count : Nat) : String :=
  described name ++ " with " ++ toString count ++ (if count = 1 then " element" else " elements")

def decoder (name : String) (r : Record α) : Decoder α := fun reading node =>
  match node with
  | .object ms => do
    let reading ← reading.opened
    r.build reading (← readMembers r.fields reading [] ms)
  | .list is => do
    let reading ← reading.opened
    r.build reading (← readItems (counted name r.fields.length) reading 0 [] r.fields is)
  | other => .error (other.mismatch (described name))

/-- Reads the own members of an object, and keeps the others after reading them as a whole. -/
def readOwn (own : List Field) (reading : Reading)
    (found others : List (String × Node)) :
    Members → Except Misfit (List (String × Node) × List (String × Node))
  | .done => .ok (found, others)
  | .stuck why => .error (textFault why.inObject)
  | .stray _ => .error (textFault .keyNotString)
  | .brokenKey read _ => .error (textFault read)
  | .member (.error fault) _ _ => .error (textFault fault)
  | .member (.ok name) value rest =>
    match fieldNamed own name with
    | some field =>
      if isFound found name then .error (shapeFault (.repeatedField name))
      else
        match field.check reading value with
        | .ok () => readOwn own reading (found ++ [(name, value)]) others rest
        | .error m => .error (m.under (.field name))
    | none =>
      match value.whole reading with
      | .ok _ => readOwn own reading found (others ++ [(name, value)]) rest
      | .error m => .error (m.under (.field name))

def readKept (fields : List Field) (found : List (String × Node)) :
    List (String × Node) → Except Misfit (List (String × Node))
  | [] => .ok found
  | (name, value) :: rest =>
    match fieldNamed fields name with
    | none => readKept fields found rest
    | some field =>
      if isFound found name then .error (shapeFault (.repeatedField name))
      else
        match field.check .buffered value with
        | .ok () => readKept fields (found ++ [(name, value)]) rest
        | .error m => .error m

/-- A record that shares its object with another one. Its own fields are read first. -/
def decoderWith (name : String) (own : Record (β → α)) (inner : Record β) : Decoder α :=
  fun reading node =>
    match node with
    | .object ms => do
      let reading ← reading.opened
      let (found, others) ← readOwn own.fields reading [] [] ms
      let f ← own.build reading found
      let b ← inner.build .buffered (← readKept inner.fields [] others)
      .ok (f b)
    | other => .error (other.mismatch (described name))

end Record

/-- Reads a whole text. Only white space may follow the value. -/
def read (d : Decoder α) (text : List Symbol) : Except Misfit α := do
  let (node, rest) := Node.ofText text
  let a ← d .start node
  if (rest.map skipSpace).all List.isEmpty then .ok a
  else .error (textFault .trailingCharacters)

def readString (d : Decoder α) (text : String) : Except Misfit α :=
  read d (Text.Utf8.ofChars text.toList)

end ParishSite.Json
