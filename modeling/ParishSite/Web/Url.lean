import ParishSite.Web.Host

/-! Addresses of the web. Reading brings an address into its normal form: the scheme and the host in
lower case, no port number that goes without saying, no dots as segments of the path, and every
character that an address cannot hold as escaped bytes. -/

namespace ParishSite.Web

/-- What follows the host: segments, each after a slash, or a text of another kind. -/
inductive Path
  | segments (parts : List (List Char))
  | text (chars : List Char)
deriving DecidableEq

namespace Path

def toText : Path → List Char
  | segments parts => parts.flatMap fun s => '/' :: s
  | text chars => chars

end Path

structure Authority where
  /-- Who asks, with the sign that ends it; mostly nothing. -/
  userInfo : List Char
  host : List Char
  portNumber : Option Nat
deriving DecidableEq

structure Url where
  scheme : List Char
  authority : Option Authority
  path : Path
  query : Option (List Char)
  fragment : Option (List Char)
deriving DecidableEq

namespace Authority

def toText (a : Authority) : List Char :=
  a.userInfo ++ a.host ++
    match a.portNumber with
    | some n => ':' :: Nat.toDigits 10 n
    | none => []

end Authority

namespace Url

private def marked (mark : Char) : Option (List Char) → List Char
  | some s => mark :: s
  | none => []

/-- A path that starts with two slashes would be taken for a host. -/
private def hostlessPath (p : Path) : List Char :=
  match p with
  | .segments ([] :: _ :: _) => '/' :: '.' :: p.toText
  | _ => p.toText

def toText (u : Url) : List Char :=
  u.scheme ++ ':' ::
    (match u.authority with
    | some a => '/' :: '/' :: a.toText ++ u.path.toText
    | none => hostlessPath u.path) ++
    marked '?' u.query ++ marked '#' u.fragment

/-- The schemes whose addresses always name a host, and their usual port numbers. -/
def defaultPort? (scheme : List Char) : Option Nat :=
  if scheme = "http".toList ∨ scheme = "ws".toList then some 80
  else if scheme = "https".toList ∨ scheme = "wss".toList then some 443
  else if scheme = "ftp".toList then some 21
  else none

def isFile (scheme : List Char) : Bool := scheme == "file".toList

def isSpecial (scheme : List Char) : Bool :=
  isFile scheme || (defaultPort? scheme).isSome

def isHttp (u : Url) : Bool := u.scheme == "http".toList || u.scheme == "https".toList

def escaped (also : List Char) (s : List Char) : List Char :=
  s.flatMap fun c =>
    if c.toNat < 32 || 126 < c.toNat || also.contains c then
      (Text.Utf8.encodeChar c).flatMap percentByte
    else [c]

-- the character with number 96 is the grave accent
private def inFragment : List Char := [' ', '"', '<', '>', Char.ofNat 96]
private def inPath : List Char := inFragment ++ ['#', '?', '\x7b', '\x7d', '^']
private def inUserInfo : List Char := inPath ++ ['/', ':', ';', '=', '@', '[', '\\', ']', '|']
private def inQuery : List Char := [' ', '"', '#', '<', '>']

private def cut (mark : Char) (s : List Char) : List Char × Option (List Char) :=
  match s.dropWhile (· ≠ mark) with
  | [] => (s, none)
  | _ :: after => (s.takeWhile (· ≠ mark), some after)

private def isSchemeChar (c : Char) : Bool := c.isAlphanum || c == '+' || c == '-' || c == '.'

private def scheme? (s : List Char) : Option (List Char × List Char) :=
  match s with
  | [] => none
  | c :: _ =>
    match s.dropWhile isSchemeChar with
    | ':' :: rest =>
      if c.isAlpha then some ((s.takeWhile isSchemeChar).map Char.toLower, rest) else none
    | _ => none

private def isDot (s : List Char) : Bool :=
  s == ['.'] || s.map Char.toLower == "%2e".toList

private def isDoubleDot (s : List Char) : Bool :=
  s == ['.', '.'] || ["%2e.", ".%2e", "%2e%2e"].any fun t => s.map Char.toLower == t.toList

def isDriveLetter (s : List Char) : Bool :=
  match s with
  | [c, d] => c.isAlpha && (d == ':' || d == '|')
  | _ => false

def withoutLast (ofFile : Bool) (parts : List (List Char)) : List (List Char) :=
  match parts with
  | [only] => if ofFile && isDriveLetter only then [only] else []
  | parts => parts.dropLast

def pushed (ofFile : Bool) (parts : List (List Char)) (s : List Char) : List (List Char) :=
  match ofFile && parts.isEmpty && isDriveLetter s, s with
  | true, c :: _ => [[c, ':']]
  | _, s => parts ++ [escaped inPath s]

/-- Takes segments one by one, and follows dots on the way. -/
def walk (ofFile : Bool) (parts : List (List Char)) : List (List Char) → List (List Char)
  | [] => parts
  | [last] =>
    if isDoubleDot last then withoutLast ofFile parts ++ [[]]
    else if isDot last then parts ++ [[]]
    else pushed ofFile parts last
  | s :: rest =>
    if isDoubleDot s then walk ofFile (withoutLast ofFile parts) rest
    else if isDot s then walk ofFile parts rest
    else walk ofFile (pushed ofFile parts s) rest

def isSlash (special : Bool) (c : Char) : Bool := c == '/' || (special && c == '\\')

def withoutSlash (special : Bool) (s : List Char) : List Char :=
  match s with
  | c :: rest => if isSlash special c then rest else s
  | [] => []

def pathOf (scheme : List Char) (s : List Char) : List (List Char) :=
  let special := isSpecial scheme
  if s.isEmpty && !special then []
  else
    let parts := walk (isFile scheme) [] (Host.splitOn (isSlash special) (withoutSlash special s))
    if isFile scheme then
      match parts.dropWhile List.isEmpty with
      | [] => [[]]
      | kept => kept
    else parts

/-- Everything before the last `@`, if there is one, and everything behind it. -/
private def userInfoAndRest (s : List Char) : Option (List Char) × List Char :=
  match s.reverse.dropWhile (· ≠ '@') with
  | [] => (none, s)
  | _ :: before => (some before.reverse, (s.reverse.takeWhile (· ≠ '@')).reverse)

private def userInfoText (s : List Char) : List Char :=
  let (name, password) := cut ':' s
  let nameText := escaped inUserInfo name
  match password with
  | none | some [] => if nameText.isEmpty then [] else nameText ++ ['@']
  | some p => nameText ++ ':' :: escaped inUserInfo p ++ ['@']

/-- The host as it is typed, and what follows it. A colon in brackets belongs to the host. -/
private def hostAndRest (inBrackets : Bool) : List Char → List Char × List Char
  | [] => ([], [])
  | c :: rest =>
    if c = ':' ∧ !inBrackets then ([], c :: rest)
    else
      let inside := if c = '[' then true else if c = ']' then false else inBrackets
      let (host, rest) := hostAndRest inside rest
      (c :: host, rest)

private def portOf (scheme : List Char) (s : List Char) : Except UrlFault (Option Nat) :=
  match s with
  | [] => .ok none
  | _ :: ds =>
    if !ds.all Char.isDigit then .error .badPort
    else
      let n := ds.foldl (fun n c => n * 10 + (c.toNat - 48)) 0
      if 65535 < n then .error .badPort
      else if ds.isEmpty ∨ defaultPort? scheme = some n then .ok none
      else .ok (some n)

private def authorityOf (scheme : List Char) (s : List Char) : Except UrlFault Authority := do
  let (typedInfo, rest) := userInfoAndRest s
  let info := typedInfo.elim [] userInfoText
  let (typedHost, rest) := hostAndRest false rest
  let special := isSpecial scheme
  if typedHost.isEmpty then
    if special ∨ !rest.isEmpty ∨ !info.isEmpty then .error .emptyHost
    else .ok ⟨[], [], none⟩
  else
    let host ← if special then Host.read typedHost else Host.readUnknown typedHost
    .ok ⟨info, host, ← portOf scheme rest⟩

/-- The host of a file, which is mostly the computer itself. -/
private def fileHost (s : List Char) : Except UrlFault (List Char) := do
  if s.isEmpty then .ok []
  else
    let host ← Host.read s
    .ok (if host = "localhost".toList then [] else host)

def fileOf (s : List Char) : Except UrlFault (Authority × List (List Char)) :=
  let scheme := "file".toList
  match s with
  | a :: b :: rest =>
    if isSlash true a && isSlash true b then
      let typedHost := rest.takeWhile fun c => !isSlash true c
      if isDriveLetter typedHost then .ok (⟨[], [], none⟩, pathOf scheme rest)
      else do
        .ok (⟨[], ← fileHost typedHost, none⟩,
          pathOf scheme (rest.dropWhile fun c => !isSlash true c))
    else .ok (⟨[], [], none⟩, pathOf scheme s)
  | s => .ok (⟨[], [], none⟩, pathOf scheme s)

/-- The host and the path of an address, from what stands between its scheme and its query. -/
def placeOf (scheme s : List Char) : Except UrlFault (Option Authority × Path) :=
  let special := isSpecial scheme
  let afterSlashes (rest : List Char) := do
    let typed := rest.takeWhile fun c => !isSlash special c
    let a ← authorityOf scheme typed
    .ok (some a, .segments (pathOf scheme (rest.dropWhile fun c => !isSlash special c)))
  if isFile scheme then do
    let (a, parts) ← fileOf s
    .ok (some a, .segments parts)
  else if special then afterSlashes (s.dropWhile (isSlash true))
  else
    match s with
    | '/' :: '/' :: rest => afterSlashes rest
    | '/' :: _ => .ok (none, .segments (pathOf scheme s))
    | s => .ok (none, .text (Host.escapeControls s))

private def isIgnored (c : Char) : Bool := c == '\t' || c == '\n' || c == '\r'

private def trimSpace (s : List Char) : List Char :=
  ((s.dropWhile fun c => c.toNat ≤ 32).reverse.dropWhile fun c => c.toNat ≤ 32).reverse

def read (s : List Char) : Except UrlFault Url := do
  let s := (trimSpace s).filter fun c => !isIgnored c
  let (scheme, s) ← match scheme? s with
    | some found => .ok found
    | none => .error .relative
  let (s, fragment) := cut '#' s
  let (s, query) := cut '?' s
  let (authority, path) ← placeOf scheme s
  let queryEscapes := if isSpecial scheme then Char.ofNat 39 :: inQuery else inQuery
  .ok ⟨scheme, authority, path, query.map (escaped queryEscapes),
    fragment.map (escaped inFragment)⟩

def readString (s : String) : Except UrlFault Url := read s.toList

def withoutSlashes (s : List Char) : List Char :=
  (s.reverse.dropWhile (· = '/')).reverse

/-- The address with further segments behind it, whatever number of slashes it ends in. They go to
the end of its text, which is the path unless there is a query or a fragment. -/
def extended (u : Url) (parts : List (List Char)) : Url :=
  let tail := parts.flatMap fun s => '/' :: s
  match u.fragment, u.query with
  | some f, _ => { u with fragment := some (withoutSlashes f ++ tail) }
  | none, some q => { u with query := some (withoutSlashes q ++ tail) }
  | none, none =>
    match u.path with
    | .segments old =>
      { u with path := .segments ((old.reverse.dropWhile List.isEmpty).reverse ++ parts) }
    | .text chars => { u with path := .text (withoutSlashes chars ++ tail) }

def withPairs (u : Url) (pairs : List (String × String)) : Url :=
  if pairs.isEmpty then u
  else
    let more := Form.encode pairs
    match u.query with
    | none | some [] => { u with query := some more }
    | some q => { u with query := some (q ++ '&' :: more) }

theorem scheme_extended (u : Url) (parts : List (List Char)) :
    (u.extended parts).scheme = u.scheme := by
  unfold extended
  dsimp only
  split
  · rfl
  · rfl
  · split <;> rfl

theorem scheme_withPairs (u : Url) (pairs : List (String × String)) :
    (u.withPairs pairs).scheme = u.scheme := by
  unfold withPairs
  split
  · rfl
  · dsimp only
    split <;> rfl

/-- A character that stands for itself in the query of every address. -/
def isPlain (c : Char) : Bool :=
  32 < c.toNat && c.toNat < 127 && !(Char.ofNat 39 :: inQuery).contains c

private theorem all_ne {mark : Char} {s : List Char} (absent : mark ∉ s) :
    ∀ c ∈ s, decide (c ≠ mark) = true :=
  fun _ member => decide_eq_true fun same => absent (same ▸ member)

private theorem cut_mark {mark : Char} {s : List Char} (absent : mark ∉ s) (after : List Char) :
    cut mark (s ++ mark :: after) = (s, some after) := by
  have others := all_ne absent
  rw [cut, List.dropWhile_append_of_pos others, List.takeWhile_append_of_pos others]
  simp

private theorem cut_absent {mark : Char} {s : List Char} (absent : mark ∉ s) :
    cut mark s = (s, none) := by
  have ended : (s ++ []).dropWhile (· ≠ mark) = [] := List.dropWhile_append_of_pos (all_ne absent)
  rw [List.append_nil] at ended
  rw [cut, ended]

private theorem trimSpace_visible {s : List Char} (visible : ∀ c ∈ s, 32 < c.toNat) :
    (trimSpace s).filter (fun c => !isIgnored c) = s := by
  have kept (t : List Char) (inside : ∀ c ∈ t, 32 < c.toNat) :
      t.dropWhile (fun c => c.toNat ≤ 32) = t := by
    cases t with
    | nil => rfl
    | cons c t =>
      have large : ¬ c.toNat ≤ 32 := Nat.not_le.mpr (inside c List.mem_cons_self)
      simp [large]
  have whole : trimSpace s = s := by
    rw [trimSpace, kept s visible, kept s.reverse (fun c member => visible c (List.mem_reverse.mp member)),
      List.reverse_reverse]
  rw [whole, List.filter_eq_self]
  intro c member
  have large := visible c member
  simp only [isIgnored, Bool.not_eq_true', Bool.or_eq_false_iff, beq_eq_false_iff_ne]
  refine ⟨⟨?_, ?_⟩, ?_⟩ <;> rintro rfl <;> exact absurd large (by decide)

private theorem scheme?_suffix {s scheme rest : List Char} (found : scheme? s = some (scheme, rest)) :
    rest <:+ s := by
  unfold scheme? at found
  split at found
  next => cases found
  split at found
  next behind ended =>
    have inside := ended ▸ List.dropWhile_suffix (l := _ :: _) isSchemeChar
    split at found
    · cases found
      exact (List.suffix_cons ':' rest).trans inside
    · cases found
  next => cases found

/-- What follows the scheme of a text may go on. -/
private theorem scheme?_append {s scheme rest : List Char} (found : scheme? s = some (scheme, rest))
    (more : List Char) : scheme? (s ++ more) = some (scheme, rest ++ more) := by
  cases s with
  | nil => cases found
  | cons c s =>
    dsimp only [scheme?, List.cons_append] at found ⊢
    split at found
    next behind ended =>
      have dropped : (c :: (s ++ more)).dropWhile isSchemeChar = ':' :: (behind ++ more) := by
        rw [← List.cons_append, List.dropWhile_append, ended]
        rfl
      have taken : (c :: (s ++ more)).takeWhile isSchemeChar = (c :: s).takeWhile isSchemeChar := by
        have parts := List.takeWhile_append_dropWhile (p := isSchemeChar) (l := c :: s)
        have short : ((c :: s).takeWhile isSchemeChar).length ≠ (c :: s).length := by
          intro same
          have lengths := congrArg List.length parts
          rw [ended, List.length_append, List.length_cons, same] at lengths
          omega
        rw [← List.cons_append, List.takeWhile_append, if_neg short]
      rw [dropped, taken]
      split at found
      next alpha =>
        cases found
        exact if_pos alpha
      next => cases found
    next => cases found

theorem isPlain_visible {c : Char} (plain : isPlain c = true) : 32 < c.toNat ∧ c.toNat < 127 := by
  simp only [isPlain, Bool.and_eq_true, decide_eq_true_eq] at plain
  exact plain.1

private theorem isPlain_kept {c : Char} (plain : isPlain c = true) :
    c ∉ Char.ofNat 39 :: inQuery := by
  simp only [isPlain, Bool.and_eq_true, Bool.not_eq_true'] at plain
  exact fun member => Bool.false_ne_true (plain.2.symm.trans (List.contains_iff_mem.mpr member))

private theorem escaped_plainQuery {also query : List Char} (fewer : also ⊆ Char.ofNat 39 :: inQuery)
    (plain : ∀ c ∈ query, isPlain c = true) : escaped also query = query := by
  induction query with
  | nil => rfl
  | cons c query ih =>
    obtain ⟨first, others⟩ := List.forall_mem_cons.mp plain
    have range := isPlain_visible first
    have kept : also.contains c = false := by
      apply Bool.eq_false_iff.mpr
      exact fun member => isPlain_kept first (fewer (List.contains_iff_mem.mp member))
    have same : (decide (c.toNat < 32) || decide (126 < c.toNat) || also.contains c) = false := by
      simp only [kept, Bool.or_false, Bool.or_eq_false_iff, decide_eq_false_iff_not]
      omega
    have rest := ih others
    rw [escaped] at rest ⊢
    rw [List.flatMap_cons, same, rest]
    rfl

/-- An address with a plain query behind it is read as the same address with that query. -/
theorem read_query {place query : List Char} {u : Url} (found : read place = .ok u)
    (visible : ∀ c ∈ place, 32 < c.toNat) (uncut : '?' ∉ place ∧ '#' ∉ place)
    (plain : ∀ c ∈ query, isPlain c = true) :
    read (place ++ '?' :: query) = .ok { u with query := some query } := by
  have within : ∀ c ∈ place ++ '?' :: query, 32 < c.toNat := by
    refine List.forall_mem_append.mpr ⟨visible, List.forall_mem_cons.mpr ⟨by decide, ?_⟩⟩
    exact fun c member => (isPlain_visible (plain c member)).1
  unfold read at found ⊢
  rw [trimSpace_visible visible] at found
  rw [trimSpace_visible within]
  dsimp only at found ⊢
  cases schemed : scheme? place with
  | none =>
    rw [schemed] at found
    cases found
  | some cutOff =>
    obtain ⟨scheme, rest⟩ := cutOff
    have inside := scheme?_suffix schemed
    have unasked : '?' ∉ rest := fun member => uncut.1 (inside.subset member)
    have unmarked : '#' ∉ rest := fun member => uncut.2 (inside.subset member)
    have behind : '#' ∉ rest ++ '?' :: query := by
      rw [List.mem_append, List.mem_cons]
      rintro (member | sign | member)
      · exact unmarked member
      · exact absurd sign (by decide)
      · exact absurd (plain '#' member) (by decide)
    rw [schemed] at found
    rw [scheme?_append schemed]
    simp only [cut_absent unmarked, cut_absent unasked, cut_absent behind, cut_mark unasked, bind,
      Except.bind] at found ⊢
    cases placed : placeOf scheme rest with
    | error fault =>
      rw [placed] at found
      cases found
    | ok parts =>
      rw [placed] at found
      cases found
      have kept : escaped (if isSpecial scheme then Char.ofNat 39 :: inQuery else inQuery) query = query := by
        split
        · exact escaped_plainQuery (List.Subset.refl _) plain
        · exact escaped_plainQuery (List.subset_cons_self _ _) plain
      simp only [Option.map_some, kept]

end Url
end ParishSite.Web
