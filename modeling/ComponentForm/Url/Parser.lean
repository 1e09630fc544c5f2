import ComponentForm.Url.Basic

/-! Reading URLs, alone or relative to another. Spaces and controls at the ends and line ends and tabs
anywhere do not count. -/
namespace ComponentForm.Url

abbrev Chars := List Char

def clean (s : String) : Chars :=
  (Text.trimBy (fun c => c ≤ ' ') s.toList).filter fun c => !isSkipped c

def isLetter (c : Char) : Bool := ('a' ≤ c ∧ c ≤ 'z') ∨ ('A' ≤ c ∧ c ≤ 'Z')

def isSchemeChar (c : Char) : Bool := isLetter c ∨ Text.isDigit c ∨ c ∈ ['+', '-', '.']

def splitScheme? (cs : Chars) : Option (String × Chars) :=
  match cs.head?, cs.dropWhile isSchemeChar with
  | some c, ':' :: rest =>
    if isLetter c then some (String.ofList ((cs.takeWhile isSchemeChar).map Text.lowerAscii), rest)
    else none
  | _, _ => none

def isSlash (c : Char) : Bool := c = '/' ∨ c = '\\'

def endsPath (c : Char) : Bool := c = '?' ∨ c = '#'

def withRest (u : Url) (rest : Chars) : Url :=
  let set := if isSpecial u.scheme then specialQuerySet else querySet
  let (query, rest) : Option String × Chars := match rest with
    | '?' :: rest =>
      (some (String.ofList (escape set (rest.takeWhile (· ≠ '#')))), rest.dropWhile (· ≠ '#'))
    | rest => (none, rest)
  let fragment := match rest with
    | '#' :: rest => some (String.ofList (escape fragmentSet rest))
    | _ => none
  { u with query, fragment }

/-- The pieces of a path between its slashes; a backslash is one too where the scheme is special. -/
def splitPath (special : Bool) : Chars → List Chars
  | [] => [[]]
  | c :: cs =>
    if c = '/' ∨ (special ∧ c = '\\') then [] :: splitPath special cs
    else match splitPath special cs with
      | [] => [[c]]
      | p :: ps => (c :: p) :: ps

/-- A file path begins with one slash only. -/
def oneSlash (isFile : Bool) (ss : List String) : List String :=
  if isFile then
    let ss := ss.dropWhile (· = "")
    if ss.isEmpty then [""] else ss
  else ss

def extendPath (scheme : String) (ss : List String) (cs : Chars) : List String :=
  let isFile := scheme = "file"
  oneSlash isFile
    (pushSegments isFile ss ((splitPath (isSpecial scheme) cs).map (escape pathSet)))

def withPath (u : Url) (ss : List String) (cs : Chars) : Url :=
  withRest { u with path := .segments (extendPath u.scheme ss (cs.takeWhile fun c => !endsPath c)) }
    (cs.dropWhile fun c => !endsPath c)

def withPathStart (u : Url) (cs : Chars) : Url :=
  if isSpecial u.scheme then
    match cs with
    | c :: rest => if isSlash c then withPath u [] rest else withPath u [] cs
    | [] => withPath u [] []
  else
    match cs with
    | [] => { u with path := .segments [] }
    | '/' :: rest => withPath u [] rest
    | c :: _ => if endsPath c then withRest { u with path := .segments [] } cs else withPath u [] cs

def blank (scheme : String) : Url :=
  ⟨scheme, "", none, none, none, .segments [], none, none⟩

def endsAuthority (special : Bool) (c : Char) : Bool :=
  c = '/' ∨ endsPath c ∨ (special ∧ c = '\\')

def splitUser (special : Bool) (cs : Chars) : Option Chars × Chars :=
  let authority := cs.takeWhile fun c => !endsAuthority special c
  if authority.contains '@' then
    let host := (authority.reverse.takeWhile (· ≠ '@')).reverse
    (some (authority.take (authority.length - host.length - 1)), cs.drop (authority.length - host.length))
  else (none, cs)

/-- User name and password; an empty password is none. -/
def withUser (u : Url) (user : Chars) : Url :=
  let name := user.takeWhile (· ≠ ':')
  let password := (user.dropWhile (· ≠ ':')).drop 1
  { u with
    username := String.ofList (escape userSet name)
    password := if password.isEmpty then none else some (String.ofList (escape userSet password)) }

def splitHost (special : Bool) : (inBrackets : Bool) → Chars → Chars × Chars
  | _, [] => ([], [])
  | inBrackets, c :: cs =>
    if (c = ':' ∧ !inBrackets) ∨ endsAuthority special c then ([], c :: cs)
    else
      let inBrackets := if c = '[' then true else if c = ']' then false else inBrackets
      let (host, rest) := splitHost special inBrackets cs
      (c :: host, rest)

/-- The port after a colon; none where it is left out or the usual one of the scheme. -/
def readPort (scheme : String) (cs : Chars) : Except UrlError (Option Nat × Chars) :=
  let digits := cs.takeWhile Text.isDigit
  let rest := cs.dropWhile Text.isDigit
  let port := (Text.readDigits? 10 digits).getD 0
  if 65535 < port then .error .badPort
  else match rest with
    | c :: _ =>
      if endsPath c ∨ isSlash c then .ok (chosen digits port, rest) else .error .badPort
    | [] => .ok (chosen digits port, [])
where
  chosen (digits : Chars) (port : Nat) : Option Nat :=
    if digits.isEmpty ∨ some port = defaultPort? scheme then none else some port

def afterSlashes (scheme : String) (cs : Chars) : Except UrlError Url := do
  let special := isSpecial scheme
  let (user, cs) := splitUser special cs
  let u := match user with
    | some user => withUser (blank scheme) user
    | none => blank scheme
  match user, cs with
  | some [], c :: _ => if endsAuthority special c then throw .emptyHost
  | _, _ => pure ()
  let (hostText, rest) := splitHost special false cs
  if special ∧ hostText.isEmpty then throw .emptyHost
  let host ← if special then Host.ofDomain hostText else Host.ofOpaque hostText
  let nameless := host = .name ""
  match rest with
  | ':' :: rest =>
    if nameless then throw .emptyHost
    let (port, rest) ← readPort scheme rest
    return withPathStart { u with host := some host, port } rest
  | rest =>
    if nameless ∧ u.credentialsText ≠ "" then throw .emptyHost
    return withPathStart { u with host := some host } rest

def startsWithDrive (cs : Chars) : Bool :=
  isDrive (cs.take 2) && (match cs.drop 2 with
    | [] => true
    | c :: _ => isSlash c || endsPath c)

/-- The host of a file; the local one is left out. -/
def fileHost (cs : Chars) : Except UrlError (Option Host × Chars) := do
  let text := cs.takeWhile fun c => !(isSlash c || endsPath c)
  let rest := cs.dropWhile fun c => !(isSlash c || endsPath c)
  if isDrive text then return (none, cs)
  else if text.isEmpty then return (none, rest)
  else
    let host ← Host.ofDomain text
    return (if host = .name "localhost" then none else some host, rest)

def blankFile : Url := { blank "file" with host := some (.name "") }

/-- Whether a path holds a drive, which leaves no room for a host. -/
def holdsDrive (cs : Chars) : Bool :=
  (splitPath true (cs.takeWhile fun c => !endsPath c)).any isDrive

/-- The path of a file that relative paths start from: without its last segment, unless that is a drive
that stands alone. -/
def directory (ss : List String) : List String :=
  match ss with
  | [s] => if isPlainDrive s.toList then [s] else []
  | ss => ss.dropLast

def readFile (base : Option Url) (cs : Chars) : Except UrlError Url :=
  match cs with
  | a :: b :: rest =>
    if isSlash a && isSlash b then do
      let (host, rest) ← fileHost rest
      let host := if holdsDrive rest then none else host
      let u := { blankFile with host := some (host.getD (.name "")) }
      match host with
      | some _ => return withPathStart u rest
      | none => return withPath u [] rest
    else other a (b :: rest)
  | [a] => other a []
  | [] =>
    match base with
    | some b => .ok { b with fragment := none }
    | none => .ok (withPath blankFile [] [])
where
  other (a : Char) (rest : Chars) : Except UrlError Url :=
    if isSlash a then
      let (host, front) : Option Host × List String :=
        match base with
        | some b =>
          if startsWithDrive rest then (none, [])
          else match b.pathSegments with
            | s :: _ => if isPlainDrive s.toList then (none, [s]) else (b.host, [])
            | [] => (b.host, [])
        | none => (none, [])
      .ok (withPath { blankFile with host := some (host.getD (.name "")) } front rest)
    else match base with
      | none => .ok (withPath blankFile [] (a :: rest))
      | some b =>
        if a = '?' then .ok (withRest { b with fragment := none } (a :: rest))
        else if a = '#' then
          .ok { b with fragment := some (String.ofList (escape fragmentSet rest)) }
        else if startsWithDrive (a :: rest) then .ok (withPath blankFile [] (a :: rest))
        else .ok (withPath { b with query := none, fragment := none }
          (directory b.pathSegments) (a :: rest))

def readRelative (base : Url) (cs : Chars) : Except UrlError Url :=
  match cs with
  | [] => .ok { base with fragment := none }
  | '?' :: _ => .ok (withRest base cs)
  | '#' :: rest => .ok { base with fragment := some (String.ofList (escape fragmentSet rest)) }
  | c :: rest =>
    if isSlash c then
      match rest with
      | d :: _ =>
        if isSlash d then
          match cs with
          | '/' :: '/' :: rest => afterSlashes base.scheme rest
          | _ => afterSlashes base.scheme (cs.dropWhile isSlash)
        else .ok (withPath base [] rest)
      | [] => .ok (withPath base [] rest)
    else .ok (withPath base base.pathSegments.dropLast cs)

def afterScheme (base : Option Url) (scheme : String) (cs : Chars) : Except UrlError Url :=
  if scheme = "file" then
    readFile (base.filter fun b => b.scheme = "file") cs
  else if isSpecial scheme then
    let slashes := cs.takeWhile isSlash
    match base with
    | some b =>
      if slashes.length < 2 ∧ b.scheme = scheme then readRelative b cs
      else afterSlashes scheme (cs.drop slashes.length)
    | none => afterSlashes scheme (cs.drop slashes.length)
  else match cs with
    | '/' :: '/' :: rest => afterSlashes scheme rest
    | '/' :: rest => .ok (withPath (blank scheme) [] rest)
    | cs =>
      let whole := String.ofList (escape controls (cs.takeWhile fun c => !endsPath c))
      .ok (withRest { blank scheme with path := .whole whole } (cs.dropWhile fun c => !endsPath c))

def parseWith (base : Option Url) (s : String) : Except UrlError Url :=
  let cs := clean s
  match splitScheme? cs with
  | some (scheme, rest) => afterScheme base scheme rest
  | none =>
    match base with
    | none => .error .relativeWithoutBase
    | some b =>
      if cs.head? = some '#' then
        .ok { b with fragment := some (String.ofList (escape fragmentSet (cs.drop 1))) }
      else if b.isOpaque then .error .relativeToOpaque
      else if b.scheme = "file" then readFile (some b) cs
      else readRelative b cs

def parse (s : String) : Except UrlError Url :=
  parseWith none s

def join (base : Url) (s : String) : Except UrlError Url :=
  parseWith (some base) s

end ComponentForm.Url
