import ComponentForm.Url.Host

/-! URLs in their parts. A path is a list of segments, or a text that cannot be taken apart. -/
namespace ComponentForm

namespace Url

inductive Path
  | segments (segments : List String)
  | whole (text : String)
deriving DecidableEq, Repr

end Url

structure Url where
  scheme : String
  username : String
  password : Option String
  /-- Absent where no slashes announce a host. -/
  host : Option Url.Host
  port : Option Nat
  path : Url.Path
  query : Option String
  fragment : Option String
deriving DecidableEq, Repr

namespace Url

def isSpecial (scheme : String) : Bool :=
  scheme ∈ ["http", "https", "ws", "wss", "ftp", "file"]

def defaultPort? (scheme : String) : Option Nat :=
  if scheme = "http" ∨ scheme = "ws" then some 80
  else if scheme = "https" ∨ scheme = "wss" then some 443
  else if scheme = "ftp" then some 21
  else none

def isOpaque (u : Url) : Bool :=
  match u.path with
  | .whole _ => true
  | .segments _ => false

def pathSegments (u : Url) : List String :=
  match u.path with
  | .segments ss => ss
  | .whole _ => []

def segmentsText (ss : List String) : String :=
  String.join (ss.map fun s => "/" ++ s)

def credentialsText (u : Url) : String :=
  let password := match u.password with
    | some p => ":" ++ p
    | none => ""
  if u.username = "" ∧ u.password = none then "" else u.username ++ password ++ "@"

def authorityText (u : Url) : String :=
  match u.host with
  | none => ""
  | some host =>
    let port := match u.port with
      | some p => ":" ++ toString p
      | none => ""
    "//" ++ u.credentialsText ++ host.text ++ port

/-- The path; without a host two slashes at its start would be taken for one. -/
def pathText (u : Url) : String :=
  match u.path with
  | .whole text => text
  | .segments ss =>
    if u.host.isNone ∧ 1 < ss.length ∧ ss.head? = some "" then "/." ++ segmentsText ss
    else segmentsText ss

def queryText (u : Url) : String :=
  match u.query with
  | some q => "?" ++ q
  | none => ""

def fragmentText (u : Url) : String :=
  match u.fragment with
  | some f => "#" ++ f
  | none => ""

def text (u : Url) : String :=
  u.scheme ++ ":" ++ u.authorityText ++ u.pathText ++ u.queryText ++ u.fragmentText

def addQuery (u : Url) (name value : String) : Url :=
  let pair := String.ofList (formText name ++ '=' :: formText value)
  { u with query := some (match u.query with
      | some q => if q = "" then pair else q ++ "&" ++ pair
      | none => pair) }

def isSkipped (c : Char) : Bool := c = '\t' ∨ c = '\n' ∨ c = '\r'

def isDrive (cs : List Char) : Bool :=
  match cs with
  | [l, c] => l.isAlpha && (c = ':' || c = '|')
  | _ => false

def isPlainDrive (cs : List Char) : Bool :=
  isDrive cs && cs.getLast? = some ':'

def isSingleDot (cs : List Char) : Bool :=
  String.ofList cs ∈ [".", "%2e", "%2E"]

def isDoubleDot (cs : List Char) : Bool :=
  String.ofList cs ∈ ["..", "%2e%2e", "%2e%2E", "%2E%2e", "%2E%2E", "%2e.", "%2E.", ".%2e", ".%2E"]

def endsInDrive (ss : List String) : Bool :=
  ss.getLast?.any fun s => isDrive s.toList

/-- The path that two dots lead back to. A drive at its end stays, whatever the scheme. -/
def shorten (ss : List String) : List String :=
  if endsInDrive ss then ss else ss.dropLast

/-- Takes one segment, already escaped, to the end of a path; `last` says that no slash follows. -/
def pushSegment (isFile last : Bool) (ss : List String) (cs : List Char) : List String :=
  if isDoubleDot cs then shorten ss ++ (if last then [""] else [])
  else if isSingleDot cs then ss ++ (if last then [""] else [])
  else if isFile && isDrive cs then ss ++ [String.ofList (cs.take 1 ++ [':'])]
  else ss ++ [String.ofList cs]

def pushSegments (isFile : Bool) : List String → List (List Char) → List String
  | ss, [] => ss
  | ss, [cs] => pushSegment isFile true ss cs
  | ss, cs :: rest => pushSegments isFile (pushSegment isFile false ss cs) rest

/-- The path without one empty segment at its end, which the last slash leaves. -/
def popEmpty (ss : List String) : List String :=
  if 1 < ss.length ∧ ss.getLast? = some "" then ss.dropLast else ss

/-- Appends a text as one segment, in the place of an empty last one. One dot or two add
nothing. -/
def pushId (u : Url) (id : String) : Url :=
  match u.path with
  | .whole _ => u
  | .segments ss =>
    let ss := popEmpty ss
    if id = "." ∨ id = ".." then { u with path := .segments ss }
    else
      let set := if isSpecial u.scheme then specialSegmentSet else segmentSet
      let cs := escape set (id.toList.filter fun c => !isSkipped c)
      let front := if ss = [""] then [] else ss
      { u with path := .segments (pushSegment (u.scheme = "file") true front cs) }

end Url
end ComponentForm
