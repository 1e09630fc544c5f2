import ComponentForm.Text.Pieces
import ComponentForm.Url.Domain.Basic

/-! Hosts of URLs: names, addresses of four bytes in the many ways they can be written, and addresses
of eight pieces. -/
namespace ComponentForm.Url

inductive UrlError
  | emptyHost
  | badDomain
  | badPort
  | badIpv4
  | badIpv6
  | badDomainCharacter
  | relativeWithoutBase
  | relativeToOpaque
  | hostOnOpaque
deriving DecidableEq, Repr

def UrlError.message : UrlError → String
  | .emptyHost => "empty host"
  | .badDomain => "invalid international domain name"
  | .badPort => "invalid port number"
  | .badIpv4 => "invalid IPv4 address"
  | .badIpv6 => "invalid IPv6 address"
  | .badDomainCharacter => "invalid domain character"
  | .relativeWithoutBase => "relative URL without a base"
  | .relativeToOpaque => "relative URL with a cannot-be-a-base base"
  | .hostOnOpaque => "a cannot-be-a-base URL doesn’t have a host to set"

inductive Host
  /-- A name; the empty one stands for a host that is left out after the slashes. -/
  | name (text : String)
  | ipv4 (address : Nat)
  | ipv6 (pieces : List Nat)
deriving DecidableEq, Repr

namespace Host

/-- A number of an address, and none beyond the digits of its base: hexadecimal after 0x, octal
after another zero. -/
def number? (cs : List Char) : Option Nat :=
  match cs with
  | [] => none
  | '0' :: 'x' :: rest | '0' :: 'X' :: rest => Text.readDigits? 16 rest
  | '0' :: c :: rest => Text.readDigits? 8 (c :: rest)
  | cs => Text.readDigits? 10 cs

def dotted (cs : List Char) : List (List Char) :=
  let parts := Text.pieces '.' cs
  if parts.getLast? = some [] then parts.dropLast else parts

/-- Whether a name is to be taken for an address of four bytes. -/
def endsInNumber (cs : List Char) : Bool :=
  match (dotted cs).getLast? with
  | none => false
  | some last => (!last.isEmpty && last.all Text.isDigit) || (number? last).isSome

/-- The address that one to four numbers stand for: the last one fills the bytes that are left. -/
def ipv4? (cs : List Char) : Option Nat := do
  let numbers ← (dotted cs).mapM number?
  let last ← numbers.getLast?
  let front := numbers.dropLast
  if 4 < numbers.length then none
  else if Nat.pow 256 (4 - front.length) ≤ last then none
  else if front.any (255 < ·) then none
  else some (front.zipIdx.foldl (fun total (n, i) => total + n * Nat.pow 256 (3 - i)) last)

def ipv4Text (address : Nat) : String :=
  Text.join "." ([3, 2, 1, 0].map fun i => toString (address / Nat.pow 256 i % 256))

/-- Four decimal numbers below 256 at the end of an address of eight pieces, as two pieces. -/
def embedded? (cs : List Char) : Option (List Nat) := do
  let numbers ← (Text.pieces '.' cs).mapM fun part =>
    if part.isEmpty || !part.all Text.isDigit || (part.length != 1 && part.head? == some '0') then none
    else (Text.readDigits? 10 part).bind fun n => if n < 256 then some n else none
  match numbers with
  | [a, b, c, d] => some [a * 256 + b, c * 256 + d]
  | _ => none

def piece? (cs : List Char) : Option Nat :=
  if cs.isEmpty || 4 < cs.length then none else Text.readDigits? 16 cs

def side? (allowEmbedded : Bool) : List (List Char) → Option (List Nat)
  | [] => some []
  | [part] => if allowEmbedded && part.contains '.' then embedded? part else (piece? part).map ([·])
  | part :: rest => do
    let n ← piece? part
    let ns ← side? allowEmbedded rest
    return n :: ns

def splitDouble : List Char → List Char × Option (List Char)
  | [] => ([], none)
  | ':' :: ':' :: rest => ([], some rest)
  | c :: rest =>
    let (before, after) := splitDouble rest
    (c :: before, after)

def parts (cs : List Char) : List (List Char) :=
  if cs.isEmpty then [] else Text.pieces ':' cs

/-- The eight pieces of an address; a double colon stands for the zeros that are missing. -/
def ipv6? (cs : List Char) : Option (List Nat) :=
  match splitDouble cs with
  | (whole, none) => (side? true (parts whole)).bind fun ns => if ns.length = 8 then some ns else none
  | (before, some after) => do
    let front ← side? false (parts before)
    let back ← side? true (parts after)
    let n := front.length + back.length
    if 7 < n then none
    else some (front ++ List.replicate (8 - n) 0 ++ back)

def longestZeros (ns : List Nat) : Nat × Nat :=
  let runs := (List.range ns.length).map fun i => (i, ((ns.drop i).takeWhile (· = 0)).length)
  runs.foldl (fun best run => if best.2 < run.2 then run else best) (0, 0)

def ipv6Text (ns : List Nat) : String :=
  let hex (ns : List Nat) := Text.join ":" (ns.map fun n => String.ofList (Text.lowerHex n))
  let (start, length) := longestZeros ns
  if length < 2 then hex ns
  else hex (ns.take start) ++ "::" ++ hex (ns.drop (start + length))

def text : Host → String
  | .name s => s
  | .ipv4 a => ipv4Text a
  | .ipv6 ns => "[" ++ ipv6Text ns ++ "]"

def bracketed (cs : List Char) : Except UrlError Host :=
  match cs.getLast? with
  | some ']' =>
    match ipv6? (cs.drop 1).dropLast with
    | some ns => .ok (.ipv6 ns)
    | none => .error .badIpv6
  | _ => .error .badIpv6

def ofDomain (cs : List Char) : Except UrlError Host :=
  if cs.head? = some '[' then bracketed cs
  else match Domain.toAscii? (unescape cs) with
    | none => .error .badDomain
    | some ascii =>
      if ascii.isEmpty then .error .emptyHost
      else if endsInNumber ascii then
        match ipv4? ascii with
        | some a => .ok (.ipv4 a)
        | none => .error .badIpv4
      else .ok (.name (String.ofList ascii))

def isForbidden (c : Char) : Bool :=
  c ∈ ['\x00', '\t', '\n', '\r', ' ', '#', '/', ':', '<', '>', '?', '@', '[', '\\', ']', '^', '|']

def ofOpaque (cs : List Char) : Except UrlError Host :=
  if cs.head? = some '[' then bracketed cs
  else if cs.any isForbidden then .error .badDomainCharacter
  else .ok (.name (String.ofList (escape controls cs)))

end Host
end ComponentForm.Url
