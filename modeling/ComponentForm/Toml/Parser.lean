import ComponentForm.Toml.Scalar

/-! Reading TOML documents. Any fault makes the whole text unreadable. -/
namespace ComponentForm.Toml

def skipComment (cs : Chars) : Chars :=
  match cs with
  | '#' :: rest => rest.dropWhile isShown
  | cs => cs

def skipLines : (fuel : Nat) → Chars → Chars
  | 0, cs => cs
  | fuel + 1, cs =>
    let after := skipComment (skipGap cs)
    match lineEnd? after with
    | some rest => skipLines fuel rest
    | none => if (skipGap cs).head? = some '#' then after else skipGap cs

mutual
def readValue : (fuel depth : Nat) → Reader Value
  | 0, _, _ => none
  | fuel + 1, depth, cs =>
    match cs with
    | '"' :: _ | '\'' :: _ => (readString cs).map fun (s, rest) => (.string s, rest)
    | '[' :: rest =>
      if depthLimit ≤ depth + 1 then none
      else (readItems fuel (depth + 1) rest).map fun (items, rest) => (.array items, rest)
    | '\x7b' :: rest =>
      if depthLimit ≤ depth + 1 then none
      else match skipGap rest with
        | '\x7d' :: rest => some (.inline .opened [], rest)
        | rest => do
          let (lines, rest) ← readPairs fuel (depth + 1) rest
          let t ← putLines true [] lines
          return (.inline .opened t, rest)
    | 't' :: 'r' :: 'u' :: 'e' :: rest => some (.boolean true, rest)
    | 'f' :: 'a' :: 'l' :: 's' :: 'e' :: rest => some (.boolean false, rest)
    | 'i' :: _ | 'n' :: _ => readFloat cs
    | _ => readNumber cs

/-- The items of an array up to its bracket; a comma may follow the last. -/
def readItems : (fuel depth : Nat) → Reader (List Value)
  | 0, _, _ => none
  | fuel + 1, depth, cs =>
    match skipLines (cs.length + 1) cs with
    | ']' :: rest => some ([], rest)
    | cs => do
      let (v, rest) ← readValue fuel depth cs
      match skipLines (rest.length + 1) rest with
      | ']' :: rest => return ([v], rest)
      | ',' :: rest =>
        let (vs, rest) ← readItems fuel depth rest
        return (v :: vs, rest)
      | _ => none

/-- The pairs of an inline table up to its brace, all in one line. -/
def readPairs : (fuel depth : Nat) → Reader (List Line)
  | 0, _, _ => none
  | fuel + 1, depth, cs => do
    let (keys, rest) ← readKey cs
    match rest with
    | '=' :: rest =>
      let (v, rest) ← readValue fuel depth (skipGap rest)
      match skipGap rest with
      | '\x7d' :: rest => return ([(keys, v)], rest)
      | ',' :: rest =>
        let (lines, rest) ← readPairs fuel depth rest
        return ((keys, v) :: lines, rest)
      | _ => none
    | _ => none
end

def endLine (cs : Chars) : Option Chars :=
  match skipComment (skipGap cs) with
  | [] => some []
  | cs => lineEnd? cs

def readPairLine (cs : Chars) : Option (Line × Chars) := do
  let (keys, rest) ← readKey cs
  let ((), rest) ← readChar '=' rest
  let (v, rest) ← readValue (2 * rest.length + 2) 0 (skipGap rest)
  return ((keys, v), ← endLine rest)

def readHeader (cs : Chars) : Option (Header × Chars) :=
  match cs with
  | '[' :: '[' :: rest => do
    let (path, rest) ← readKey rest
    let ((), rest) ← readChar ']' rest
    let ((), rest) ← readChar ']' rest
    return (.element path, ← endLine rest)
  | '[' :: rest => do
    let (path, rest) ← readKey rest
    let ((), rest) ← readChar ']' rest
    return (.table path, ← endLine rest)
  | _ => none

/-- Puts a section into the document; the first one has no header. -/
def close (root : Table) (header : Option Header) (lines : List Line) : Option Table :=
  match header with
  | none => putLines false root lines
  | some header => putSection root header lines

/-- Reads line by line. The lines of the section that stands open are kept in reverse. -/
def readLines : (fuel : Nat) → Table → Option Header → List Line → Chars → Option Table
  | 0, _, _, _, _ => none
  | fuel + 1, root, header, lines, cs =>
    match skipGap cs with
    | [] => close root header lines.reverse
    | '[' :: rest => do
      let root ← close root header lines.reverse
      let (next, rest) ← readHeader ('[' :: rest)
      readLines fuel root (some next) [] rest
    | c :: rest =>
      if c = '#' ∨ c = '\n' ∨ c = '\r' then
        (endLine (c :: rest)).bind fun rest => readLines fuel root header lines rest
      else do
        let (line, rest) ← readPairLine (c :: rest)
        readLines fuel root header (line :: lines) rest

/-- The root table of a document. A mark of the byte order at the start does not count. -/
def parse (s : String) : Option Table :=
  let cs := match s.toList with
    | '\ufeff' :: rest => rest
    | cs => cs
  readLines (cs.length + 2) [] none [] cs

end ComponentForm.Toml
