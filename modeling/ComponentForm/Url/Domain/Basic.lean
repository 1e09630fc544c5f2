import ComponentForm.Url.Domain.Direction
import ComponentForm.Url.Domain.Joining
import ComponentForm.Url.Domain.Mapping
import ComponentForm.Url.Domain.Mark
import ComponentForm.Url.Domain.Punycode
import ComponentForm.Url.Percent

/-! Names of the domain system. A name is a list of labels with dots between them. Labels with
characters above ASCII have a form in ASCII, which begins with a mark of its own. -/
namespace ComponentForm.Url.Domain

def isDenied (c : Char) : Bool :=
  c ≤ ' ' ∨ c = '\x7f' ∨ c ∈ ['%', '#', '/', ':', '<', '>', '?', '@', '[', '\\', ']', '^', '|']

def asciiMark : List Char := ['x', 'n', '-', '-']

/-- The most characters that may follow the mark in a label. -/
def codeLimit : Nat := 2000

/-- The most characters of a label that has characters above ASCII. -/
def labelLimit : Nat := 1000

/-- The label that an ASCII form stands for; any other label stands for itself. -/
def reveal? (label : List Char) : Option (List Char) :=
  if asciiMark.isPrefixOf label then
    let code := label.drop asciiMark.length
    if codeLimit < code.length then none
    else (Punycode.decode? code).filter fun label =>
      label.any ('\x80' ≤ ·) && composed label = label
  else some label

def isLabel (label : List Char) : Bool :=
  (label.all (· < '\x80') || label.length ≤ labelLimit) &&
  label.all (fun c => !isDenied c && (c < '\x80' || isSettled c)) &&
    !(label.head?.any fun c => '\x80' ≤ c && marks.has c) && joinersFit [] label

def labelText (label : List Char) : List Char :=
  if label.all (· < '\x80') then label else asciiMark ++ Punycode.encode label

def toAscii? (bytes : List UInt8) : Option (List Char) := do
  let s ← String.fromUTF8? (ByteArray.mk bytes.toArray)
  let folded ← s.toList.mapM fold?
  let labels ← (Text.pieces '.' (composed folded.flatten)).mapM reveal?
  if !labels.all isLabel then none
  else if labels.any turns && !labels.all keepsOrder then none
  else some (Text.joined '.' (labels.map labelText))

end ComponentForm.Url.Domain
