import ComponentForm.Binary64

/-! The numbers of a document: unsigned words, negative words, and floating-point numbers. The three
kinds never mix, so 1 and 1.0 are different numbers. -/
namespace ComponentForm

inductive Number
  | whole (value : UInt64)
  | negative (value : Int64)
  | float (value : Binary64)
deriving DecidableEq, Repr

namespace Number

def same : Number → Number → Bool
  | .float a, .float b => a.same b
  | a, b => a = b

def text : Number → String
  | .whole n => toString n.toNat
  | .negative i => toString i.toInt
  | .float x => x.text

end Number
end ComponentForm
