import HexGesture.Operator.Basic
import HexGesture.Registry.Sample

/-! Every way in which something that was asked for can fail. -/
namespace HexGesture

inductive Failure
  | id (why : IdError)
  | rejection (why : Rejection)
  | pattern (why : PatternError)
  | save (why : SaveError)
  | register (why : RegisterError)
  | resolve (why : ResolveError)
  | lookup (why : LookupError)
  | bounds (why : BoundsError)
  | exhausted (why : Exhausted)
  | call (why : CallError)
  | sample (why : SampleError)
  /-- A step that needs a draft or a registry came before there was one. -/
  | unready

def Failure.message : Failure → String
  | id why => why.message
  | rejection why => why.message
  | pattern why => why.message
  | save why => why.message
  | register why => why.message
  | resolve why => why.message
  | lookup why => why.message
  | bounds why => why.message
  | exhausted why => why.message
  | call why => why.message
  | sample why => why.message
  | unready => "nothing to ask"

end HexGesture
