import HexGesture.Text.Quoted

/-! Operator ids, written `scope:path`. Both halves are non-empty words over small letters,
digits and a few marks; only the path may hold a slash. A text without a colon is a path in the
default scope. -/
namespace HexGesture

inductive IdFault
  | empty | illegalCharacter
  deriving DecidableEq

def IdFault.message : IdFault → String
  | empty => "empty namespace or path"
  | illegalCharacter => "illegal character"

structure IdError where
  scope : String
  path : String
  fault : IdFault
  deriving DecidableEq

def IdError.message (e : IdError) : String :=
  s!"invalid operator id '{e.scope}:{e.path}': {e.fault.message}"

namespace OperatorId

def isScopeChar (c : Char) : Bool :=
  c.isLower || c.isDigit || c = '_' || c = '.' || c = '-'

def isPathChar (c : Char) : Bool := isScopeChar c || c = '/'

def fault? (ok : Char → Bool) (part : String) : Option IdFault :=
  if part.toList = [] then some .empty
  else if part.toList.all ok then none
  else some .illegalCharacter

end OperatorId

structure OperatorId where
  scope : String
  path : String
  scope_ok : OperatorId.fault? OperatorId.isScopeChar scope = none
  path_ok : OperatorId.fault? OperatorId.isPathChar path = none
  deriving DecidableEq

namespace OperatorId

/-- The scope is looked at before the path. -/
def make (scope path : String) : Except IdError OperatorId :=
  match hs : fault? isScopeChar scope with
  | some f => .error ⟨scope, path, f⟩
  | none =>
    match hp : fault? isPathChar path with
    | some f => .error ⟨scope, path, f⟩
    | none => .ok ⟨scope, path, hs, hp⟩

def defaultScope : String := "hexcasting"

def ofString (text : String) : Except IdError OperatorId :=
  match text.toList.span (· ≠ ':') with
  | (_, []) => make defaultScope text
  | (before, _ :: after) => make (String.ofList before) (String.ofList after)

def display (i : OperatorId) : String := s!"{i.scope}:{i.path}"

def describe (i : OperatorId) : String :=
  s!"OperatorId \x7b namespace: {Text.quoteText i.scope}, path: {Text.quoteText i.path} \x7d"

/-- By scope, then by path, in the order of code points. -/
def cmp : OperatorId → OperatorId → Ordering :=
  compareLex (compareOn scope) (compareOn path)

end OperatorId

end HexGesture
