import PulpGame.Lua.Syntax
/-!
How generated code refers to the runtime and to variables.

A variable that can be written as a bare name is one, unless the program around it needs that name
for itself. All others are fields of `_G`, under a key that keeps them out of the way of what the
program and the runtime call their own.
-/
namespace PulpGame.Program

def runtime : Lua.Expr := .name "__pulp"

def runtimeField (name : String) : Lua.Expr := .field runtime name

def runtimeCall (method : String) (arguments : List Lua.Expr) : Lua.Stat :=
  .action (.call (.invoke runtime method arguments))

def script (name : String) : Lua.Expr := .invoke runtime "getScript" [.string name]

end PulpGame.Program

namespace PulpGame.Variable

def reserved : String := "__"

/-- Names that the generated program reads as its own: globals, and parameters of handlers and of
accessors. -/
def shadowed : List String :=
  ["_ENV", "_G", "event", "import", "math", "pairs", "playdate", "print", "tostring", "type",
    "value", "varname"]

def hasReserved : List Char → Bool
  | '_' :: '_' :: _ => true
  | _ :: cs => hasReserved cs
  | [] => false

def startsReserved : List Char → Bool
  | '_' :: '_' :: _ => true
  | _ => false

def isReserved (name : String) : Bool := startsReserved name.toList

def needsNamespace (name : String) : Bool :=
  hasReserved name.toList || shadowed.contains name

def isBare (name : String) : Bool := Lua.isName name && !needsNamespace name

def namespaced (name : String) : String := if needsNamespace name then reserved ++ name else name

def place (name : String) : Lua.Expr :=
  if isBare name then .name name else .index (.name "_G") (.string (namespaced name))

end PulpGame.Variable
