/-! JSON values.
Integers and doubles are told apart, integers have any size, and the members of an object keep
the order in which their names first appeared.
-/

namespace GridTable

inductive Json where
  | null
  | bool (value : Bool)
  | int (value : Int)
  | float (value : Float)
  | str (text : String)
  | arr (items : List Json)
  | obj (members : List (String × Json))
  deriving Inhabited

namespace Json

/-- The word by which messages call the kind of a value. -/
def kindName : Json → String
  | null => "NoneType"
  | bool _ => "bool"
  | int _ => "int"
  | float _ => "float"
  | str _ => "str"
  | arr _ => "list"
  | obj _ => "dict"

def isText : Json → Bool
  | str _ => true
  | _ => false

/-- Values that stand for "nothing given" where a list is optional: null, false, zeros and
whatever is empty.
-/
def isVoid : Json → Bool
  | null => true
  | bool value => !value
  | int value => value == 0
  | float value => value == 0.0
  | str text => text.isEmpty
  | arr items => items.isEmpty
  | obj members => members.isEmpty

end Json

end GridTable
