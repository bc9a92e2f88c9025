/-
# JSON values

What a file of token values holds.  Objects keep the order of their members, integers are exact and
all other numbers are floating-point.  `Json.text` is the text that a value puts into a template: a
string stands for itself, everything else is written out with quoted strings inside.
-/
import Stencil.Number.Shortest
import Stencil.Text.Quoted

namespace Stencil

/-- A JSON value. -/
inductive Json where
  | null
  | bool (b : Bool)
  | integer (n : Int)
  | number (x : Binary64)
  | string (s : String)
  | array (items : List Json)
  | object (members : List (String × Json))

namespace Json

mutual

/-- A value written out, with every string in quotes. -/
def written : Json → String
  | null => "None"
  | bool b => if b then "True" else "False"
  | integer n => toString n
  | number x => x.text
  | string s => Text.quote s
  | array items => "[" ++ ", ".intercalate (writtenItems items) ++ "]"
  | object members => "\x7b" ++ ", ".intercalate (writtenMembers members) ++ "\x7d"

/-- The items of an array, each written out. -/
def writtenItems : List Json → List String
  | [] => []
  | v :: vs => written v :: writtenItems vs

/-- The members of an object, each written out after its quoted name. -/
def writtenMembers : List (String × Json) → List String
  | [] => []
  | (k, v) :: ms => (Text.quote k ++ ": " ++ written v) :: writtenMembers ms

end

/-- The text that a value stands for. -/
def text : Json → String
  | string s => s
  | v => written v

/-- The members of an object; `none` for any other value. -/
def members? : Json → Option (List (String × Json))
  | object ms => some ms
  | _ => none

end Json

end Stencil
