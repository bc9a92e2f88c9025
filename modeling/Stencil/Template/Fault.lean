/-
# Why a template is not loaded

The four ways in which loading can fail without anything being wrong with the library's caller.
-/

namespace Stencil

/-- Why a template is not loaded. -/
inductive LoadFault where
  | syntaxError
  | nameLimit
  | unreadable
  | empty
  deriving DecidableEq, Repr

/-- The fault in one word, as messages and reports show it. -/
def LoadFault.word : LoadFault → String
  | .syntaxError => "syntax"
  | .nameLimit => "name_limit"
  | .unreadable => "unreadable"
  | .empty => "empty"

end Stencil
