/-!
# Types and their names

A message type is one of its own, whatever it is called: its identity tells it from all others. Its
full name, such as `shop::orders::Report<i64>`, is a text to show and to make keys of. People are
shown the short name: the text before the first `<`, and of that the text after the last `::`.
-/

namespace Mediator

structure TypeId where
  number : Nat
deriving DecidableEq, Repr, Inhabited

namespace TypeName

def withoutArguments (cs : List Char) : List Char := cs.takeWhile (· != '<')

def beforeSeparator : List Char → List Char
  | ':' :: ':' :: _ => []
  | c :: rest => c :: beforeSeparator rest
  | [] => []

/-- The text after the last `::`; a separator reads the same from both ends. -/
def lastSegment (cs : List Char) : List Char := (beforeSeparator cs.reverse).reverse

def short (name : String) : String :=
  String.ofList (lastSegment (withoutArguments name.toList))

end TypeName

end Mediator
