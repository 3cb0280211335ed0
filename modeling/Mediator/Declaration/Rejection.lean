import Mediator.Declaration.Token

/-!
# Rejected declarations

Why a declaration is not accepted. Where several things would have been possible, all are named in
the order in which they were tried.
-/

namespace Mediator.Declaration

inductive Expectation where
  | sign (text : String)
  | thing (description : String)
  | group (delimiter : Delimiter)
deriving DecidableEq, Repr, Inhabited

def Expectation.text : Expectation → String
  | .group .parenthesis => "parentheses"
  | .group .bracket => "square brackets"
  | .group .brace => "curly braces"
  | .sign text => "`" ++ text ++ "`"
  | .thing description => description

inductive Rejection where
  /-- The text does not consist of tokens. -/
  | unreadable
  | expected (alternatives : List Expectation) (atEnd : Bool)
  | missing (sign : String)
  | keyword (word : String)
  /-- Something follows where nothing may: inside the delimiter, or behind everything. -/
  | leftover (inside : Option Delimiter)
  | bare (name : String)
  | valued (name : String)
  | unknownArgument (name : String)
  | unknownStrategy
  | numberTooLarge
  | invalidDigit
  | noTrait
  | noBound
  | nestedAttribute
  /-- Bounds that say what is captured stand where they may not. -/
  | capture
  /-- A constant bound stands where it may not; `word` is how it is announced. -/
  | constantBound (word : String)
  /-- Lifetimes are named for a bound that is none of itself. -/
  | quantifiedMaybe
  | parameters
  | chainedComparison
  /-- What follows a cast would belong to its operand. -/
  | castFollowed (what : String)
  | unparenthesized
  /-- A statement does not end where another thing follows. -/
  | unendedStatement
  | attributedRange
  | openRangeInSlice
  | suffixedIndex
deriving DecidableEq, Repr, Inhabited

namespace Rejection

def expectedText (alternatives : List Expectation) : String :=
  match alternatives with
  | [a] => "expected " ++ a.text
  | [a, b] => "expected " ++ a.text ++ " or " ++ b.text
  | as => "expected one of: " ++ ", ".intercalate (as.map Expectation.text)

def text : Rejection → String
  | .unreadable => "cannot parse string into token stream"
  | .expected [] false => "unexpected token"
  | .expected [] true => "unexpected end of input"
  | .expected alternatives atEnd =>
    (if atEnd then "unexpected end of input, " else "") ++ expectedText alternatives
  | .missing sign => "expected `" ++ sign ++ "`"
  | .keyword word => "expected identifier, found keyword `" ++ word ++ "`"
  | .leftover none => "unexpected token"
  | .leftover (some d) =>
    "unexpected token, expected `" ++ String.singleton d.closing ++ "`"
  | .bare name => "expected attribute arguments in parentheses: #[" ++ name ++ "(...)]"
  | .valued name => "expected parentheses: #[" ++ name ++ "(...)]"
  | .unknownArgument name => "unknown attribute: " ++ name
  | .unknownStrategy =>
    "unknown strategy, expected one of: sequential, fail_fast, parallel, fire_and_forget"
  | .numberTooLarge => "number too large to fit in target type"
  | .invalidDigit => "invalid digit found in string"
  | .noTrait => "at least one trait is required for an object type"
  | .noBound => "at least one trait must be specified"
  | .nestedAttribute => "unexpected attribute inside of attribute"
  | .capture => "`use<...>` precise capturing syntax is not allowed here"
  | .constantBound word => "`" ++ word ++ "` is not allowed here"
  | .quantifiedMaybe =>
    "`for<...>` binder not allowed with `?` trait polarity modifier"
  | .parameters => "generic parameters on `where` clauses are reserved for future use"
  | .chainedComparison => "comparison operators cannot be chained"
  | .castFollowed what => "casts cannot be followed by " ++ what
  | .unparenthesized => "parentheses required"
  | .unendedStatement => "unexpected token, expected `;`"
  | .attributedRange => "attributes are not allowed on range expressions starting with `..`"
  | .openRangeInSlice =>
    "range pattern is not allowed unparenthesized inside slice pattern"
  | .suffixedIndex => "expected unsuffixed integer"

end Rejection

end Mediator.Declaration
