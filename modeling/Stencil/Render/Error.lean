import Stencil.Delimiter
import Stencil.Text.Quoted

/-!
# Why a template does not render

The three causes, and the message of each.
-/

namespace Stencil

/-- Why a template does not render. -/
inductive RenderError
  /-- A token has no value. -/
  | missingVariable (name : Text)
  /-- A pair of delimiters cannot be used. -/
  | malformedDelimiters (role : Role) (fault : PairFault)
  /-- The body of a loop is indented less than its tag. -/
  | underIndented (loop : Text) (offset indent : Nat)
  deriving DecidableEq, Repr

/-- What a pair is called in messages. -/
def Role.name : Role → Text
  | .token => "variable".toList
  | .tag => "loop variable".toList
  | .body => "loop block".toList

/-- What an end of a pair is called in messages. -/
def Side.name : Side → Text
  | .opening => "open".toList
  | .closing => "close".toList

/-- What is wrong with a pair, in words. -/
def PairFault.message : PairFault → Text
  | .empty side => side.name ++ " delimiter is empty".toList
  | .lineBreak side delimiter =>
    side.name ++ " delimiter ".toList ++ Text.quoted delimiter ++ " contains a line break".toList
  | .sameAsTags => "must differ from the loop variable delimiters".toList

/-- Why a template does not render, in words. -/
def RenderError.message : RenderError → Text
  | .missingVariable name => "Variable not found in data: ".toList ++ name
  | .malformedDelimiters role fault =>
    "Malformed ".toList ++ role.name ++ " delimiter configuration: ".toList ++ fault.message
  | .underIndented loop offset indent =>
    "Loop '".toList ++ loop ++ "' body is indented by ".toList ++ Text.ofNat indent ++
      " columns, less than its tag offset of ".toList ++ Text.ofNat offset

end Stencil
