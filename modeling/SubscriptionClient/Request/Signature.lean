import SubscriptionClient.Error.Failure

/-!
# Signatures

The parameters of what can be called with arguments by name. Every required argument has to be there
and none that is not declared; otherwise the first thing that is wrong is said.
-/

namespace SubscriptionClient

structure Signature where
  name : String
  required : List String
  optional : List String
  deriving DecidableEq

namespace Signature

def quoted (name : String) : Text := "'".toText ++ name.toText ++ "'".toText

/-- Names as a sentence lists them. -/
def enumeration : List String → Text
  | [] => []
  | [a] => quoted a
  | [a, b] => quoted a ++ " and ".toText ++ quoted b
  | [a, b, c] => quoted a ++ ", ".toText ++ quoted b ++ ", and ".toText ++ quoted c
  | a :: as => quoted a ++ ", ".toText ++ enumeration as

def unexpectedMessage (s : Signature) (name : String) : Text :=
  s.name.toText ++ "() got an unexpected keyword argument ".toText ++ quoted name

def missingMessage (s : Signature) (names : List String) : Text :=
  s.name.toText ++ "() missing ".toText ++ Text.ofNat names.length ++
    " required positional argument".toText ++ (if names.length = 1 then [] else "s".toText) ++
    ": ".toText ++ enumeration names

/-- What is wrong with the names of the arguments, if anything. -/
def misfit? (s : Signature) (names : List String) : Option Misuse :=
  match names.find? fun n => !(s.required ++ s.optional).contains n with
  | some n => some (.arguments (s.unexpectedMessage n))
  | none =>
    match s.required.filter fun n => !names.contains n with
    | [] => none
    | missing => some (.arguments (s.missingMessage missing))

end Signature

end SubscriptionClient
