import SubscriptionClient.Value.Literal

/-!
# Failures

What can go wrong outside the backend: an incident that a collaborator raises, a misuse of values,
or whatever else a transport reports in place of an error.
-/

namespace SubscriptionClient

/-- Something raised by a collaborator, in its own words. -/
structure Incident where
  kind : Text
  message : Text
  deriving DecidableEq

inductive Misuse where
  | unordered (v w : Value)
  | mixedClocks
  | notANumber
  /-- A key that cannot name a member of an object. -/
  | unnameable (key : Value)
  | unusableKey (v : Value)
  | notIterable (v : Value)
  /-- A value that is not text where texts are joined. -/
  | notText (v : Value)
  | notAPair
  | notAMapping
  /-- A text where a list of product identifiers is needed. -/
  | productText
  /-- An integer that is to be written has too many digits. -/
  | tooManyDigits
  | arguments (text : Text)
  /-- A signaling NaN has no double. -/
  | signalingNaN
  | malformedAnswer
  | missingAnswer

namespace Misuse

inductive Kind where
  | type
  | value
  | attribute
  | arithmetic
  deriving DecidableEq

def kind : Misuse → Kind
  | notAPair | tooManyDigits | signalingNaN | malformedAnswer => .value
  | notAMapping => .attribute
  | notANumber => .arithmetic
  | _ => .type

def typeName : Value → String
  | .null => "NoneType"
  | .bool _ => "bool"
  | .int _ => "int"
  | .float _ => "float"
  | .text _ => "str"
  | .bytes _ => "bytes"
  | .decimal _ => "decimal.Decimal"
  | .dateTime _ => "datetime.datetime"
  | .list _ => "list"
  | .map _ => "dict"

def quotedType (v : Value) : Text := "'".toText ++ (typeName v).toText ++ "'".toText

def message : Misuse → Text
  | unordered v w =>
    "'<' not supported between instances of ".toText ++ quotedType v ++ " and ".toText ++
      quotedType w
  | mixedClocks => "can't compare offset-naive and offset-aware datetimes".toText
  | notANumber => "[<class 'decimal.InvalidOperation'>]".toText
  | unnameable key =>
    "keys must be str, int, float, bool or None, not ".toText ++ (typeName key).toText
  | unusableKey v =>
    if v.isSignaling then "Cannot hash a signaling NaN value.".toText
    else "unhashable type: ".toText ++ quotedType v
  | notIterable v => quotedType v ++ " object is not iterable".toText
  | notText v => "text was expected, but not ".toText ++ quotedType v
  | notAPair => "a pair was expected".toText
  | notAMapping => "a mapping was expected".toText
  | productText => "product_identifiers must be a sequence of product ids, not a str.".toText
  | tooManyDigits =>
    "Exceeds the limit (".toText ++ Text.ofNat Numeral.digitLimit ++
      (" digits) for integer string conversion; " ++
        "use sys.set_int_max_str_digits() to increase the limit").toText
  | arguments text => text
  | signalingNaN => "cannot convert signaling NaN to float".toText
  | malformedAnswer => "three parts were expected".toText
  | missingAnswer => "an answer was expected".toText

/-- A text that may be impossible to write. -/
def ofWritten : Option Text → Except Misuse Text
  | some t => .ok t
  | none => .error tooManyDigits

end Misuse

/-- What is reported as the failure of a request. -/
inductive Failure where
  | incident (i : Incident)
  | misuse (m : Misuse)
  | value (v : Value)

namespace Failure

def message? : Failure → Option Text
  | incident i => some i.message
  | misuse m => some m.message
  | value v => v.display?

/-- What a future ends with when it is failed: null is no failure, but a result. -/
def asOutcome : Failure → Except Failure Value
  | value .null => .ok .null
  | f => .error f

end Failure

end SubscriptionClient
