import SubscriptionClient.Schema.Scalar

/-!
# Schemas

A schema denotes a type; decoding reads a value of that type from a body and dumping writes it back
as a value. Records ignore members that they do not declare, mappings take every member.
-/

namespace SubscriptionClient

mutual

inductive Schema where
  | text
  | integer
  | boolean
  | dateTime
  | anything
  | nullable (s : Schema)
  | list (s : Schema)
  | mapping (s : Schema)
  /-- Values pass a screen first, which replaces them or refuses. -/
  | screened (screen : Value → Option Value) (s : Schema)
  | record (fields : Fields)

/-- The declared fields of a record, in order. -/
inductive Fields where
  | none
  | field (name : String) (required : Bool) (s : Schema) (rest : Fields)

end

mutual

def Schema.Denotes : Schema → Type
  | .text => Text
  | .integer => Int
  | .boolean => Bool
  | .dateTime => DateTime
  | .anything => Value
  | .nullable s => Option s.Denotes
  | .list s => List s.Denotes
  | .mapping s => List (Text × s.Denotes)
  | .screened _ s => s.Denotes
  | .record fields => fields.Denotes

def Fields.Denotes : Fields → Type
  | .none => Unit
  | .field _ _ s rest => s.Denotes × rest.Denotes

end

mutual

/-- What an absent optional field holds: null, false, or emptiness. -/
def Schema.blank : (s : Schema) → s.Denotes
  | .text => ([] : Text)
  | .integer => (0 : Int)
  | .boolean => false
  | .dateTime => (default : DateTime)
  | .anything => Value.null
  | .nullable _ => Option.none
  | .list _ => []
  | .mapping _ => []
  | .screened _ s => s.blank
  | .record fields => fields.blank

def Fields.blank : (fields : Fields) → fields.Denotes
  | .none => ()
  | .field _ _ s rest => (s.blank, rest.blank)

end

mutual

/-- All issues are collected, in the order of fields, members and items. -/
def Schema.decode : (s : Schema) → Value → Decoded s.Denotes
  | .text, v => Scalar.text v
  | .integer, v => Scalar.integer v
  | .boolean, v => Scalar.boolean v
  | .dateTime, v => Scalar.dateTime v
  | .anything, v => .ok v
  | .nullable s, v => if v.isNull then .ok Option.none else (s.decode v).map some
  | .list s, v =>
    match v with
    | .list vs => Decoded.items s.decode 0 vs
    | _ => .fail .listExpected
  | .mapping s, v =>
    match v with
    | .map es => (Decoded.members Scalar.text s.decode es).map Decoded.collectNamed
    | _ => .fail .mappingExpected
  | .screened screen s, v =>
    match screen v with
    | some w => s.decode w
    | Option.none => .fail .refused
  | .record fields, v =>
    match v with
    | .map es => fields.decode es
    | _ => .fail .recordExpected

def Fields.decode : (fields : Fields) → List (Value × Value) → Decoded fields.Denotes
  | .none, _ => .ok ()
  | .field name required s rest, es =>
    let here := match Value.member? name es with
      | some v => (s.decode v).under (.name name.toText)
      | Option.none => if required then .error [⟨.missing, [.name name.toText]⟩] else .ok s.blank
    Decoded.both here (rest.decode es)

end

mutual

def Schema.dump : (s : Schema) → s.Denotes → Value
  | .text, t => .text t
  | .integer, n => .int n
  | .boolean, b => .bool b
  | .dateTime, t => .dateTime t
  | .anything, v => v
  | .nullable s, x => Value.ofOption s.dump x
  | .list s, xs => .list (xs.map s.dump)
  | .mapping s, xs => .map (xs.map fun x => (.text x.1, s.dump x.2))
  | .screened _ s, x => s.dump x
  | .record fields, x => .map (fields.dump x)

/-- Every field by name, present or not in what was decoded. -/
def Fields.dump : (fields : Fields) → fields.Denotes → List (Value × Value)
  | .none, _ => []
  | .field name _ s rest, x => (.text name.toText, s.dump x.1) :: rest.dump x.2

end

namespace Schema

/-- A record from a list of fields, each with a mark for being required. -/
def ofFields (fields : List (String × Bool × Schema)) : Schema :=
  .record (fields.foldr (fun f rest => .field f.1 f.2.1 f.2.2 rest) .none)

end Schema

end SubscriptionClient
