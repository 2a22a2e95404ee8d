import TextArt.Failure

/-!
# Named arguments

Requests give arguments by name, as values. An operation accepts a set of names, some of which have
to be given; every other name is refused.
-/

namespace TextArt.Fields

/-- Refuses arguments that lack a required name or have a name that is neither required nor
optional. -/
def accept (arguments : Fields) (required optional : List Text) : Outcome Unit :=
  if required.all (fun name ↦ (arguments.lookup name).isSome)
      && arguments.all (fun a ↦ required.contains a.1 || optional.contains a.1) then .ok ()
  else .error .wrongType

/-- The value given under a name, or a default. -/
def argument (arguments : Fields) (name : Text) (default : Value) : Value :=
  (arguments.lookup name).getD default

end TextArt.Fields

namespace TextArt.Value

/-- The value of a field that has to be there. Only objects have named fields. -/
def need (v : Value) (name : Text) : Outcome Value :=
  match v with
  | object fields =>
    match fields.lookup name with
    | some found => .ok found
    | none => .error (.missingKey (.str name))
  | _ => .error .wrongType

/-- The value of a field, or a default where there is none. A value that is no object has no
fields to ask for. -/
def ask (v : Value) (name : Text) (default : Value) : Outcome Value :=
  match v with
  | object fields => .ok (Fields.argument fields name default)
  | _ => .error .missingPart

/-- The fields of a value that stands for named arguments. -/
def arguments (v : Value) : Outcome Fields :=
  match v with
  | object fields => .ok fields
  | _ => .error .wrongType

/-- The parts of a value that is gone through one by one: the items of a list, the characters of a
text, the names of an object. -/
def parts (v : Value) : Outcome (List Value) :=
  match v with
  | list items => .ok items
  | str s => .ok (s.toList.map fun c ↦ .str (Text.singleton c))
  | object fields => .ok (fields.map fun f ↦ .str f.1)
  | _ => .error .wrongType

/-- The whole number that a value stands for, truth values counting as zero and one. -/
def whole (v : Value) : Outcome Int :=
  match v.number?.bind Number.int? with
  | some n => .ok n
  | none => .error .wrongType

/-- The number that a value has to be. -/
def number (v : Value) : Outcome Number :=
  match v.number? with
  | some n => .ok n
  | none => .error .wrongType

end TextArt.Value
