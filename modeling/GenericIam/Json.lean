/-! JSON values as a program sees them after parsing. -/

namespace GenericIam

inductive Json where
  | null
  | bool (value : Bool)
  | number (value : Int)
  | string (text : String)
  | array (items : List Json)
  | object (fields : List (String × Json))

namespace Json

/-- Reading a property; the last one of a name counts, and only objects have any.
`none` is `undefined`. -/
def property (name : String) : Json → Option Json
  | .object fields => (fields.filter fun field => field.1 == name).getLast?.map Prod.snd
  | _ => none

def asString : Json → Option String
  | .string text => some text
  | _ => none

def isNull : Json → Bool
  | .null => true
  | _ => false

def isString (text : String) : Json → Bool
  | .string given => given == text
  | _ => false

def isBool (value : Bool) : Json → Bool
  | .bool given => given == value
  | _ => false

def strings (items : List Json) : List String := items.filterMap asString

def orElse (value : Option Json) (other : Option Json) : Option Json :=
  match value with
  | none | some .null => other
  | some present => some present

@[simp] theorem strings_map_string (texts : List String) : strings (texts.map string) = texts := by
  induction texts with
  | nil => rfl
  | cons text texts ih =>
    have rest : (texts.map string).filterMap asString = texts := ih
    simp only [strings, List.map_cons, List.filterMap_cons, asString, rest]

end Json
end GenericIam
