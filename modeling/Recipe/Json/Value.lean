import Recipe.Number.Double

/-!
# JSON values

Values of the JSON data format. The fields of an object keep the order in which they were first
written, because texts and messages show it.
-/

set_option autoImplicit false

namespace Recipe

inductive Json where
  | null
  | bool (value : Bool)
  | integer (value : Int)
  | double (value : Double)
  | string (value : String)
  | list (items : List Json)
  | object (fields : List (String × Json))

namespace Json

/-! ## Shapes -/

def isString : Json → Bool
  | string _ => true
  | _ => false

/-- Whether the value is a whole number, written without a fraction or an exponent. -/
def isInteger : Json → Bool
  | integer _ => true
  | _ => false

def isNumber : Json → Bool
  | integer _ | double _ => true
  | _ => false

def isBool : Json → Bool
  | bool _ => true
  | _ => false

def isList : Json → Bool
  | list _ => true
  | _ => false

def isObject : Json → Bool
  | object _ => true
  | _ => false

/-! ## Parts -/

def asString? : Json → Option String
  | string value => some value
  | _ => none

def asBool? : Json → Option Bool
  | bool value => some value
  | _ => none

def asList? : Json → Option (List Json)
  | list items => some items
  | _ => none

def asNat? : Json → Option Nat
  | integer (.ofNat value) => some value
  | _ => none

def field? (name : String) : Json → Option Json
  | object fields => fields.lookup name
  | _ => none

/-! ## Building -/

/-- The value of an optional part, null when it is absent. -/
def orNull : Option Json → Json
  | some value => value
  | none => null

def strings (texts : List String) : Json := list (texts.map string)

/-- A field that is left out when its value is absent. -/
def optional (name : String) (value : Option Json) : List (String × Json) :=
  match value with
  | some present => [(name, present)]
  | none => []

/-- A field that is left out when its list is empty. -/
def nonempty (name : String) (items : List Json) : List (String × Json) :=
  if items.isEmpty then [] else [(name, list items)]

/-- A field that is left out when its object is empty. -/
def nonemptyObject (name : String) (fields : List (String × Json)) : List (String × Json) :=
  if fields.isEmpty then [] else [(name, object fields)]

end Json

end Recipe
