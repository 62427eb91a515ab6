import ApiCenter.Model.Errors

namespace ApiCenter

/-- A parsed JSON value; a number is kept as its text. -/
inductive Json where
  | null
  | bool (b : Bool)
  | number (text : String)
  | string (s : String)
  | array (items : List Json)
  | object (fields : List (String × Json))
  deriving Repr

/-- The properties of a parsed JSON object. -/
abbrev JsonObject := List (String × Json)

namespace Json

def isString : Json → Bool
  | .string _ => true
  | _ => false

/-- `value?.key`, for keys no built-in prototype has. -/
def get? (key : String) : Json → Option Json
  | .object fields => fields.lookup key
  | _ => none

/-- `a ?? b` goes on to `b` when `a` is `null`. -/
def present : Json → Option Json
  | .null => none
  | value => some value

/-- Whether `value || d` is `value`. -/
def truthy : Json → Bool
  | .null => false
  | .bool b => b
  | .number text => text ≠ "0"
  | .string s => s ≠ ""
  | .array _ | .object _ => true

/-- `[...value]`; a text is spread into its characters. -/
def spread : Json → Except Thrown (List Json)
  | .array items => .ok items
  | .string s => .ok (s.toList.map fun c => .string (String.singleton c))
  | .null | .bool _ | .number _ | .object _ => .error (.typeError "value is not iterable")

/-- `Object.values(value)`, for a value that is not `null`. -/
def values : Json → List Json
  | .object fields => fields.map Prod.snd
  | .array items => items
  | .string s => s.toList.map fun c => .string (String.singleton c)
  | .null | .bool _ | .number _ => []

mutual

/-- `String(value)` -/
def toText : Json → String
  | .null => "null"
  | .bool b => if b then "true" else "false"
  | .number text => text
  | .string s => s
  | .array items => String.intercalate "," (elementTexts items)
  | .object _ => "[object Object]"

def elementTexts : List Json → List String
  | [] => []
  | .null :: items => "" :: elementTexts items
  | item :: items => item.toText :: elementTexts items

end

end Json

end ApiCenter
