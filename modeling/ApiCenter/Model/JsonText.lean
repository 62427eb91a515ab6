import ApiCenter.Library.Fields
import ApiCenter.Library.JsonText
import ApiCenter.Model.Schemas

namespace ApiCenter
open Library.JsonText

namespace Json

mutual

/-- The characters `JSON.stringify` writes. -/
def write : Json → List Char
  | .null => ['n', 'u', 'l', 'l']
  | .bool true => ['t', 'r', 'u', 'e']
  | .bool false => ['f', 'a', 'l', 's', 'e']
  | .number text => text.toList
  | .string s => quote s.toList
  | .array items => '[' :: (separated (writeItems items) ++ [']'])
  | .object fields => '\x7b' :: (separated (writeFields fields) ++ ['\x7d'])

def writeItems : List Json → List (List Char)
  | [] => []
  | item :: items => item.write :: writeItems items

def writeFields : List (String × Json) → List (List Char)
  | [] => []
  | (key, value) :: fields => member key.toList value.write :: writeFields fields

end

/-- `JSON.stringify(value)` -/
def stringify (j : Json) : String := String.ofList j.write

/-- The object a list of members makes: a later member takes the place of an earlier one with
its key. -/
def ofMembers (members : List (List Char × Json)) : JsonObject :=
  members.foldl (fun fields m => Library.Fields.assign fields (String.ofList m.1) m.2) []

/-- A value at the front of a text. Its depth is at most `fuel`. -/
def readValue : Nat → List Char → Option (Json × List Char)
  | 0, _ => none
  | fuel + 1, s =>
    match skipSpace s with
    | 'n' :: 'u' :: 'l' :: 'l' :: s => some (.null, s)
    | 't' :: 'r' :: 'u' :: 'e' :: s => some (.bool true, s)
    | 'f' :: 'a' :: 'l' :: 's' :: 'e' :: s => some (.bool false, s)
    | '"' :: s => (readQuoted s.length s).map fun p => (.string (String.ofList p.1), p.2)
    | '[' :: s => (readSequence (readValue fuel) ']' s).map fun p => (.array p.1, p.2)
    | '\x7b' :: s =>
      (readSequence (readMember (readValue fuel)) '\x7d' s).map fun p =>
        (.object (ofMembers p.1), p.2)
    | s => (readNumber s).map fun p => (.number (String.ofList p.1), p.2)

/-- `JSON.parse(text)`; `none` is a `SyntaxError`. -/
def parse (text : String) : Option Json := do
  let (j, rest) ← readValue text.length text.toList
  if skipSpace rest = [] then some j else none

end Json

/-- The object `JSON.stringify` sees: a property that is `undefined` is not written. -/
def Payload.object (payload : Payload) : Json :=
  .object (Library.Fields.keep id payload)

end ApiCenter
