import Terminal.Decimal.Number
import Terminal.Text.Category

namespace Terminal

inductive Json where
  | null
  | bool (b : Bool)
  | number (n : Number)
  | text (s : String)
  | array (items : List Json)
  | object (fields : List (String × Json))
  deriving Inhabited

namespace Json

def int (n : Int) : Json := number (.whole n)

def field? (key : String) : Json → Option Json
  | object fields => fields.lookup key
  | _ => none

def setField (key : String) (value : Json) : List (String × Json) → List (String × Json)
  | [] => [(key, value)]
  | (k, v) :: rest => if k = key then (k, value) :: rest else (k, v) :: setField key value rest

def insertField (field : String × Json) : List (String × Json) → List (String × Json)
  | [] => [field]
  | f :: rest => if field.1 < f.1 then field :: f :: rest else f :: insertField field rest

def sortFields (fields : List (String × Json)) : List (String × Json) :=
  fields.foldr insertField []

mutual

def sorted : Json → Json
  | null => null
  | bool b => bool b
  | number n => number n
  | text s => text s
  | array items => array (sortedItems items)
  | object fields => object (sortFields (sortedFields fields))

def sortedItems : List Json → List Json
  | [] => []
  | v :: vs => sorted v :: sortedItems vs

def sortedFields : List (String × Json) → List (String × Json)
  | [] => []
  | (k, v) :: rest => (k, sorted v) :: sortedFields rest

end

mutual

def inner : Json → String
  | null => "None"
  | bool true => "True"
  | bool false => "False"
  | number n => n.text
  | text s => Text.quoted s
  | array items => "[" ++ ", ".intercalate (innerItems items) ++ "]"
  | object fields => "\x7b" ++ ", ".intercalate (innerFields fields) ++ "\x7d"

def innerItems : List Json → List String
  | [] => []
  | v :: vs => inner v :: innerItems vs

def innerFields : List (String × Json) → List String
  | [] => []
  | (k, v) :: rest => (Text.quoted k ++ ": " ++ inner v) :: innerFields rest

end

def asText : Json → String
  | text s => s
  | v => v.inner

end Json

end Terminal
