import TemplateFill.Members

/-! JSON documents. Objects keep their members in order, and a number is an
integer of at most 64 bits where its text allows that, and a float otherwise. -/
namespace TemplateFill

inductive Number where
  | int (value : Int)
  | float (value : Float)

inductive Json where
  | null
  | bool (value : Bool)
  | number (value : Number)
  | string (text : String)
  | array (items : List Json)
  | object (members : List (String × Json))

/-- The six kinds of node. -/
inductive NodeType where
  | null
  | boolean
  | number
  | string
  | array
  | object
  deriving DecidableEq, Repr

/-- A kind of node as a warning names it. -/
def NodeType.name : NodeType → String
  | .null => "null"
  | .boolean => "a boolean"
  | .number => "a number"
  | .string => "a string"
  | .array => "an array"
  | .object => "an object"

def Json.nodeType : Json → NodeType
  | .null => .null
  | .bool _ => .boolean
  | .number _ => .number
  | .string _ => .string
  | .array _ => .array
  | .object _ => .object

def Number.isZero : Number → Bool
  | .int value => value == 0
  | .float value => value == 0

/-- A document with nothing in it: null, false, zero, or an empty string or container. -/
def Json.isEmpty : Json → Bool
  | .null => true
  | .bool value => !value
  | .number value => value.isZero
  | .string text => text.isEmpty
  | .array items => items.isEmpty
  | .object members => members.isEmpty

end TemplateFill
