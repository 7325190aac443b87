import Mathlib

namespace CursorProxy.JsonValues

/-- A JSON value as `serde_json` holds it; a number by its text, the members of
an object in the order of their keys. -/
inductive JsonValue where
 | null
 | bool (value:Bool)
 | number (text:String)
 | string (value:String)
 | array (items:List JsonValue)
 | object (members:List (String×JsonValue))
 deriving BEq

def digitsToNat (digits:List Char) : Option ℕ :=
 if !digits.isEmpty&&digits.all Char.isDigit then
  some (digits.foldl (fun total digit=>10*total+(digit.toNat-48)) 0)
 else none

namespace JsonValue

/-- An object as `serde_json` holds it has each key once. -/
def get (key:String) : JsonValue → Option JsonValue
 | object members=>(members.find? fun member=>member.1==key).map Prod.snd
 | _=>none

def asStr : JsonValue → Option String
 | string value=>some value
 | _=>none

def asBool : JsonValue → Option Bool
 | bool value=>some value
 | _=>none

def asArray : JsonValue → Option (List JsonValue)
 | array items=>some items
 | _=>none

def asObject : JsonValue → Option (List (String×JsonValue))
 | object members=>some members
 | _=>none

def asU64 : JsonValue → Option ℕ
 | number text=>(digitsToNat text.toList).filter (· < 2 ^ 64)
 | _=>none

def asI64 : JsonValue → Option ℤ
 | number text=>
  match text.toList with
  | '-' :: digits=>
   ((digitsToNat digits).filter fun size=>size≠0 ∧ size ≤ 2 ^ 63).map fun size=>-(size:ℤ)
  | digits=>((digitsToNat digits).filter (· < 2 ^ 63)).map Int.ofNat
 | _=>none

end JsonValue

/-- A further `get` in a chain of them. -/
def member (key:String) (value:Option JsonValue) : Option JsonValue := value.bind (·.get key)

/-- The two zeros of the floats are equal, and no other two numbers. -/
def sameNumber (text other:String) : Bool :=
 text==other||["0.0","-0.0"].contains text&&["0.0","-0.0"].contains other

mutual

/-- As `serde_json` compares two values. -/
def same : JsonValue → JsonValue → Bool
 | .null, .null=>true
 | .bool value, .bool other=>value==other
 | .number text, .number other=>sameNumber text other
 | .string value, .string other=>value==other
 | .array items, .array others=>sameItems items others
 | .object members, .object others=>sameMembers members others
 | _,_=>false

def sameItems : List JsonValue → List JsonValue → Bool
 | [],[]=>true
 | item::items,other::others=>same item other&&sameItems items others
 | _,_=>false

def sameMembers : List (String×JsonValue) → List (String×JsonValue) → Bool
 | [],[]=>true
 | (key,value)::members,(key',value')::others=>
  key==key'&&same value value'&&sameMembers members others
 | _,_=>false

end

mutual

theorem same_refl : ∀ value:JsonValue,same value value=true
 | .null=>rfl
 | .bool _=>by rw [same,beq_self_eq_true]
 | .number text=>by rw [same,sameNumber,beq_self_eq_true,Bool.true_or]
 | .string _=>by rw [same,beq_self_eq_true]
 | .array items=>by rw [same,sameItems_refl items]
 | .object members=>by rw [same,sameMembers_refl members]

theorem sameItems_refl : ∀ items:List JsonValue,sameItems items items=true
 | []=>rfl
 | item::items=>by rw [sameItems,same_refl item,sameItems_refl items,Bool.true_and]

theorem sameMembers_refl : ∀ members:List (String×JsonValue),sameMembers members members=true
 | []=>rfl
 | (key,value)::members=>by
  rw [sameMembers,beq_self_eq_true,same_refl value,sameMembers_refl members,Bool.true_and,Bool.true_and]

end

end CursorProxy.JsonValues
