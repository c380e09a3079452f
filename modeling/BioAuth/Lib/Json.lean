import BioAuth.Lib.Fallible
import BioAuth.Lib.BigEndian
import Mathlib.Tactic.Basic

namespace BioAuth

/-- A JSON document. A number that is no integer keeps its spelling. -/
inductive Json
  | null
  | bool (value : Bool)
  | number (value : Int)
  | decimal (spelling : String)
  | string (value : String)
  | array (items : List Json)
  | object (members : List (String × Json))

inductive JsonError
  | malformed
  | unwritable
  | invalidType
  | missingField (name : String)
  | duplicateField (name : String)
  | unknownVariant (name : String)
  | custom (message : String)
  deriving DecidableEq

/-- The library that spells documents as octets and reads them back. -/
class JsonText where
  toVecPretty : Json → Except JsonError Bytes
  fromSlice : Bytes → Except JsonError Json

/-- What is written is read back as it was. -/
def JsonText.Faithful [JsonText] : Prop :=
  ∀ json bytes, toVecPretty json = .ok bytes → fromSlice bytes = .ok json

namespace Json
variable {α : Type}

def text : Json → Except JsonError String
  | .string value => .ok value
  | _ => .error .invalidType

/-- An integer within the bounds of its type. -/
def integer (low high : Int) : Json → Except JsonError Int
  | .number value => if low ≤ value ∧ value < high then .ok value else .error .invalidType
  | _ => .error .invalidType

def items (read : Json → Except JsonError α) : Json → Except JsonError (List α)
  | .array items => items.mapM read
  | _ => .error .invalidType

def members : Json → Except JsonError (List (String × Json))
  | .object members => .ok members
  | _ => .error .invalidType

/-- The members of a name, of which there may be only one. -/
def find (name : String) (members : List (String × Json)) : Except JsonError (Option Json) :=
  match members.filter fun member => member.1 = name with
  | [] => .ok none
  | [(_, value)] => .ok (some value)
  | _ => .error (.duplicateField name)

/-- A field of a record. What it defaults to, if anything, is read where it is missing. -/
def field (name : String) (otherwise : Option α) (read : Json → Except JsonError α)
    (members : List (String × Json)) : Except JsonError α := do
  match ← find name members with
  | some value => read value
  | none => okOr (.missingField name) otherwise

theorem integer_number {low high value : Int} (inside : low ≤ value ∧ value < high) :
    integer low high (.number value) = .ok value := if_pos inside

theorem items_array (write : α → Json) {read : Json → Except JsonError α} (values : List α)
    (back : ∀ value ∈ values, read (write value) = .ok value) : items read (.array (values.map write)) = .ok values := by
  unfold items
  dsimp only
  induction values with
  | nil => rfl
  | cons value values ih =>
    rw [List.forall_mem_cons] at back
    rw [List.map_cons, List.mapM_cons, back.1]
    simp only [except_bind_eq_ok, except_pure_eq_ok]
    exact ⟨value, rfl, values, ih back.2, rfl⟩

/-- A field written once is the one read. -/
theorem field_eq_ok {name : String} {otherwise : Option α} {read : Json → Except JsonError α} {value : Json} {a : α}
    {members : List (String × Json)} (once : members.filter (fun member => member.1 = name) = [(name, value)])
    (back : read value = .ok a) : field name otherwise read members = .ok a := by
  rw [field, find, once]
  exact back

end Json

end BioAuth
