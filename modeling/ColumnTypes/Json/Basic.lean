import ColumnTypes.Text.Basic

/-!
JSON values. The members of an object keep their order. A number with a fraction or an exponent is kept
as it is written, since nothing here computes with it.
-/

namespace ColumnTypes

inductive Json where
  | null
  | boolean (value : Bool)
  | integer (value : Int)
  | real (spelling : Text)
  | string (value : Text)
  | array (items : List Json)
  | object (members : List (Text × Json))
deriving Repr, Inhabited

namespace Json

/-- The value of a member; of members with one key the last counts. -/
def member? (key : Text) (members : List (Text × Json)) : Option Json :=
  (members.reverse.find? (·.1 == key)).map (·.2)

theorem mem_of_member? {key : Text} {members : List (Text × Json)} {value : Json}
    (h : member? key members = some value) : ∃ k, (k, value) ∈ members := by
  obtain ⟨⟨k, v⟩, hf, rfl⟩ := Option.map_eq_some_iff.1 h
  exact ⟨k, List.mem_reverse.1 (List.mem_of_find?_eq_some hf)⟩

theorem sizeOf_lt_of_member? {key : Text} {members : List (Text × Json)} {value : Json}
    (h : member? key members = some value) : sizeOf value < sizeOf (object members) := by
  obtain ⟨k, hk⟩ := mem_of_member? h
  have := List.sizeOf_lt_of_mem hk
  simp only [Prod.mk.sizeOf_spec] at this
  simp only [object.sizeOf_spec]
  omega

end Json

end ColumnTypes
