import ColumnTypes.Primitive
import ColumnTypes.TimeUnit

/-!
Column types as trees. Leaves are the primitive types and the types with numeric parameters; arrays,
tuples, maps and nullable types hold further types. The timezone of a time stamp is kept verbatim,
quotes included.
-/

namespace ColumnTypes

inductive ColumnType where
  | primitive (name : Primitive)
  | fixedString (length : UInt64)
  | decimal (precision scale : UInt32)
  | decimal256 (precision scale : UInt32)
  | dateTime64 (precision : UInt8) (timezone : Option Text)
  | array (element : ColumnType)
  | tuple (elements : List ColumnType)
  | map (key value : ColumnType)
  | nullable (inner : ColumnType)
deriving Repr, Inhabited

namespace ColumnType

/-- What holds of a tuple once it holds of its elements, and so for the others, holds of every type. -/
@[induction_eliminator]
theorem tree_induction {motive : ColumnType → Prop}
    (primitive : ∀ name, motive (.primitive name))
    (fixedString : ∀ length, motive (.fixedString length))
    (decimal : ∀ precision scale, motive (.decimal precision scale))
    (decimal256 : ∀ precision scale, motive (.decimal256 precision scale))
    (dateTime64 : ∀ precision timezone, motive (.dateTime64 precision timezone))
    (array : ∀ element, motive element → motive (.array element))
    (tuple : ∀ elements, (∀ e ∈ elements, motive e) → motive (.tuple elements))
    (map : ∀ key value, motive key → motive value → motive (.map key value))
    (nullable : ∀ inner, motive inner → motive (.nullable inner)) (type : ColumnType) :
    motive type :=
  @ColumnType.rec motive (fun elements => ∀ e ∈ elements, motive e) primitive fixedString decimal
    decimal256 dateTime64 array tuple map nullable (fun _ he => absurd he List.not_mem_nil)
    (fun _ _ ht hr => List.forall_mem_cons.2 ⟨ht, hr⟩) type

mutual

/-- Levels of the tree; a leaf has one. -/
def depth : ColumnType → Nat
  | primitive _ | fixedString _ | decimal _ _ | decimal256 _ _ | dateTime64 _ _ => 1
  | array element => 1 + element.depth
  | tuple elements => 1 + deepest elements
  | map key value => 1 + max key.depth value.depth
  | nullable inner => 1 + inner.depth

/-- The largest depth in a list, zero for the empty list. -/
def deepest : List ColumnType → Nat
  | [] => 0
  | type :: rest => max type.depth (deepest rest)

end

theorem deepest_le_iff {types : List ColumnType} {n : Nat} :
    deepest types ≤ n ↔ ∀ t ∈ types, t.depth ≤ n := by
  induction types with
  | nil => simp [deepest]
  | cons type rest ih => rw [deepest, Nat.max_le, ih, List.forall_mem_cons]

def isNullable : ColumnType → Bool
  | nullable _ => true
  | _ => false

def timeUnit? : ColumnType → Option TimeUnit
  | dateTime64 precision _ => TimeUnit.ofPrecision? precision
  | _ => none

mutual

/-- Whether two types are the same tree. -/
def same : ColumnType → ColumnType → Bool
  | primitive a, primitive b => a = b
  | fixedString a, fixedString b => a = b
  | decimal p s, decimal p' s' => p = p' && s = s'
  | decimal256 p s, decimal256 p' s' => p = p' && s = s'
  | dateTime64 p z, dateTime64 p' z' => p = p' && z = z'
  | array a, array b => same a b
  | tuple as, tuple bs => sameList as bs
  | map k v, map k' v' => same k k' && same v v'
  | nullable a, nullable b => same a b
  | _, _ => false

def sameList : List ColumnType → List ColumnType → Bool
  | [], [] => true
  | a :: as, b :: bs => same a b && sameList as bs
  | _, _ => false

end

mutual

theorem eq_of_same : ∀ {a b : ColumnType}, same a b → a = b := by
  intro a b h
  cases a with
  | array a => cases b <;> simp [same] at h; exact congrArg array (eq_of_same h)
  | nullable a => cases b <;> simp [same] at h; exact congrArg nullable (eq_of_same h)
  | tuple as => cases b <;> simp [same] at h; exact congrArg tuple (eq_of_sameList h)
  | map k v =>
    cases b <;> simp [same] at h
    rw [eq_of_same h.1, eq_of_same h.2]
  | _ => cases b <;> simp_all [same]

theorem eq_of_sameList : ∀ {as bs : List ColumnType}, sameList as bs → as = bs := by
  intro as bs h
  match as, bs with
  | [], [] => rfl
  | a :: as, b :: bs =>
    simp only [sameList, Bool.and_eq_true] at h
    rw [eq_of_same h.1, eq_of_sameList h.2]
  | [], _ :: _ => simp [sameList] at h
  | _ :: _, [] => simp [sameList] at h

end

mutual

theorem same_self : ∀ a : ColumnType, same a a := by
  intro a
  cases a with
  | array a => simpa [same] using same_self a
  | nullable a => simpa [same] using same_self a
  | tuple as => simpa [same] using sameList_self as
  | map k v => simp [same, same_self k, same_self v]
  | _ => simp [same]

theorem sameList_self : ∀ as : List ColumnType, sameList as as := by
  intro as
  match as with
  | [] => rfl
  | a :: as => simp [sameList, same_self a, sameList_self as]

end

theorem same_iff {a b : ColumnType} : same a b ↔ a = b :=
  ⟨eq_of_same, fun h => h ▸ same_self a⟩

instance : DecidableEq ColumnType := fun _ _ => decidable_of_iff _ same_iff

end ColumnType

end ColumnTypes
