import ColumnTypes.ColumnType.Construct
import ColumnTypes.Text.Blank

/-!
Reading a column type. Blanks have no meaning and are removed first. One scan then refuses unbalanced
parentheses and nesting beyond the limit, and the rest is read level by level: a primitive name, or a
construct whose parts are read in turn, the first failing part giving the error. The parts of a
fragment are shorter than the fragment, since its closing parenthesis is gone.
-/

namespace ColumnTypes

/-- The first nesting fault of a text, with `depth` parentheses open before it. -/
def nestingFault? (depth : Nat) : Text → Option TypeFault
  | [] => if depth = 0 then none else some .unbalanced
  | c :: rest =>
    if c = '(' then
      if depth + 1 > nestingLimit then some .tooDeep else nestingFault? (depth + 1) rest
    else if c = ')' then
      match depth with
      | 0 => some .unbalanced
      | depth + 1 => nestingFault? depth rest
    else nestingFault? depth rest

/-- Refuses a text with unbalanced parentheses or nested beyond the limit. -/
def checkNesting (text : Text) : Except MalformedType Unit :=
  match nestingFault? 0 text with
  | none => .ok ()
  | some fault => .error ⟨text, fault⟩

/-- How a fragment begins: it is a primitive name, or a construct around a parameter text. -/
inductive Head where
  | primitive (name : Primitive)
  | construct (construct : Construct) (inner : Text)
deriving Repr

def Head.read (table : List Construct) (text : Text) : Except MalformedType Head :=
  if text.isEmpty then .error ⟨text, .empty⟩
  else
    match Primitive.ofName? text with
    | some p => .ok (.primitive p)
    | none =>
      match Construct.longest? table text with
      | none => .error ⟨text, .unknownName⟩
      | some c =>
        match Text.dropLast? ')' (text.drop c.opening.length) with
        | none => .error ⟨text, .unclosed⟩
        | some inner => .ok (.construct c inner)

theorem Head.length_inner_lt {table : List Construct} {text inner : Text} {c : Construct}
    (h : Head.read table text = .ok (.construct c inner)) : inner.length < text.length := by
  unfold Head.read at h
  split at h
  · cases h
  · split at h
    · cases h
    · split at h
      · cases h
      · split at h
        · cases h
        · rename_i hd
          cases h
          have := Text.length_dropLast?_lt hd
          simp only [List.length_drop] at this
          omega

def Level.read (table : List Construct) (text : Text) : Except MalformedType Level :=
  match Head.read table text with
  | .error e => .error e
  | .ok (.primitive p) => .ok (.whole (.primitive p))
  | .ok (.construct c inner) => c.keyword.level inner

theorem Level.length_lt_of_mem_parts {table : List Construct} {text part : Text} {level : Level}
    (h : Level.read table text = .ok level) (hp : part ∈ level.parts) : part.length < text.length := by
  unfold Level.read at h
  split at h
  · cases h
  · cases h; simp [Level.parts] at hp
  · rename_i hh
    exact Nat.lt_of_le_of_lt (Keyword.length_le_of_mem_parts h hp) (Head.length_inner_lt hh)

namespace ColumnType

/-- Reads a fragment that holds no blanks. -/
def parseFragment (table : List Construct) (text : Text) : Except MalformedType ColumnType :=
  match _h : Level.read table text with
  | .error e => .error e
  | .ok (.whole type) => .ok type
  | .ok (.array element) => array <$> parseFragment table element
  | .ok (.tuple elements) => tuple <$> elements.attach.mapM fun e => parseFragment table e.val
  | .ok (.map key value) => return map (← parseFragment table key) (← parseFragment table value)
  | .ok (.nullable inner) => nullable <$> parseFragment table inner
termination_by text.length
decreasing_by
  all_goals
    refine Level.length_lt_of_mem_parts (by assumption) ?_
    first | exact e.property | simp [Level.parts]

theorem parseFragment_eq (table : List Construct) (text : Text) :
    parseFragment table text =
      match Level.read table text with
      | .error e => .error e
      | .ok (.whole type) => .ok type
      | .ok (.array element) => array <$> parseFragment table element
      | .ok (.tuple elements) => tuple <$> elements.mapM (parseFragment table)
      | .ok (.map key value) => return map (← parseFragment table key) (← parseFragment table value)
      | .ok (.nullable inner) => nullable <$> parseFragment table inner := by
  rw [parseFragment]
  split <;> simp_all

def parseWith (table : List Construct) (text : Text) : Except MalformedType ColumnType := do
  let fragment := text.withoutBlanks
  checkNesting fragment
  parseFragment table fragment

def parse (text : Text) : Except MalformedType ColumnType := parseWith constructs text

end ColumnType

end ColumnTypes
