import ColumnTypes.Proofs.Segments
import ColumnTypes.View

/-!
The outline of a type without the state it is built with. Adding a type to an outline is a line and
then its children one after the other, each a level further in under its label. So the lines are those
of the nodes in pre-order, whatever the outline held before, and depth and label are back where they
were.
-/

namespace ColumnTypes

open Text

namespace ColumnType

/-! ### Children -/

/-- The types right below a type, each with the label of its first line. -/
def children : ColumnType → List (Option Text × ColumnType)
  | primitive _ | fixedString _ | decimal _ _ | decimal256 _ _ | dateTime64 _ _ => []
  | array element => [(none, element)]
  | tuple elements => elements.zipIdx.map fun (element, position) => (some (Text.ofNat position), element)
  | map key value => [(some "key", key), (some "value", value)]
  | nullable inner => [(none, inner)]

variable {type : ColumnType} {child : Option Text × ColumnType}

theorem mem_of_mem_children_tuple {elements : List ColumnType} (h : child ∈ (tuple elements).children) :
    child.2 ∈ elements := by
  obtain ⟨⟨element, position⟩, hm, rfl⟩ := List.mem_map.1 h
  exact List.fst_mem_of_mem_zipIdx hm

theorem children_induction {motive : ColumnType → Prop}
    (step : ∀ type, (∀ child ∈ type.children, motive child.2) → motive type) (type : ColumnType) :
    motive type := by
  induction type with
  | array element ih => exact step _ (by simpa [children] using ih)
  | tuple elements ih => exact step _ fun child h => ih _ (mem_of_mem_children_tuple h)
  | map key value ihk ihv => exact step _ (by simpa [children] using ⟨ihk, ihv⟩)
  | nullable inner ih => exact step _ (by simpa [children] using ih)
  | _ => exact step _ fun child h => absurd h List.not_mem_nil

theorem sizeOf_lt_of_mem_children (h : child ∈ type.children) : sizeOf child.2 < sizeOf type := by
  cases type with
  | tuple elements =>
    have := List.sizeOf_lt_of_mem (mem_of_mem_children_tuple h)
    rw [tuple.sizeOf_spec]
    omega
  | array element | nullable inner =>
    obtain rfl := List.mem_singleton.1 h
    exact Nat.lt_add_of_pos_left Nat.one_pos
  | map key value =>
    rw [map.sizeOf_spec]
    rcases List.mem_pair.1 h with rfl | rfl <;> dsimp only <;> omega
  | _ => cases h

/-- A type is one level deeper than its deepest child. -/
theorem depth_lt_of_mem_children (h : child ∈ type.children) : child.2.depth < type.depth := by
  cases type with
  | tuple elements =>
    have := deepest_le_iff.1 (Nat.le_refl (deepest elements)) _ (mem_of_mem_children_tuple h)
    rw [depth]
    omega
  | array element | nullable inner =>
    obtain rfl := List.mem_singleton.1 h
    exact Nat.lt_add_of_pos_left Nat.one_pos
  | map key value =>
    rw [depth]
    rcases List.mem_pair.1 h with rfl | rfl <;> dsimp only <;> omega
  | _ => cases h

theorem exists_depth_eq_deepest {elements : List ColumnType} (hne : elements ≠ []) :
    ∃ e ∈ elements, e.depth = deepest elements := by
  induction elements with
  | nil => exact absurd rfl hne
  | cons first rest ih =>
    rw [deepest]
    by_cases hl : deepest rest ≤ first.depth
    · exact ⟨first, List.mem_cons_self, (Nat.max_eq_left hl).symm⟩
    · have hr : rest ≠ [] := by
        rintro rfl
        exact hl (Nat.zero_le _)
      obtain ⟨e, he, hd⟩ := ih hr
      exact ⟨e, List.mem_cons_of_mem _ he, by omega⟩

theorem exists_child_of_depth (type : ColumnType) :
    type.depth = 1 ∨ ∃ child ∈ type.children, child.2.depth + 1 = type.depth := by
  cases type with
  | array element => exact .inr ⟨_, List.mem_singleton_self _, Nat.add_comm _ _⟩
  | nullable inner => exact .inr ⟨_, List.mem_singleton_self _, Nat.add_comm _ _⟩
  | map key value =>
    right
    rcases Nat.le_total key.depth value.depth with h | h
    · exact ⟨(some "value", value), by simp [children], by simp [depth, h, Nat.add_comm]⟩
    · exact ⟨(some "key", key), by simp [children], by simp [depth, h, Nat.add_comm]⟩
  | tuple elements =>
    cases elements with
    | nil => exact .inl rfl
    | cons first rest =>
      right
      obtain ⟨e, he, hd⟩ := exists_depth_eq_deepest (List.cons_ne_nil first rest)
      obtain ⟨i, hi⟩ := List.getElem?_of_mem he
      have hm : (e, i) ∈ (first :: rest).zipIdx := List.mk_mem_zipIdx_iff_getElem?.2 hi
      exact ⟨(some (Text.ofNat i), e), List.mem_map.2 ⟨_, hm, rfl⟩, by rw [depth, hd, Nat.add_comm]⟩
  | _ => exact .inl rfl

/-! ### Nodes -/

/-- A node of a type: how far it is from the root, the label that it stands under, and the type there. -/
structure Node where
  distance : Nat
  label : Option Text
  type : ColumnType
deriving DecidableEq, Repr

/-- The nodes of a type in pre-order, the root at a distance and under a label. -/
def nodesFrom (distance : Nat) (label : Option Text) (type : ColumnType) : List Node :=
  ⟨distance, label, type⟩ ::
    type.children.attach.flatMap fun child => nodesFrom (distance + 1) child.val.1 child.val.2
termination_by type
decreasing_by exact sizeOf_lt_of_mem_children child.property

def nodes (label : Option Text) (type : ColumnType) : List Node := nodesFrom 0 label type

theorem nodesFrom_eq (distance : Nat) (label : Option Text) (type : ColumnType) :
    nodesFrom distance label type =
      ⟨distance, label, type⟩ ::
        type.children.flatMap fun child => nodesFrom (distance + 1) child.1 child.2 := by
  rw [nodesFrom, List.flatMap_subtype (g := fun child => nodesFrom (distance + 1) child.1 child.2)
    fun _ _ => rfl, List.unattach_attach]

mutual

def nodeCount : ColumnType → Nat
  | primitive _ | fixedString _ | decimal _ _ | decimal256 _ _ | dateTime64 _ _ => 1
  | array element => 1 + element.nodeCount
  | tuple elements => 1 + totalNodeCount elements
  | map key value => 1 + key.nodeCount + value.nodeCount
  | nullable inner => 1 + inner.nodeCount

def totalNodeCount : List ColumnType → Nat
  | [] => 0
  | type :: rest => type.nodeCount + totalNodeCount rest

end

theorem map_snd_children_tuple (elements : List ColumnType) :
    (tuple elements).children.map Prod.snd = elements := by
  rw [children, List.map_map]
  exact List.zipIdx_map_fst 0 elements

theorem nodeCount_eq (type : ColumnType) :
    type.nodeCount = 1 + totalNodeCount (type.children.map Prod.snd) := by
  cases type with
  | tuple elements => rw [map_snd_children_tuple, nodeCount]
  | map key value => exact Nat.add_assoc 1 key.nodeCount value.nodeCount
  | _ => rfl

theorem length_flatMap_eq {children : List (Option Text × ColumnType)}
    {listed : Option Text × ColumnType → List Node}
    (h : ∀ child ∈ children, (listed child).length = child.2.nodeCount) :
    (children.flatMap listed).length = totalNodeCount (children.map Prod.snd) := by
  induction children with
  | nil => rfl
  | cons child others ih =>
    obtain ⟨hc, ho⟩ := List.forall_mem_cons.1 h
    rw [List.flatMap_cons, List.length_append, hc, ih ho]
    rfl

/-- No node is listed twice and none is left out. -/
theorem length_nodesFrom (distance : Nat) (label : Option Text) (type : ColumnType) :
    (nodesFrom distance label type).length = type.nodeCount := by
  induction type using children_induction generalizing distance label with
  | step type ih =>
    rw [nodesFrom_eq, List.length_cons, length_flatMap_eq fun child h => ih child h _ _, nodeCount_eq,
      Nat.add_comm]

/-- What passes from a node to the nodes right below it passes from the root to every node. -/
theorem forall_mem_nodesFrom {P : Node → Prop} {distance : Nat} {label : Option Text}
    (step : ∀ node child, P node → child ∈ node.type.children → P ⟨node.distance + 1, child.1, child.2⟩)
    (h : P ⟨distance, label, type⟩) : ∀ node ∈ nodesFrom distance label type, P node := by
  induction type using children_induction generalizing distance label with
  | step type ih =>
    intro node hn
    rw [nodesFrom_eq] at hn
    rcases List.mem_cons.1 hn with rfl | hn
    · exact h
    · obtain ⟨child, hc, hn⟩ := List.mem_flatMap.1 hn
      exact ih child hc (step _ child h hc) node hn

theorem distance_lt_of_mem_nodesFrom {node : Node} {distance : Nat} {label : Option Text}
    (h : node ∈ nodesFrom distance label type) : node.distance < distance + type.depth := by
  have hd : node.distance + node.type.depth ≤ distance + type.depth := by
    refine forall_mem_nodesFrom (P := fun node => node.distance + node.type.depth ≤ distance + type.depth)
      (fun node child hp hc => ?_) (Nat.le_refl _) node h
    have := depth_lt_of_mem_children hc
    dsimp only
    omega
  have : node.type.depth ≠ 0 := by cases node.type <;> simp [depth]
  omega

theorem exists_deepest_node (distance : Nat) (label : Option Text) (type : ColumnType) :
    ∃ node ∈ nodesFrom distance label type, node.distance + 1 = distance + type.depth := by
  induction type using children_induction generalizing distance label with
  | step type ih =>
    rw [nodesFrom_eq]
    rcases type.exists_child_of_depth with hd | ⟨child, hc, hd⟩
    · exact ⟨_, List.mem_cons_self, by rw [hd]⟩
    · obtain ⟨node, hn, he⟩ := ih child hc (distance + 1) child.1
      exact ⟨node, List.mem_cons_of_mem _ (List.mem_flatMap.2 ⟨child, hc, hn⟩), by omega⟩

/-! ### Lines -/

def kindName : ColumnType → Text
  | primitive p => p.name
  | fixedString _ => "FixedString"
  | decimal _ _ => "Decimal"
  | decimal256 _ _ => "Decimal256"
  | dateTime64 _ _ => "DateTime64"
  | array _ => "Array"
  | tuple _ => "Tuple"
  | map _ _ => "Map"
  | nullable _ => "Nullable"

/-- What is told of a type besides its kind and its children, by names. -/
def parameters : ColumnType → List (Text × Text)
  | fixedString length => [("length", Text.ofNat length.toNat)]
  | decimal precision scale | decimal256 precision scale =>
    [("precision", Text.ofNat precision.toNat), ("scale", Text.ofNat scale.toNat)]
  | dateTime64 precision timezone =>
    ("precision", Text.ofNat precision.toNat) ::
      ("unit", ((TimeUnit.ofPrecision? precision).map TimeUnit.symbol).getD "?") ::
      timezone.toList.map fun timezone => ("timezone", timezone)
  | _ => []

/-- The parameters in parentheses, if there are any, each value after its name. -/
def listed (parameters : List (Text × Text)) : Text :=
  if parameters.isEmpty then []
  else '(' :: join ", " (parameters.map fun (name, value) => name ++ '=' :: value) ++ [')']

/-- The line of a node in an outline whose root is at `depth`: two spaces for each level, the label of the
node, and the kind of the type there with its parameters. -/
def Node.line (depth : Nat) (node : Node) : Text :=
  List.replicate (2 * (depth + node.distance)) ' ' ++
    node.label.elim [] (· ++ [':', ' ']) ++
    node.type.kindName ++ listed node.type.parameters

theorem listed_cons_cons (name value name' value' : Text) (later : List (Text × Text)) :
    listed ((name, value) :: (name', value') :: later) =
      '(' :: name ++ '=' :: value ++ ", " ++ (listed ((name', value') :: later)).tail := by
  simp [listed, join_cons_cons]

theorem listed_singleton (name value : Text) :
    listed [(name, value)] = '(' :: name ++ '=' :: value ++ [')'] := by
  simp [listed, join]

theorem heading_eq (type : ColumnType) : type.heading = type.kindName ++ listed type.parameters := by
  -- the numbers are put aside so that none of them is taken apart
  cases type with
  | primitive p => exact (List.append_nil p.name).symm
  | fixedString length =>
    dsimp only [heading, kindName, parameters]
    generalize Text.ofNat length.toNat = l
    rw [listed_singleton]
    rfl
  | decimal precision scale | decimal256 precision scale =>
    dsimp only [heading, kindName, parameters]
    generalize Text.ofNat precision.toNat = p
    generalize Text.ofNat scale.toNat = s
    rw [listed_cons_cons, listed_singleton]
    simp
  | dateTime64 precision timezone =>
    dsimp only [heading, kindName, parameters]
    generalize Text.ofNat precision.toNat = p
    generalize ((TimeUnit.ofPrecision? precision).map TimeUnit.symbol).getD "?" = u
    cases timezone with
    | none =>
      rw [Option.toList_none, List.map_nil, listed_cons_cons, listed_singleton]
      simp
    | some timezone =>
      rw [Option.toList_some, List.map_singleton, listed_cons_cons, listed_cons_cons, listed_singleton]
      simp
  | _ => rfl

theorem Node.line_eq (depth : Nat) (node : Node) :
    node.line depth = Outline.indented (depth + node.distance) node.label node.type.heading := by
  obtain ⟨distance, label, type⟩ := node
  rw [line, List.append_assoc, ← heading_eq]
  cases label with
  | none => exact congrArg (· ++ _) (List.append_nil _)
  | some label => exact List.append_assoc _ _ _

end ColumnType

namespace Outline

variable {o : Outline} {a b : List Text}

/-- An outline with more lines and its label used up. -/
def extend (lines : List Text) (o : Outline) : Outline := ⟨o.depth, none, o.lines ++ lines.toArray⟩

theorem extend_nil (h : o.label = none) : o.extend [] = o := by
  obtain ⟨depth, label, lines⟩ := o
  simp_all [extend]

theorem extend_extend : (o.extend a).extend b = o.extend (a ++ b) := by
  simp [extend]

theorem indented_succ (depth : Nat) (label : Option Text) (text : Text) :
    indented (depth + 1) label text = ' ' :: ' ' :: indented depth label text := rfl

theorem addLine_eq (text : Text) (o : Outline) :
    o.addLine text = o.extend [indented o.depth o.label text] := by
  simp [addLine, extend]

theorem leave_extend_enter (label : Option Text) (o : Outline) (lines : List Text) :
    ((o.enter label).extend lines).leave = o.extend lines := rfl

end Outline

namespace ColumnType

def addChild (o : Outline) (child : Option Text × ColumnType) : Outline :=
  (child.2.addTo (o.enter child.1)).leave

theorem addElements_eq_foldl (position : Nat) (elements : List ColumnType) (o : Outline) :
    addElements position elements o =
      ((elements.zipIdx position).map fun (element, i) => (some (Text.ofNat i), element)).foldl addChild o := by
  induction elements generalizing position o with
  | nil => rfl
  | cons type rest ih => rw [addElements, ih]; rfl

theorem addTo_eq_foldl (type : ColumnType) (o : Outline) :
    type.addTo o = type.children.foldl addChild (o.addLine type.heading) := by
  cases type with
  | tuple elements => rw [addTo, addElements_eq_foldl]; rfl
  | _ => rfl

def linesFrom (depth distance : Nat) (label : Option Text) (type : ColumnType) : List Text :=
  (nodesFrom distance label type).map (Node.line depth)

theorem linesFrom_eq (depth distance : Nat) (label : Option Text) (type : ColumnType) :
    linesFrom depth distance label type =
      Outline.indented (depth + distance) label type.heading ::
        type.children.flatMap fun child => linesFrom depth (distance + 1) child.1 child.2 := by
  rw [linesFrom, nodesFrom_eq, List.map_cons, List.map_flatMap, Node.line_eq]
  rfl

/-- If each child extends an outline by some lines, all of them do by all these lines. -/
theorem foldl_addChild {children : List (Option Text × ColumnType)} {o : Outline}
    {lines : Option Text × ColumnType → List Text} (hl : o.label = none)
    (h : ∀ child ∈ children, ∀ o' : Outline, o'.depth = o.depth → addChild o' child = o'.extend (lines child)) :
    children.foldl addChild o = o.extend (children.flatMap lines) := by
  induction children generalizing o with
  | nil => exact (Outline.extend_nil hl).symm
  | cons child rest ih =>
    obtain ⟨hc, hr⟩ := List.forall_mem_cons.1 h
    rw [List.foldl_cons, hc o rfl, ih (o := o.extend (lines child)) rfl hr, Outline.extend_extend,
      List.flatMap_cons]

theorem addTo_eq_extend {depth distance : Nat} {o : Outline} (hd : o.depth = depth + distance) :
    type.addTo o = o.extend (linesFrom depth distance o.label type) := by
  induction type using children_induction generalizing distance o with
  | step type ih =>
    rw [addTo_eq_foldl, linesFrom_eq, Outline.addLine_eq, foldl_addChild rfl, Outline.extend_extend, hd]
    · rfl
    · intro child hc o' hd'
      have hd' : (o'.enter child.1).depth = depth + (distance + 1) := by
        rw [← Nat.add_assoc, ← hd]
        exact congrArg (· + 1) hd'
      rw [addChild, ih child hc hd', Outline.leave_extend_enter]
      rfl

/-! ### Outlines of types and of schemas -/

/-- The lines of the outline of a type that stands alone. -/
def outlineLines (type : ColumnType) : List Text := (type.addTo (.startAt 0)).lines.toList

theorem lines_addTo_startAt (depth : Nat) (type : ColumnType) :
    (type.addTo (.startAt depth)).lines.toList = linesFrom depth 0 none type := by
  have hd : (Outline.startAt depth).depth = depth + 0 := rfl
  rw [addTo_eq_extend hd]
  simp [Outline.extend, Outline.startAt]

/-- A level further in, every line has two spaces more. -/
theorem linesFrom_succ (depth distance : Nat) (label : Option Text) (type : ColumnType) :
    linesFrom (depth + 1) distance label type =
      (linesFrom depth distance label type).map fun line => ' ' :: ' ' :: line := by
  rw [linesFrom, linesFrom, List.map_map]
  refine List.map_congr_left fun node _ => ?_
  rw [Function.comp_apply, Node.line_eq, Node.line_eq, Nat.add_right_comm, Outline.indented_succ]

theorem map_outlineLines (type : ColumnType) :
    (type.outlineLines.map fun line => ' ' :: ' ' :: line) = linesFrom 1 0 none type := by
  rw [outlineLines, lines_addTo_startAt, linesFrom_succ]

end ColumnType

namespace Schema

/-- The name of a column, and the lines of its type with two spaces more. -/
def outlineLines (schema : Schema) : List Text :=
  schema.columns.flatMap fun column =>
    column.name :: column.type.outlineLines.map fun line => ' ' :: ' ' :: line

theorem view_tree (schema : Schema) : schema.view (some .tree) = join ['\n'] schema.outlineLines := by
  rw [outlineLines, ← join_map_join fun _ _ => List.cons_ne_nil _ _]
  refine congrArg (join ['\n']) (List.map_congr_left fun column _ => ?_)
  rw [Column.outline, Outline.text, ColumnType.lines_addTo_startAt, ColumnType.map_outlineLines,
    ColumnType.linesFrom_eq, join_cons_cons]
  rfl

end Schema

/-- Adding a type leaves the depth of an outline as it is and its label used up, and adds the lines of
the nodes in pre-order, one line a node. They reach as deep as the type. In the outline of a schema the
lines of a type follow the name of its column, each with two spaces more than where the type stands
alone. -/
theorem addTo_eq_listing :
    (∀ (type : ColumnType) (o : Outline),
      type.addTo o =
        ⟨o.depth, none, o.lines ++ ((type.nodes o.label).map (ColumnType.Node.line o.depth)).toArray⟩) ∧
    (∀ (type : ColumnType) (label : Option Text), (type.nodes label).length = type.nodeCount ∧
      ∀ depth, ((type.nodes label).map fun node => 2 * (depth + node.distance)).max? =
        some (2 * (depth + type.depth - 1))) ∧
    (∀ type : ColumnType, type.outline = join ['\n'] type.outlineLines) ∧
    ∀ schema : Schema, schema.view (some .tree) =
      join ['\n'] (schema.columns.flatMap fun column =>
        column.name :: column.type.outlineLines.map (("  " : Text) ++ ·)) := by
  refine ⟨fun type o => ?_, fun type label => ⟨?_, fun depth => ?_⟩, fun _ => rfl, Schema.view_tree⟩
  · exact ColumnType.addTo_eq_extend rfl
  · exact ColumnType.length_nodesFrom 0 label type
  · rw [List.max?_eq_some_iff]
    obtain ⟨node, hm, hd⟩ := ColumnType.exists_deepest_node 0 label type
    refine ⟨List.mem_map.2 ⟨node, hm, by omega⟩, fun indent hi => ?_⟩
    obtain ⟨node, hm, rfl⟩ := List.mem_map.1 hi
    have := ColumnType.distance_lt_of_mem_nodesFrom hm
    omega

end ColumnTypes
