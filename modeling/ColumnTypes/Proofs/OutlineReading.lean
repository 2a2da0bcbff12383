import ColumnTypes.Proofs.OutlineNodes
import ColumnTypes.Proofs.Spelling

/-!
An outline has only one reading. A heading tells the kind of a type and its parameters, so it settles
which labels can stand below it, but not how many children there are: these end where a line is not as
far in. So two types with the same lines are compared together with what comes after them.
-/

namespace ColumnTypes

open Text

/-! ### Headings -/

/-- A number ends where its digits end. -/
theorem Text.ofNat_append_cons_inj {m n : Nat} {c c' : Char} {a b : Text} (hc : c.isDigit = false)
    (hc' : c'.isDigit = false) (h : ofNat m ++ c :: a = ofNat n ++ c' :: b) :
    m = n ∧ c :: a = c' :: b := by
  obtain ⟨ht, hd⟩ := takeWhile_dropWhile_eq_iff.2 ⟨rfl, (Numeral.ofNat m).digit, hc⟩
  obtain ⟨ht', hd'⟩ := takeWhile_dropWhile_eq_iff.2 ⟨h, (Numeral.ofNat n).digit, hc'⟩
  have hn : ofNat m = ofNat n := ht.symm.trans ht'
  refine ⟨?_, hd.symm.trans hd'⟩
  rw [← (Numeral.ofNat m).value, hn, (Numeral.ofNat n).value]

namespace ColumnType

variable {m n type : ColumnType} {child : Option Text × ColumnType}

/-- The keyword of a type that has parameters. -/
def keyword? : ColumnType → Option Keyword
  | primitive _ => none
  | fixedString _ => some .fixedString
  | decimal _ _ => some .decimal
  | decimal256 _ _ => some .decimal256
  | dateTime64 _ _ => some .dateTime64
  | array _ => some .array
  | tuple _ => some .tuple
  | map _ _ => some .map
  | nullable _ => some .nullable

/-- The keyword that stands in a heading before any parenthesis. -/
def headingKeyword? (heading : Text) : Option Keyword :=
  (constructs.find? fun c => c.opening.dropLast == heading.takeWhile (· ≠ '(')).map (·.keyword)

theorem headingKeyword?_heading (type : ColumnType) : headingKeyword? type.heading = type.keyword? := by
  cases type with
  | primitive p => cases p <;> decide
  | _ => rfl

theorem keyword?_eq_of_heading_eq (h : m.heading = n.heading) : m.keyword? = n.keyword? := by
  rw [← headingKeyword?_heading, h, headingKeyword?_heading]

theorem heading_primitive_inj {p q : Primitive} (h : (primitive p).heading = (primitive q).heading) :
    p = q := by
  have hp : Primitive.ofName? p.name = Primitive.ofName? q.name := congrArg _ h
  rw [Primitive.ofName?_name, Primitive.ofName?_name] at hp
  exact Option.some.inj hp

theorem heading_fixedString_inj {a b : UInt64}
    (h : (fixedString a).heading = (fixedString b).heading) : a = b := by
  dsimp only [heading] at h
  simp only [List.append_assoc, List.append_cancel_left_eq] at h
  obtain ⟨hl, -⟩ := Text.ofNat_append_cons_inj rfl rfl h
  exact UInt64.toNat_inj.1 hl

/-- Both kinds of decimals have precision and scale at the same places after their openings. -/
theorem heading_decimal_inj {opening : Text} {p s p' s' : UInt32}
    (h : opening ++ Text.ofNat p.toNat ++ ", scale=" ++ Text.ofNat s.toNat ++ ")" =
      opening ++ Text.ofNat p'.toNat ++ ", scale=" ++ Text.ofNat s'.toNat ++ ")") :
    p = p' ∧ s = s' := by
  simp only [List.append_assoc, List.append_cancel_left_eq] at h
  obtain ⟨hp, -⟩ := Text.ofNat_append_cons_inj rfl rfl h
  obtain rfl := UInt32.toNat_inj.1 hp
  rw [List.append_cancel_left_eq, List.append_cancel_left_eq] at h
  obtain ⟨hs, -⟩ := Text.ofNat_append_cons_inj rfl rfl h
  exact ⟨rfl, UInt32.toNat_inj.1 hs⟩

/-- The unit follows from the precision, so what is left is the timezone or nothing. -/
theorem heading_dateTime64_inj {p p' : UInt8} {zone zone' : Option Text}
    (h : (dateTime64 p zone).heading = (dateTime64 p' zone').heading) : p = p' ∧ zone = zone' := by
  dsimp only [heading] at h
  simp only [List.append_assoc, List.append_cancel_left_eq] at h
  obtain ⟨hp, -⟩ := Text.ofNat_append_cons_inj rfl rfl h
  obtain rfl := UInt8.toNat_inj.1 hp
  simp only [List.append_cancel_left_eq, List.append_cancel_right_eq] at h
  cases zone <;> cases zone' <;> simp_all

/-- Heading and children make up a type. -/
theorem eq_of_heading_eq (hh : m.heading = n.heading) (hc : m.children = n.children) : m = n := by
  have hk : m.keyword? = n.keyword? := keyword?_eq_of_heading_eq hh
  cases m with
  | primitive p =>
    cases n with
    | primitive q => rw [heading_primitive_inj hh]
    | _ => cases hk
  | fixedString a =>
    cases n with
    | fixedString b => rw [heading_fixedString_inj hh]
    | _ => cases hk
  | decimal p s =>
    cases n with
    | decimal p' s' =>
      obtain ⟨rfl, rfl⟩ := heading_decimal_inj hh
      rfl
    | _ => cases hk
  | decimal256 p s =>
    cases n with
    | decimal256 p' s' =>
      obtain ⟨rfl, rfl⟩ := heading_decimal_inj hh
      rfl
    | _ => cases hk
  | dateTime64 p zone =>
    cases n with
    | dateTime64 p' zone' =>
      obtain ⟨rfl, rfl⟩ := heading_dateTime64_inj hh
      rfl
    | _ => cases hk
  | array element =>
    cases n with
    | array element' => simp_all [children]
    | _ => cases hk
  | tuple elements =>
    cases n with
    | tuple elements' => rw [← map_snd_children_tuple elements, hc, map_snd_children_tuple]
    | _ => cases hk
  | map key value =>
    cases n with
    | map key' value' => simp_all [children]
    | _ => cases hk
  | nullable inner =>
    cases n with
    | nullable inner' => simp_all [children]
    | _ => cases hk

/-! ### Labels -/

/-- The label of the child at a position below a type with a keyword. -/
def childLabel : Option Keyword → Nat → Option Text
  | some .tuple, position => some (Text.ofNat position)
  | some .map, 0 => some "key"
  | some .map, _ => some "value"
  | _, _ => none

theorem blankless_childLabel (keyword : Option Keyword) (position : Nat) :
    ∀ label ∈ childLabel keyword position, Blankless label := by
  intro label h
  unfold childLabel at h
  split at h
  · obtain rfl := Option.some.inj h
    exact blankless_ofNat _
  · obtain rfl := Option.some.inj h
    decide
  · obtain rfl := Option.some.inj h
    decide
  · cases h

/-- Every child has the label of its position. -/
def LabelledBy (labels : Nat → Option Text) (children : List (Option Text × ColumnType)) : Prop :=
  ∀ (position : Nat) child, children[position]? = some child → child.1 = labels position

theorem LabelledBy.uncons {labels : Nat → Option Text} {children : List (Option Text × ColumnType)}
    (h : LabelledBy labels (child :: children)) :
    child.1 = labels 0 ∧ LabelledBy (fun position => labels (position + 1)) children :=
  ⟨h 0 child rfl, fun position other ho => h (position + 1) other ho⟩

theorem labelledBy_children (type : ColumnType) : LabelledBy (childLabel type.keyword?) type.children := by
  intro position child h
  cases type with
  | tuple elements =>
    rw [children, List.getElem?_map, List.getElem?_zipIdx] at h
    cases he : elements[position]? with
    | none => simp [he] at h
    | some element =>
      simp [he] at h
      rw [← h]
      rfl
  | array element | nullable inner =>
    obtain rfl := List.mem_singleton.1 (List.mem_of_getElem? h)
    rfl
  | map key value =>
    rcases position with _ | _ | position
    · cases h
      rfl
    · cases h
      rfl
    · cases h
  | _ => cases h

theorem LabelledBy.blankless {labels : Nat → Option Text} {children : List (Option Text × ColumnType)}
    (h : LabelledBy labels children) (hb : ∀ position, ∀ label ∈ labels position, Blankless label) :
    ∀ child ∈ children, ∀ label ∈ child.1, Blankless label := by
  intro child hc
  obtain ⟨position, hp⟩ := List.getElem?_of_mem hc
  rw [h position child hp]
  exact hb position

end ColumnType

/-! ### Lines that are not as far in -/

/-- No space stands at the front. -/
def Text.BeginsVisibly (text : Text) : Prop := text.head? ≠ some ' '

theorem Text.Blankless.beginsVisibly {text : Text} (h : Blankless text) : BeginsVisibly text :=
  fun hs => absurd (h ' ' (List.mem_of_mem_head? hs)) (by decide)

theorem ColumnType.beginsVisibly_heading (type : ColumnType) : BeginsVisibly type.heading := by
  cases type with
  | primitive p => exact (blankless_name p).beginsVisibly
  | _ => exact fun h => by cases h

/-- The first of the lines, if there is one, does not stand below a node at `depth`. -/
def Outdented (depth : Nat) (lines : List Text) : Prop :=
  ∀ line ∈ lines.head?, ¬List.replicate (2 * (depth + 1)) ' ' <+: line

namespace Outdented

variable {depth : Nat} {line : Text} {lines : List Text}

theorem nil : Outdented depth [] := by
  intro line h
  cases h

theorem cons_iff : Outdented depth (line :: lines) ↔ ¬List.replicate (2 * (depth + 1)) ' ' <+: line := by
  simp [Outdented]

theorem succ (h : Outdented depth lines) : Outdented (depth + 1) lines := by
  intro line hl hp
  have hs : 2 * (depth + 1 + 1) = 2 * (depth + 1) + 2 := by omega
  rw [hs, List.replicate_add] at hp
  exact h line hl ((List.prefix_append _ _).trans hp)

theorem cons_spaces (h : BeginsVisibly line) :
    Outdented depth ((List.replicate (2 * depth) ' ' ++ line) :: lines) := by
  have hr : List.replicate (2 * (depth + 1)) ' ' = List.replicate (2 * depth) ' ' ++ [' ', ' '] := by
    rw [Nat.mul_succ, List.replicate_add]
    rfl
  rw [cons_iff, hr, List.prefix_append_right_inj]
  rintro ⟨rest, rfl⟩
  exact h rfl

theorem cons_indented {label : Option Text} {text : Text} (hl : ∀ l ∈ label, Blankless l)
    (ht : BeginsVisibly text) : Outdented depth (Outline.indented depth label text :: lines) := by
  cases label with
  | none => exact cons_spaces ht
  | some label =>
    refine cons_spaces ?_
    cases label with
    | nil => exact fun h => by cases h
    | cons c more => exact (hl _ rfl).beginsVisibly

end Outdented

/-! ### Comparing lines -/

theorem Outline.indented_inj {depth : Nat} {label : Option Text} {a b : Text}
    (h : indented depth label a = indented depth label b) : a = b := by
  replace h := List.append_cancel_left h
  cases label with
  | none => exact h
  | some label => exact List.append_cancel_left h

namespace ColumnType

variable {m n : ColumnType} {depth distance : Nat} {label : Option Text} {rest rest' : List Text}

/-- The lines of children whose parent is at a distance. -/
def childLines (depth distance : Nat) (children : List (Option Text × ColumnType)) : List Text :=
  children.flatMap fun child => linesFrom depth (distance + 1) child.1 child.2

/-- No other type has the same lines, whatever comes after them that is not as far in. -/
def ToldByLines (depth distance : Nat) (type : ColumnType) : Prop :=
  ∀ label other rest rest', Outdented (depth + distance) rest → Outdented (depth + distance) rest' →
    linesFrom depth distance label type ++ rest = linesFrom depth distance label other ++ rest' →
    type = other ∧ rest = rest'

theorem not_outdented_childLines {child : Option Text × ColumnType}
    {children : List (Option Text × ColumnType)} :
    ¬Outdented (depth + distance) (childLines depth distance (child :: children) ++ rest) := by
  rw [childLines, List.flatMap_cons, linesFrom_eq, List.cons_append, List.cons_append,
    Outdented.cons_iff, not_not]
  exact List.prefix_append _ _

/-- After the lines of one child come those of the next, or what follows them all. -/
theorem outdented_childLines {children : List (Option Text × ColumnType)}
    (hl : ∀ child ∈ children, ∀ label ∈ child.1, Blankless label) (hr : Outdented (depth + distance) rest) :
    Outdented (depth + (distance + 1)) (childLines depth distance children ++ rest) := by
  cases children with
  | nil => exact hr.succ
  | cons child others =>
    rw [childLines, List.flatMap_cons, linesFrom_eq]
    exact .cons_indented (hl child List.mem_cons_self) child.2.beginsVisibly_heading

/-- Two lists of children that are labelled alike agree if their lines do, once each child is told by its
lines. -/
theorem childLines_append_inj {children children' : List (Option Text × ColumnType)}
    {labels : Nat → Option Text} (hb : ∀ position, ∀ label ∈ labels position, Blankless label)
    (hl : LabelledBy labels children) (hl' : LabelledBy labels children')
    (hc : ∀ child ∈ children, ToldByLines depth (distance + 1) child.2)
    (hr : Outdented (depth + distance) rest) (hr' : Outdented (depth + distance) rest')
    (h : childLines depth distance children ++ rest = childLines depth distance children' ++ rest') :
    children = children' ∧ rest = rest' := by
  induction children generalizing children' labels with
  | nil =>
    cases children' with
    | nil => exact ⟨rfl, h⟩
    | cons child' others' =>
      -- a line of the other type would have to be one of the lines that follow
      obtain rfl : rest = _ := h
      exact absurd hr not_outdented_childLines
  | cons child others ih =>
    cases children' with
    | nil =>
      obtain rfl : rest' = _ := h.symm
      exact absurd hr' not_outdented_childLines
    | cons child' others' =>
      obtain ⟨he, hl⟩ := hl.uncons
      obtain ⟨he', hl'⟩ := hl'.uncons
      obtain ⟨hc, ho⟩ := List.forall_mem_cons.1 hc
      have hb : ∀ position, ∀ label ∈ labels (position + 1), Blankless label := fun _ => hb _
      rw [childLines, childLines, List.flatMap_cons, List.flatMap_cons, List.append_assoc,
        List.append_assoc, he, he'] at h
      obtain ⟨ht, h⟩ := hc _ _ _ _ (outdented_childLines (hl.blankless hb) hr)
        (outdented_childLines (hl'.blankless hb) hr') h
      obtain ⟨rfl, rfl⟩ := ih hb hl hl' ho h
      exact ⟨by rw [Prod.ext (he.trans he'.symm) ht], rfl⟩

/-- The first line tells the type apart from its children, and the lines below it the children. -/
theorem toldByLines (type : ColumnType) : ToldByLines depth distance type := by
  induction type using children_induction generalizing distance with
  | step m ih =>
    intro label n rest rest' hr hr' h
    -- nothing is known of the other type yet but that it stands at the same place
    rw [linesFrom_eq, linesFrom_eq, List.cons_append, List.cons_append, List.cons.injEq] at h
    obtain ⟨hi, h⟩ := h
    have hh : m.heading = n.heading := Outline.indented_inj hi
    have hk : m.keyword? = n.keyword? := keyword?_eq_of_heading_eq hh
    obtain ⟨hc, hr⟩ := childLines_append_inj (blankless_childLabel _) m.labelledBy_children
      (hk ▸ n.labelledBy_children) (fun child hm => ih child hm) hr hr' h
    exact ⟨eq_of_heading_eq hh hc, hr⟩

/-! ### Line feeds -/

/-- The timezone of a time stamp, if it has one. -/
def timezone? : ColumnType → Option Text
  | dateTime64 _ timezone => timezone
  | _ => none

/-- No timezone in the type has a line feed. -/
inductive OneLine : ColumnType → Prop
  | intro {type : ColumnType} (hz : ∀ zone ∈ type.timezone?, '\n' ∉ zone)
    (hc : ∀ child ∈ type.children, OneLine child.2) : OneLine type

theorem OneLine.timezone {type : ColumnType} : type.OneLine → ∀ zone ∈ type.timezone?, '\n' ∉ zone
  | .intro hz _ => hz

theorem OneLine.of_mem_nodesFrom {type : ColumnType} {node : Node} (h : type.OneLine)
    (hn : node ∈ nodesFrom distance label type) : node.type.OneLine :=
  forall_mem_nodesFrom (P := fun node => node.type.OneLine) (fun _ child ⟨_, hc⟩ hm => hc child hm) h
    node hn

theorem OneLine.of_elements {elements : List ColumnType} (h : ∀ e ∈ elements, e.OneLine) :
    (tuple elements).OneLine :=
  .intro (fun _ hz => by cases hz) fun _ hc => h _ (mem_of_mem_children_tuple hc)

theorem newline_notMem_of_blankless {text : Text} (h : Blankless text) : '\n' ∉ text :=
  fun hm => absurd (h '\n' hm) (by decide)

theorem newline_notMem_ofNat (n : Nat) : '\n' ∉ Text.ofNat n :=
  newline_notMem_of_blankless (blankless_ofNat n)

theorem newline_notMem_heading {type : ColumnType} (hz : ∀ zone ∈ type.timezone?, '\n' ∉ zone) :
    '\n' ∉ type.heading := by
  have hn := newline_notMem_ofNat
  cases type with
  | primitive p => exact newline_notMem_of_blankless (blankless_name p)
  | fixedString length =>
    dsimp only [heading]
    simp only [List.mem_append, not_or]
    exact ⟨⟨by decide, hn _⟩, by decide⟩
  | decimal p s | decimal256 p s =>
    dsimp only [heading]
    simp only [List.mem_append, not_or]
    exact ⟨⟨⟨⟨by decide, hn _⟩, by decide⟩, hn _⟩, by decide⟩
  | dateTime64 p zone =>
    dsimp only [heading]
    simp only [List.mem_append, not_or]
    refine ⟨⟨⟨⟨⟨by decide, hn _⟩, by decide⟩, ?_⟩, ?_⟩, by decide⟩
    · cases TimeUnit.ofPrecision? p with
      | none => decide
      | some unit => cases unit <;> decide
    · cases zone with
      | none => exact List.not_mem_nil
      | some zone => exact List.not_mem_append (by decide) (hz zone rfl)
  | _ =>
    dsimp only [heading]
    decide

theorem blankless_label_of_mem_nodes {type : ColumnType} {node : Node} (h : node ∈ type.nodes none) :
    ∀ l ∈ node.label, Blankless l := by
  refine forall_mem_nodesFrom (P := fun node => ∀ l ∈ node.label, Blankless l)
    (fun node child _ hc => ?_) (fun l hl => by cases hl) node h
  exact node.type.labelledBy_children.blankless (blankless_childLabel _) child hc

theorem OneLine.newline_notMem {type : ColumnType} (h : type.OneLine) :
    ∀ line ∈ linesFrom depth 0 none type, '\n' ∉ line := by
  refine List.forall_mem_map.2 fun node hn => ?_
  rw [Node.line_eq]
  have hl : ∀ l ∈ node.label, Blankless l := blankless_label_of_mem_nodes hn
  have hh : '\n' ∉ node.type.heading := newline_notMem_heading (h.of_mem_nodesFrom hn).timezone
  have hs : '\n' ∉ List.replicate (2 * (depth + node.distance)) ' ' := fun hm =>
    absurd (List.eq_of_mem_replicate hm) (by decide)
  obtain ⟨d, label, type⟩ := node
  cases label with
  | none => exact List.not_mem_append hs hh
  | some label =>
    refine List.not_mem_append hs (List.not_mem_append (List.not_mem_append ?_ (by decide)) hh)
    exact newline_notMem_of_blankless (hl label rfl)

theorem outline_inj (hm : m.OneLine) (hn : n.OneLine) (h : m.outline = n.outline) : m = n := by
  have ho (type : ColumnType) : type.outline = join ['\n'] (linesFrom 0 0 none type) :=
    congrArg (join ['\n']) (lines_addTo_startAt 0 type)
  have hne (type : ColumnType) : linesFrom 0 0 none type ≠ [] := by
    rw [linesFrom_eq]
    exact List.cons_ne_nil _ _
  rw [ho, ho] at h
  have hl := join_inj (hne m) (hne n) hm.newline_notMem hn.newline_notMem h
  exact (m.toldByLines none n [] [] .nil .nil (congrArg (· ++ []) hl)).1

/-- Below a well-formed type there are only well-formed types. -/
theorem wellFormed_of_mem_children {type : ColumnType} {child : Option Text × ColumnType}
    (h : WellFormed type) (hc : child ∈ type.children) : WellFormed child.2 := by
  cases h with
  | array he | nullable he =>
    obtain rfl := List.mem_singleton.1 hc
    exact he
  | tuple _ he => exact he _ (mem_of_mem_children_tuple hc)
  | map hk hv => rcases List.mem_pair.1 hc with rfl | rfl <;> assumption
  | _ => cases hc

theorem oneLine_of_wellFormed {type : ColumnType} (h : WellFormed type) : type.OneLine := by
  induction type using children_induction with
  | step type ih =>
    refine .intro (fun zone hz => ?_) fun child hc => ih child hc (wellFormed_of_mem_children h hc)
    cases h with
    | dateTime64 _ hb => exact newline_notMem_of_blankless (hb zone hz).2
    | _ => cases hz

end ColumnType

namespace Schema

variable {schema other : Schema} {columns columns' : List Column}

theorem outlineLines_cons (column : Column) (others : List Column) :
    outlineLines ⟨column :: others⟩ =
      column.name :: (ColumnType.linesFrom 1 0 none column.type ++ outlineLines ⟨others⟩) := by
  rw [outlineLines, List.flatMap_cons, ColumnType.map_outlineLines]
  rfl

theorem newline_notMem_outlineLines
    (h : ∀ column ∈ schema.columns, Blankless column.name ∧ column.type.OneLine) :
    ∀ line ∈ schema.outlineLines, '\n' ∉ line := by
  intro line hl
  obtain ⟨column, hc, hl⟩ := List.mem_flatMap.1 hl
  obtain ⟨hn, ht⟩ := h column hc
  rw [ColumnType.map_outlineLines] at hl
  rcases List.mem_cons.1 hl with rfl | hl
  · exact ColumnType.newline_notMem_of_blankless hn
  · exact ht.newline_notMem line hl

/-- After the lines of one column comes the name of the next, or nothing. -/
theorem outdented_outlineLines (hn : ∀ column ∈ columns, Blankless column.name) :
    Outdented 1 (outlineLines ⟨columns⟩) := by
  cases columns with
  | nil => exact .nil
  | cons column others =>
    have h0 : Outdented 0 (outlineLines ⟨column :: others⟩) :=
      .cons_spaces (hn column List.mem_cons_self).beginsVisibly
    exact h0.succ

theorem outlineLines_inj (hn : ∀ column ∈ columns, Blankless column.name)
    (hn' : ∀ column ∈ columns', Blankless column.name)
    (h : outlineLines ⟨columns⟩ = outlineLines ⟨columns'⟩) : columns = columns' := by
  induction columns generalizing columns' with
  | nil =>
    cases columns' with
    | nil => rfl
    | cons column' others' => cases h
  | cons column others ih =>
    cases columns' with
    | nil => cases h
    | cons column' others' =>
      obtain ⟨-, ho⟩ := List.forall_mem_cons.1 hn
      obtain ⟨-, ho'⟩ := List.forall_mem_cons.1 hn'
      rw [outlineLines_cons, outlineLines_cons, List.cons.injEq] at h
      obtain ⟨hm, h⟩ := h
      obtain ⟨ht, h⟩ := column.type.toldByLines none column'.type _ _ (outdented_outlineLines ho)
        (outdented_outlineLines ho') h
      obtain rfl := ih ho ho' h
      obtain ⟨name, type⟩ := column
      obtain rfl : name = column'.name := hm
      obtain rfl : type = column'.type := ht
      rfl

theorem join_outlineLines_ne_nil (column : Column) (others : List Column) :
    join ['\n'] (outlineLines ⟨column :: others⟩) ≠ [] := by
  rw [outlineLines_cons, ColumnType.linesFrom_eq, List.cons_append, join_cons_cons]
  simp

theorem view_tree_inj (h : ∀ column ∈ schema.columns, Blankless column.name ∧ column.type.OneLine)
    (h' : ∀ column ∈ other.columns, Blankless column.name ∧ column.type.OneLine)
    (he : schema.view (some .tree) = other.view (some .tree)) : schema = other := by
  rw [view_tree, view_tree] at he
  obtain ⟨columns⟩ := schema
  obtain ⟨columns'⟩ := other
  cases columns with
  | nil =>
    cases columns' with
    | nil => rfl
    | cons column' others' => exact absurd he.symm (join_outlineLines_ne_nil column' others')
  | cons column others =>
    cases columns' with
    | nil => exact absurd he (join_outlineLines_ne_nil column others)
    | cons column' others' =>
      have hl := join_inj (by simp [outlineLines_cons]) (by simp [outlineLines_cons])
        (newline_notMem_outlineLines h) (newline_notMem_outlineLines h') he
      exact congrArg mk (outlineLines_inj (fun c hc => (h c hc).1) (fun c hc => (h' c hc).1) hl)

end Schema

/-- Types without line feeds in their timezones, which includes all that can be read, have the same
outline only if they are equal, and so have schemas of such types under names without blanks. -/
theorem outline_unambiguous :
    (∀ m n : ColumnType, m.OneLine → n.OneLine → m.outline = n.outline → m = n) ∧
    (∀ text type, ColumnType.parse text = .ok type → type.OneLine) ∧
    ∀ schema other : Schema,
      (∀ column ∈ schema.columns, Blankless column.name ∧ column.type.OneLine) →
      (∀ column ∈ other.columns, Blankless column.name ∧ column.type.OneLine) →
      schema.view (some .tree) = other.view (some .tree) → schema = other := by
  refine ⟨fun m n => ColumnType.outline_inj, fun text type h => ?_, fun _ _ => Schema.view_tree_inj⟩
  exact ColumnType.oneLine_of_wellFormed (wellFormed_of_parse h)

/-- A tuple next to an empty one is not taken for a tuple inside it, and two spellings of a list with a
name that looks like a type have one outline and one reading. -/
theorem outline_unambiguous_of_similar_lines :
    let m : ColumnType := .tuple [.tuple [], .tuple [.dateTime64 3 (some " UTC")]]
    let n : ColumnType := .tuple [.tuple [.tuple [.dateTime64 3 (some " UTC")]]]
    let zoned : ColumnType := .map (.primitive .string) (.dateTime64 3 (some "UTC"))
    let schema : Schema := ⟨[⟨"Map", zoned⟩, ⟨"0:", .primitive .int8⟩]⟩
    let other : Schema := ⟨[⟨"Map", zoned⟩, ⟨"0:", .primitive .int8⟩]⟩
    (m.OneLine ∧ n.OneLine ∧ m.outline ≠ n.outline) ∧
      (ColumnType.parse "Map(String, DateTime64(3, U TC))" = .ok zoned ∧ zoned.OneLine) ∧
      (schema.view (some .tree) = other.view (some .tree) ∧ schema = other) := by
  intro m n zoned schema other
  have hd : (ColumnType.dateTime64 3 (some " UTC")).OneLine :=
    .intro (by rintro _ ⟨rfl⟩; decide) fun _ hc => by cases hc
  have hm : m.OneLine := .of_elements (by simpa using ⟨.of_elements (by simp), .of_elements (by simpa)⟩)
  have hn : n.OneLine := .of_elements (by simpa using .of_elements (by simpa using .of_elements (by simpa)))
  have hp : ColumnType.parse "Map(String, DateTime64(3, U TC))" = .ok zoned :=
    toOption_eq_some_iff.1 (by decide +kernel)
  have hz : zoned.OneLine := outline_unambiguous.2.1 _ _ hp
  have hi : (ColumnType.primitive .int8).OneLine :=
    outline_unambiguous.2.1 "Int8" _ (toOption_eq_some_iff.1 (by decide +kernel))
  have hs : ∀ column ∈ schema.columns, Blankless column.name ∧ column.type.OneLine := by
    simpa [schema] using ⟨⟨by decide, hz⟩, by decide, hi⟩
  have ho : schema.view (some .tree) = other.view (some .tree) := rfl
  refine ⟨⟨hm, hn, fun h => ?_⟩, ⟨hp, hz⟩, ho, outline_unambiguous.2.2 _ _ hs hs ho⟩
  exact absurd (outline_unambiguous.1 m n hm hn h) (by decide)

end ColumnTypes
