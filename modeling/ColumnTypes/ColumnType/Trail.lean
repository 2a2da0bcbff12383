import ColumnTypes.ColumnType.Parser

/-!
The trail of a reading: the constructs that reading a text goes into, each before the constructs in
its parts, parts from left to right. Reading stops at the first part that fails, and so does the trail.
A trail comes with whether the reading came to its end, which it does exactly if the text is read.
-/

namespace ColumnTypes

/-- A construct that reading went into, with its parameter text. -/
structure Dispatch where
  opening : Text
  inner : Text
deriving DecidableEq, Repr

/-- What a reading went through, and whether it came to its end. -/
structure Trail where
  dispatches : List Dispatch
  complete : Bool
deriving DecidableEq, Repr

namespace Trail

/-- A reading of several parts in order, which ends with the first that fails. -/
def inOrder : List Trail → Trail
  | [] => ⟨[], true⟩
  | ⟨dispatches, false⟩ :: _ => ⟨dispatches, false⟩
  | ⟨dispatches, true⟩ :: rest =>
    ⟨dispatches ++ (inOrder rest).dispatches, (inOrder rest).complete⟩

theorem complete_inOrder (trails : List Trail) : (inOrder trails).complete = trails.all complete := by
  induction trails with
  | nil => rfl
  | cons trail rest ih =>
    obtain ⟨dispatches, complete⟩ := trail
    cases complete
    · rfl
    · simpa [inOrder] using ih

end Trail

namespace ColumnType

def fragmentTrail (table : List Construct) (text : Text) : Trail :=
  match _hh : Head.read table text with
  | .error _ => ⟨[], false⟩
  | .ok (.primitive _) => ⟨[], true⟩
  | .ok (.construct c inner) =>
    match _hl : c.keyword.level inner with
    | .error _ => ⟨[⟨c.opening, inner⟩], false⟩
    | .ok level =>
      let parts := Trail.inOrder (level.parts.attach.map fun part => fragmentTrail table part.val)
      ⟨⟨c.opening, inner⟩ :: parts.dispatches, parts.complete⟩
termination_by text.length
decreasing_by
  exact Nat.lt_of_le_of_lt (Keyword.length_le_of_mem_parts (by assumption) part.property)
    (Head.length_inner_lt (by assumption))

theorem fragmentTrail_eq (table : List Construct) (text : Text) :
    fragmentTrail table text =
      match Head.read table text with
      | .error _ => ⟨[], false⟩
      | .ok (.primitive _) => ⟨[], true⟩
      | .ok (.construct c inner) =>
        match c.keyword.level inner with
        | .error _ => ⟨[⟨c.opening, inner⟩], false⟩
        | .ok level =>
          let parts := Trail.inOrder (level.parts.map (fragmentTrail table))
          ⟨⟨c.opening, inner⟩ :: parts.dispatches, parts.complete⟩ := by
  rw [fragmentTrail]
  split <;> simp_all
  split <;> simp_all

theorem isOk_map {α β : Type} (f : α → β) (r : Except MalformedType α) :
    (f <$> r).isOk = r.isOk := by
  cases r <;> rfl

theorem isOk_mapM {α β : Type} (f : α → Except MalformedType β) (xs : List α) :
    (xs.mapM f).isOk = xs.all fun x => (f x).isOk := by
  induction xs with
  | nil => rfl
  | cons x xs ih =>
    rw [List.mapM_cons, List.all_cons, ← ih]
    cases f x with
    | error e => rfl
    | ok b => cases xs.mapM f <;> rfl

/-- The reading of a fragment comes to its end exactly if the fragment is a type. -/
theorem complete_fragmentTrail (table : List Construct) (text : Text) :
    (fragmentTrail table text).complete = (parseFragment table text).isOk := by
  rw [fragmentTrail_eq, parseFragment_eq, Level.read]
  match hh : Head.read table text with
  | .error e => rfl
  | .ok (.primitive p) => rfl
  | .ok (.construct c inner) =>
    match hl : c.keyword.level inner with
    | .error e => simp [hl, Except.isOk, Except.toBool]
    | .ok level =>
      have ih (part : Text) (h : part ∈ level.parts) :
          (fragmentTrail table part).complete = (parseFragment table part).isOk :=
        complete_fragmentTrail table part
      simp only [hl, Trail.complete_inOrder, List.all_map]
      cases level with
      | whole type => rfl
      | array element | nullable inner => simpa [Level.parts, isOk_map] using ih
      | tuple elements =>
        rw [isOk_map, isOk_mapM]
        rw [Bool.eq_iff_iff, List.all_eq_true, List.all_eq_true]
        exact ⟨fun h part hp => ih part hp ▸ h part hp,
          fun h part hp => (ih part hp).trans (h part hp)⟩
      | map key value =>
        have hk := ih key (by simp [Level.parts])
        have hv := ih value (by simp [Level.parts])
        simp only [Level.parts, List.all_cons, List.all_nil, Function.comp, hk, hv]
        cases parseFragment table key <;> cases parseFragment table value <;> rfl
termination_by text.length
decreasing_by
  exact Nat.lt_of_le_of_lt (Keyword.length_le_of_mem_parts hl h) (Head.length_inner_lt hh)

/-- The trail of reading the text of a type; a text with a nesting fault is not gone into. -/
def trail (text : Text) : Trail :=
  let fragment := text.withoutBlanks
  match checkNesting fragment with
  | .ok () => fragmentTrail constructs fragment
  | .error _ => ⟨[], false⟩

end ColumnType

end ColumnTypes
