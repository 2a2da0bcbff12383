import Mathlib.Data.List.Forall2

/-!
Results that are a value or an error. A traversal of a list succeeds exactly with the values of its
entries, and fails exactly with the error of the first entry that fails.
-/

namespace ColumnTypes

variable {ε α β : Type} {a : α} {b : β} {e : ε} {r : Except ε α}

theorem map_eq_ok_iff {f : α → β} : f <$> r = .ok b ↔ ∃ a, r = .ok a ∧ f a = b := by
  cases r <;> simp [Functor.map, Except.map]

theorem map_eq_error_iff {f : α → β} : f <$> r = .error e ↔ r = .error e := by
  cases r <;> simp [Functor.map, Except.map]

theorem bind_eq_ok_iff {f : α → Except ε β} : r >>= f = .ok b ↔ ∃ a, r = .ok a ∧ f a = .ok b := by
  cases r <;> simp [bind, Except.bind]

theorem bind_eq_error_iff {f : α → Except ε β} :
    r >>= f = .error e ↔ r = .error e ∨ ∃ a, r = .ok a ∧ f a = .error e := by
  cases r <;> simp [bind, Except.bind]

theorem toOption_eq_some_iff : r.toOption = some a ↔ r = .ok a := by
  cases r <;> simp [Except.toOption]

/-- The error, if there is one. -/
def error? (r : Except ε α) : Option ε :=
  match r with
  | .ok _ => none
  | .error e => some e

theorem error?_eq_some_iff : error? r = some e ↔ r = .error e := by
  cases r <;> simp [error?]

theorem mapM_eq_ok_iff {f : α → Except ε β} {xs : List α} {ys : List β} :
    xs.mapM f = .ok ys ↔ List.Forall₂ (fun x y => f x = .ok y) xs ys := by
  induction xs generalizing ys with
  | nil => cases ys <;> simp [pure, Except.pure]
  | cons x xs ih =>
    rw [List.mapM_cons]
    cases hx : f x with
    | error e => cases ys <;> simp [hx, bind, Except.bind]
    | ok y =>
      cases hs : xs.mapM f with
      | error e => cases ys <;> simp [hx, hs, ← ih, bind, Except.bind]
      | ok zs => cases ys <;> simp [hx, hs, ← ih, bind, Except.bind, pure, Except.pure]

theorem mapM_eq_error_iff {f : α → Except ε β} {xs : List α} :
    xs.mapM f = .error e ↔
      ∃ earlier x later, xs = earlier ++ x :: later ∧ (∀ y ∈ earlier, ∃ b, f y = .ok b) ∧
        f x = .error e := by
  induction xs with
  | nil => simp [pure, Except.pure]
  | cons x xs ih =>
    rw [List.mapM_cons, bind_eq_error_iff]
    constructor
    · rintro (hx | ⟨b, hx, h⟩)
      · exact ⟨[], x, xs, rfl, by simp, hx⟩
      · rcases bind_eq_error_iff.1 h with hs | ⟨bs, -, hp⟩
        · obtain ⟨earlier, y, later, rfl, he, hy⟩ := ih.1 hs
          exact ⟨x :: earlier, y, later, rfl, List.forall_mem_cons.2 ⟨⟨b, hx⟩, he⟩, hy⟩
        · cases hp
    · rintro ⟨earlier, y, later, hs, he, hy⟩
      cases earlier with
      | nil =>
        obtain ⟨rfl, rfl⟩ := List.cons.inj hs
        exact .inl hy
      | cons first earlier =>
        obtain ⟨rfl, rfl⟩ := List.cons.inj hs
        obtain ⟨⟨b, hb⟩, he⟩ := List.forall_mem_cons.1 he
        exact .inr ⟨b, hb, bind_eq_error_iff.2 (.inl (ih.2 ⟨earlier, y, later, rfl, he, hy⟩))⟩

theorem mapM_congr {f g : α → Except ε β} {xs : List α} (h : ∀ x ∈ xs, f x = g x) :
    xs.mapM f = xs.mapM g := by
  induction xs with
  | nil => rfl
  | cons x xs ih =>
    obtain ⟨hx, hs⟩ := List.forall_mem_cons.1 h
    rw [List.mapM_cons, List.mapM_cons, hx, ih hs]

theorem mapM_map_eq_some {f : α → β} {g : β → Option α} {xs : List α}
    (h : ∀ x ∈ xs, g (f x) = some x) : (xs.map f).mapM g = some xs := by
  induction xs with
  | nil => rfl
  | cons x xs ih =>
    obtain ⟨hx, hxs⟩ := List.forall_mem_cons.1 h
    simp [hx, ih hxs]

theorem forall₂_append_iff {R : α → β → Prop} {xs xs' : List α} {zs : List β} :
    List.Forall₂ R (xs ++ xs') zs ↔
      ∃ ys ys', zs = ys ++ ys' ∧ List.Forall₂ R xs ys ∧ List.Forall₂ R xs' ys' := by
  constructor
  · intro h
    induction xs generalizing zs with
    | nil => exact ⟨[], zs, rfl, .nil, h⟩
    | cons x xs ih =>
      cases h with
      | cons hx h =>
        obtain ⟨ys, ys', rfl, hs, hs'⟩ := ih h
        exact ⟨_ :: ys, ys', rfl, .cons hx hs, hs'⟩
  · rintro ⟨ys, ys', rfl, hs, hs'⟩
    exact List.rel_append hs hs'

/-- Two lists related entry by entry are the two sides of one list of pairs. -/
theorem forall₂_iff_pairs {R : α → β → Prop} {xs : List α} {ys : List β} :
    List.Forall₂ R xs ys ↔
      ∃ pairs : List (α × β), xs = pairs.map Prod.fst ∧ ys = pairs.map Prod.snd ∧
        ∀ pair ∈ pairs, R pair.1 pair.2 := by
  constructor
  · intro h
    induction h with
    | nil => exact ⟨[], rfl, rfl, by simp⟩
    | @cons x y _ _ hxy _ ih =>
      obtain ⟨pairs, rfl, rfl, hp⟩ := ih
      exact ⟨(x, y) :: pairs, rfl, rfl, List.forall_mem_cons.2 ⟨hxy, hp⟩⟩
  · rintro ⟨pairs, rfl, rfl, hp⟩
    rw [List.forall₂_map_left_iff, List.forall₂_map_right_iff, List.forall₂_same]
    exact hp

end ColumnTypes
