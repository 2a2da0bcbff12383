import ColumnTypes.Settings.Tree
import Mathlib.Data.List.Nodup

/-!
Trees of settings as maps from paths to trees. What a tree laid over another changes at a path depends on
what stood there before alone, and it changes nothing at the paths that it does not reach.
-/

namespace ColumnTypes.Settings

/-! ### Entries of a table -/

section

variable {α : Type}

theorem lookup_cons_eq_ite (k first : Text) (a : α) (rest : List (Text × α)) :
    ((first, a) :: rest).lookup k = if k = first then some a else rest.lookup k := by
  rw [List.lookup_cons]
  by_cases h : k = first
  · simp [h]
  · rw [if_neg h, beq_eq_false_iff_ne.2 h]

theorem lookup_put (key k : Text) (a : α) (entries : List (Text × α)) :
    (put key a entries).lookup k = if k = key then some a else entries.lookup k := by
  induction entries with
  | nil => rw [put, lookup_cons_eq_ite]
  | cons entry rest ih =>
    obtain ⟨first, old⟩ := entry
    rw [put]
    by_cases hf : first = key
    · subst hf
      simp only [if_pos, lookup_cons_eq_ite]
      split_ifs <;> rfl
    · simp only [hf, if_false, lookup_cons_eq_ite, ih]
      by_cases hk : k = first
      · simp [hk, hf]
      · simp [hk]

theorem put_of_notMem {key : Text} {entries : List (Text × α)} (h : key ∉ entries.map Prod.fst) (a : α) :
    put key a entries = entries ++ [(key, a)] := by
  induction entries with
  | nil => rfl
  | cons entry rest ih =>
    obtain ⟨first, old⟩ := entry
    obtain ⟨hf, hr⟩ : ¬key = first ∧ key ∉ rest.map Prod.fst := by simpa using h
    rw [put, if_neg (Ne.symm hf), ih hr, List.cons_append]

theorem lookup_eq_none {key : Text} {entries : List (Text × α)} (h : key ∉ entries.map Prod.fst) :
    entries.lookup key = none := by
  induction entries with
  | nil => rfl
  | cons entry rest ih =>
    obtain ⟨first, a⟩ := entry
    obtain ⟨hf, hr⟩ : ¬key = first ∧ key ∉ rest.map Prod.fst := by simpa using h
    rw [lookup_cons_eq_ite, if_neg hf, ih hr]

end

namespace Tree

variable {key k : Text} {t t' s upper inner : Tree} {entries lower : List (Text × Tree)}
  {p : List Step} {q : List Text}

theorem get?_put (tree : Tree) (key : Text) (inner : Tree) (k : Text) :
    (tree.put key inner).get? k = if k = key then some inner else tree.get? k :=
  lookup_put key k inner tree.entries

theorem find?_cons_put (tree : Tree) (key : Text) (inner : Tree) (k : Text) (q : List Text) :
    (tree.put key inner).find? (k :: q) = if k = key then inner.find? q else tree.find? (k :: q) := by
  rw [find?, get?_put]
  split_ifs <;> rfl

theorem find?_singleton (key : Text) (tree : Tree) : find? [key] tree = tree.get? key :=
  Option.bind_fun_some _

theorem find?_getD_empty (hq : q ≠ []) (inner : Option Tree) :
    find? q (inner.getD empty) = inner.bind (find? q) := by
  cases inner with
  | some inner => rfl
  | none =>
    cases q with
    | nil => exact absurd rfl hq
    | cons key q => rfl

theorem find?_getD_congr {a b : Option Tree} (h : a.bind (find? q) = b.bind (find? q)) :
    find? q (a.getD empty) = find? q (b.getD empty) := by
  by_cases hq : q = []
  · subst hq
    have he : a = b := by simpa only [Option.bind_fun_some] using show a.bind some = b.bind some from h
    rw [he]
  · rw [find?_getD_empty hq, find?_getD_empty hq, h]

/-! ### What stood there before -/

theorem find?_put_congr {change : Tree → Tree} (h : t.find? q = s.find? q)
    (hc : ∀ {q t s}, find? q t = find? q s → find? q (change t) = find? q (change s)) :
    (t.put key (change ((t.get? key).getD empty))).find? q =
      (s.put key (change ((s.get? key).getD empty))).find? q := by
  cases q with
  | nil =>
    obtain rfl := Option.some_inj.1 h
    rfl
  | cons k q =>
    rw [find?_cons_put, find?_cons_put]
    split_ifs with hk
    · subst hk
      exact hc (find?_getD_congr h)
    · exact h

mutual

theorem find?_laidOn_congr {t s : Tree} {q : List Text} :
    ∀ upper : Tree, t.find? q = s.find? q → (upper.laidOn t).find? q = (upper.laidOn s).find? q
  | .nothing, _ | .leaf _ _, _ | .list _ _, _ => rfl
  | .table entries, h => find?_entriesOver_congr entries h

theorem find?_entriesOver_congr {t s : Tree} {q : List Text} :
    ∀ entries : List (Text × Tree), t.find? q = s.find? q →
      (entriesOver entries t).find? q = (entriesOver entries s).find? q
  | [], h => h
  | (_, upper) :: rest, h =>
    find?_entriesOver_congr rest (find?_put_congr h fun h => find?_laidOn_congr upper h)

end

/-! ### What is not reached -/

mutual

/-- Whether a tree may change what stands at a path when it is laid over another. -/
def touches : Tree → List Text → Bool
  | table entries, key :: path => entriesTouch entries key path
  | _, _ => true

def entriesTouch : List (Text × Tree) → Text → List Text → Bool
  | [], _, _ => false
  | (k, tree) :: rest, key, path => (key = k && tree.touches path) || entriesTouch rest key path

end

/-- Whether a tree that is set at the first path may change what stands at the second. -/
def reaches (upper : Tree) : List Step → List Text → Bool
  | [], path => upper.touches path
  | .key key :: steps, k :: path => k = key && reaches upper steps path
  | _, _ => true

theorem touches_nil (tree : Tree) : tree.touches [] = true := by cases tree <;> rfl

theorem reaches_nil (upper : Tree) (p : List Step) : upper.reaches p [] = true := by
  rcases p with _ | ⟨_ | _, p⟩
  · exact touches_nil upper
  · rfl
  · rfl

mutual

theorem find?_laidOn_of_not_touches {t : Tree} {q : List Text} :
    ∀ upper : Tree, upper.touches q = false → (upper.laidOn t).find? q = t.find? q
  | .nothing, h | .leaf _ _, h | .list _ _, h => by cases q <;> cases h
  | .table entries, h => by
    cases q with
    | nil => cases h
    | cons k q => exact find?_entriesOver_of_not_touch entries h

theorem find?_entriesOver_of_not_touch {t : Tree} {k : Text} {q : List Text} :
    ∀ entries : List (Text × Tree), entriesTouch entries k q = false →
      (entriesOver entries t).find? (k :: q) = t.find? (k :: q)
  | [], _ => rfl
  | (key, upper) :: rest, h => by
    obtain ⟨hu, hr⟩ := Bool.or_eq_false_iff.1 h
    rw [entriesOver, find?_entriesOver_of_not_touch rest hr, find?_cons_put]
    split_ifs with hk
    · have hu : upper.touches q = false := by simpa [hk] using hu
      have hq : q ≠ [] := by
        rintro rfl
        rw [touches_nil] at hu
        cases hu
      rw [find?_laidOn_of_not_touches upper hu, find?_getD_empty hq, hk, find?]
    · rfl

end

theorem exists_of_setAt_key (h : setAt upper (.key key :: p) t = some t') :
    ∃ inner, setAt upper p ((t.get? key).getD empty) = some inner ∧ t.put key inner = t' := by
  rw [setAt, update] at h
  exact Option.map_eq_some_iff.1 h

theorem find?_setAt_of_not_reaches (h : upper.reaches p q = false) (hs : setAt upper p t = some t') :
    t'.find? q = t.find? q := by
  induction p generalizing q t t' with
  | nil =>
    cases hs
    exact find?_laidOn_of_not_touches upper h
  | cons step p ih =>
    cases q with
    | nil =>
      rw [reaches_nil] at h
      cases h
    | cons k q =>
      cases step with
      | position index => cases h
      | key key =>
        obtain ⟨inner, hi, rfl⟩ := exists_of_setAt_key hs
        rw [find?_cons_put]
        split_ifs with hk
        · have h : upper.reaches p q = false := by simpa [reaches, hk] using h
          have hq : q ≠ [] := by
            rintro rfl
            rw [reaches_nil] at h
            cases h
          rw [ih h hi, find?_getD_empty hq, hk, find?]
        · rfl

theorem find?_list {items : List Tree} {origin : Option Origin} :
    (list items origin).find? (k :: q) = none := rfl

theorem exists_list_of_updateItem {index : Int} {change : Tree → Option Tree}
    (h : t.updateItem index change = some t') : ∃ items origin, t' = list items origin := by
  rw [updateItem] at h
  split at h
  · cases h
  · obtain ⟨item, -, rfl⟩ := Option.map_eq_some_iff.1 h
    exact ⟨_, _, rfl⟩

/-- A path that is reached holds afterwards what it would hold in any tree with the same there. -/
theorem find?_setAt_of_reaches (h : upper.reaches p q) (ht : t.find? q = s.find? q)
    (hs : setAt upper p t = some t') : t'.find? q = (setAt upper p s).bind (find? q) := by
  induction p generalizing q t t' s with
  | nil =>
    cases hs
    exact find?_laidOn_congr upper ht
  | cons step p ih =>
    cases q with
    | nil =>
      obtain rfl := Option.some_inj.1 ht
      rw [hs]
      rfl
    | cons k q =>
      cases step with
      | position index =>
        -- both results are lists, if there are any
        obtain ⟨items, origin, rfl⟩ := exists_list_of_updateItem hs
        rw [find?_list]
        symm
        rw [Option.bind_eq_none_iff]
        intro s' hs'
        obtain ⟨items, origin, rfl⟩ := exists_list_of_updateItem hs'
        rfl
      | key key =>
        obtain ⟨rfl, hr⟩ : k = key ∧ upper.reaches p q := by simpa [reaches] using h
        obtain ⟨inner, hi, rfl⟩ := exists_of_setAt_key hs
        rw [find?_cons_put, if_pos rfl, ih hr (find?_getD_congr ht) hi, setAt, update, Option.bind_map]
        congr 1
        funext inner
        rw [Function.comp_apply, find?_cons_put, if_pos rfl]

/-! ### Paths without positions before the beginning -/

/-- Whether a step does not count from the end of a list. -/
def isForward : Step → Bool
  | .key _ => true
  | .position index => 0 ≤ index

def Forward (p : List Step) : Prop := ∀ step ∈ p, isForward step

instance (p : List Step) : Decidable (Forward p) := inferInstanceAs (Decidable (∀ step ∈ p, _))

/-- What stands under the key is a table, if anything stands there. -/
def Tabular (key : Text) (tree : Tree) : Prop := ∀ inner, tree.get? key = some inner → inner.isTable

/-- A tree that is set at the path leaves a table under the key. -/
def KeepsTable (key : Text) (upper : Tree) : List Step → Prop
  | [.key k] => k = key → upper.isTable
  | .key k :: .position _ :: _ => k ≠ key
  | .key _ :: .key _ :: _ => True
  | _ => False

instance : DecidablePred (KeepsTable key upper)
  | [.key k] => inferInstanceAs (Decidable (k = key → upper.isTable))
  | .key k :: .position _ :: _ => inferInstanceAs (Decidable (k ≠ key))
  | .key _ :: .key _ :: _ => .isTrue trivial
  | [] | .position _ :: _ => .isFalse id

theorem isTable_entriesOver (h : t.isTable) : (entriesOver entries t).isTable := by
  induction entries generalizing t with
  | nil => exact h
  | cons entry rest ih => exact ih rfl

theorem isTable_laidOn (hu : upper.isTable) (ht : t.isTable) : (upper.laidOn t).isTable := by
  cases upper with
  | table entries => exact isTable_entriesOver ht
  | _ => cases hu

theorem isTable_getD_empty (h : t.Tabular key) : ((t.get? key).getD empty).isTable := by
  cases hg : t.get? key with
  | none => rfl
  | some inner => exact h inner hg

theorem tabular_put (h : t.Tabular key) (hi : k = key → inner.isTable) : (t.put k inner).Tabular key := by
  intro found hf
  rw [get?_put] at hf
  split_ifs at hf with hk
  · cases hf
    exact hi hk.symm
  · exact h found hf

theorem Tabular.setAt (h : t.Tabular key) (hk : KeepsTable key upper p)
    (hs : setAt upper p t = some t') : t'.Tabular key := by
  rcases p with _ | ⟨_ | _, _ | ⟨_ | _, p⟩⟩ <;> try exact hk.elim
  · obtain ⟨inner, hi, rfl⟩ := exists_of_setAt_key hs
    cases hi
    exact tabular_put h fun he => isTable_laidOn (hk he) (he ▸ isTable_getD_empty h)
  · obtain ⟨inner, hi, rfl⟩ := exists_of_setAt_key hs
    obtain ⟨_, -, rfl⟩ := exists_of_setAt_key hi
    exact tabular_put h fun _ => rfl
  · obtain ⟨inner, hi, rfl⟩ := exists_of_setAt_key hs
    exact tabular_put h fun he => absurd he hk

/-! ### Trees without repeated keys -/

theorem entriesOnce_iff :
    entriesOnce entries ↔ (entries.map Prod.fst).Nodup ∧ ∀ entry ∈ entries, entry.2.keysOnce := by
  induction entries with
  | nil => simp [entriesOnce]
  | cons entry rest ih =>
    obtain ⟨key, tree⟩ := entry
    simp only [entriesOnce, Bool.and_eq_true, ih, List.map_cons, List.nodup_cons, List.forall_mem_cons,
      List.all_eq_true, decide_eq_true_eq, List.mem_map, not_exists, not_and, ne_eq]
    tauto

mutual

/-- A tree without repeated keys is not changed by being laid over nothing. -/
theorem laidOn_empty : ∀ tree : Tree, tree.keysOnce → tree.laidOn empty = tree
  | .nothing, _ | .leaf _ _, _ | .list _ _, _ => rfl
  | .table entries, h => entriesOver_table entries (entriesOnce_iff.1 h).1 h

theorem entriesOver_table {lower : List (Text × Tree)} :
    ∀ entries : List (Text × Tree), ((lower ++ entries).map Prod.fst).Nodup → entriesOnce entries →
      entriesOver entries (table lower) = table (lower ++ entries)
  | [], _, _ => by rw [entriesOver, List.append_nil]
  | (key, tree) :: rest, hn, ho => by
    obtain ⟨ho, hr⟩ := Bool.and_eq_true_iff.1 ho
    have ht : tree.keysOnce := (Bool.and_eq_true_iff.1 ho).1
    have hm : key ∉ lower.map Prod.fst := by
      intro hm
      rw [List.map_append, List.nodup_append] at hn
      exact hn.2.2 key hm key (by simp) rfl
    have hg : (table lower).get? key = none := lookup_eq_none hm
    have hp : (table lower).put key tree = table (lower ++ [(key, tree)]) :=
      congrArg table (put_of_notMem hm tree)
    rw [entriesOver, hg, Option.getD_none, laidOn_empty tree ht, hp,
      entriesOver_table rest (by simpa using hn) hr, List.append_assoc]
    rfl

end

end Tree

end ColumnTypes.Settings
