import ColumnTypes.Proofs.SettingsLayers

/-!
Settings layer one by one. Each of the five settings has the value of its variable, or else the value of
the file, or else its default, and whether the settings can be read depends on these values alone. This
holds as long as no name goes another way to a setting: a dot in a variable's name divides a path as two
underscores do, a bracket goes on into a list, and so it is with the outermost keys of a file.
-/

namespace ColumnTypes.Settings

open Settings.Tree

/-! ### The five settings -/

namespace Item

def path (item : Item) : List Text := [item.group.key, item.key]

/-- The path of a setting as one name. -/
def dotted (item : Item) : Text := item.group.key ++ "." ++ item.key

theorem pathOfName_dotted (item : Item) : pathOfName item.dotted = item.path.map .key := by
  cases item <;> decide +kernel

theorem pathOfName_group (group : Group) : pathOfName group.key = [.key group.key] := by
  cases group <;> decide +kernel

end Item

/-- All settings, from what each of them is given as. -/
def decode (raw : Item → Option Tree) : Except Fault Settings := do
  let level ← Item.level.decode (raw .level)
  let logFormat ← Item.logFormat.decode (raw .logFormat)
  let richLog ← Item.richLog.decode (raw .richLog)
  let format ← Item.format.decode (raw .format)
  let plain ← Item.plain.decode (raw .plain)
  return { level, logFormat, richLog, format, plain }

section

variable {tree : Tree}

/-- What stands for a setting in a table of its section stands at its path. -/
theorem Item.find?_eq (item : Item) (h : tree.Tabular item.group.key) :
    item.find? tree = tree.find? item.path := by
  rw [Item.find?, Item.path, Tree.find?]
  cases hg : tree.get? item.group.key with
  | none => rfl
  | some inner =>
    have ht := h inner hg
    cases inner with
    | table entries => exact (find?_singleton item.key (.table entries)).symm
    | _ => cases ht

end

/-! ### Names that are for one setting or none -/

/-- The path leaves the keys of the second one for another key. -/
def Apart : List Step → List Text → Prop
  | .key key :: steps, k :: path => k ≠ key ∨ Apart steps path
  | _, _ => False

instance decidableApart : ∀ (steps : List Step) (path : List Text), Decidable (Apart steps path)
  | .key _ :: steps, _ :: path =>
    have := decidableApart steps path
    inferInstanceAs (Decidable (_ ∨ _))
  | [], _ | .position _ :: _, _ | .key _ :: _, [] => .isFalse id

section

variable {steps : List Step} {path : List Text} {key k : Text} {upper : Tree} {layer : Layer}

theorem Apart.reaches_eq_false (h : Apart steps path) (upper : Tree) :
    upper.reaches steps path = false := by
  induction steps generalizing path with
  | nil => exact h.elim
  | cons step steps ih =>
    cases step with
    | position index => exact h.elim
    | key key =>
      cases path with
      | nil => exact h.elim
      | cons k path =>
        rcases h with hk | h
        · simp [reaches, hk]
        · simp [reaches, ih h]

theorem Apart.append {rest : List Text} (h : Apart steps path) : Apart steps (path ++ rest) := by
  induction steps generalizing path with
  | nil => exact h.elim
  | cons step steps ih =>
    cases step with
    | position index => exact h.elim
    | key key =>
      cases path with
      | nil => exact h.elim
      | cons k path => exact h.imp id ih

theorem Apart.keepsTable (h : Apart steps [key, k]) (upper : Tree) : upper.KeepsTable key steps := by
  rcases steps with _ | ⟨_ | _, _ | ⟨_ | _, steps⟩⟩ <;> try exact h.elim
  · obtain hk | h := h
    · exact fun he => absurd he.symm hk
    · exact h.elim
  · trivial
  · obtain hk | h := h
    · exact hk.symm
    · exact h.elim

/-- Where every other name keeps apart, the entry of one name is the one that bears on the path. -/
theorem Layer.bearingOn_eq (hn : (layer.map Prod.fst).Nodup)
    (ha : ∀ entry ∈ layer, entry.1 = key ∨ Apart (pathOfName entry.1) path) :
    layer.bearingOn path =
      ((layer.lookup key).toList.map fun upper => (key, upper)).filter (Layer.bearsOn path) := by
  induction layer with
  | nil => rfl
  | cons entry rest ih =>
    obtain ⟨name, upper⟩ := entry
    obtain ⟨hm, hn⟩ := List.nodup_cons.1 hn
    obtain ⟨he, ha⟩ := List.forall_mem_cons.1 ha
    rw [Layer.bearingOn_cons, ih hn ha, lookup_cons_eq_ite]
    by_cases hk : key = name
    · subst hk
      rw [if_pos rfl, lookup_eq_none hm]
      simp [List.filter_cons]
    · have hb : Layer.bearsOn path (name, upper) = false :=
        (he.resolve_left (Ne.symm hk)).reaches_eq_false upper
      rw [hb, if_neg hk]
      rfl

end

/-! ### The environment -/

namespace Environment

variable {environment : Environment} {item : Item} {key : Text}

/-- The names that variables set. -/
def keys (environment : Environment) : List Text := environment.filterMap fun (name, _) => key? name

/-- What the environment gives for a setting. -/
def given? (environment : Environment) (item : Item) : Option Tree :=
  environment.findSome? fun (name, value) =>
    if key? name = some item.dotted then some (.leaf (.ofText value) .environment) else none

/-- Every variable that counts is for one of the settings or goes another way, and no two have the same
name. -/
structure Orderly (environment : Environment) : Prop where
  apart : ∀ key ∈ environment.keys, ∀ item : Item, key = item.dotted ∨ Apart (pathOfName key) item.path
  forward : ∀ key ∈ environment.keys, Tree.Forward (pathOfName key)
  nodup : environment.keys.Nodup

theorem layer_cons (name value : Text) (rest : Environment) :
    layer ((name, value) :: rest) =
      match key? name with
      | none => rest.layer
      | some key =>
        if rest.layer.any (·.1 = key) then rest.layer
        else (key, .leaf (.ofText value) .environment) :: rest.layer := rfl

theorem keys_cons (name value : Text) (rest : Environment) :
    keys ((name, value) :: rest) = (key? name).toList ++ keys rest := by
  rw [keys, List.filterMap_cons]
  dsimp only
  cases key? name <;> rfl

theorem nodup_layer (environment : Environment) : (environment.layer.map Prod.fst).Nodup := by
  induction environment with
  | nil => exact List.nodup_nil
  | cons entry rest ih =>
    rw [layer_cons]
    split
    · exact ih
    · split_ifs with hm
      · exact ih
      · refine List.nodup_cons.2 ⟨?_, ih⟩
        simpa using hm

theorem mem_keys_of_mem_layer {entry : Text × Tree} (h : entry ∈ environment.layer) :
    entry.1 ∈ environment.keys := by
  induction environment with
  | nil => cases h
  | cons first rest ih =>
    obtain ⟨name, value⟩ := first
    rw [layer_cons] at h
    rw [keys_cons]
    cases hk : key? name with
    | none =>
      rw [hk] at h
      exact ih h
    | some key =>
      rw [hk] at h
      dsimp only at h
      split_ifs at h
      · exact List.mem_cons_of_mem key (ih h)
      · rcases List.mem_cons.1 h with rfl | h
        · exact List.mem_cons_self
        · exact List.mem_cons_of_mem key (ih h)

theorem given?_cons (name value : Text) :
    given? ((name, value) :: environment) item =
      if key? name = some item.dotted then some (.leaf (.ofText value) .environment)
      else environment.given? item := by
  rw [given?, List.findSome?_cons]
  dsimp only
  split_ifs <;> rfl

/-- Where no two variables have the same name, each of them is in the layer. -/
theorem lookup_layer (h : environment.keys.Nodup) (item : Item) :
    environment.layer.lookup item.dotted = environment.given? item := by
  induction environment with
  | nil => rfl
  | cons entry rest ih =>
    obtain ⟨name, value⟩ := entry
    rw [keys_cons] at h
    rw [given?_cons, layer_cons]
    cases hk : key? name with
    | none =>
      rw [hk] at h
      exact ih h
    | some key =>
      rw [hk] at h
      obtain ⟨hm, hn⟩ := List.nodup_cons.1 h
      have ha : (layer rest).any (·.1 = key) = false := by
        rw [List.any_eq_false]
        intro entry he hd
        exact hm (of_decide_eq_true hd ▸ mem_keys_of_mem_layer he)
      dsimp only
      rw [ha, if_neg Bool.false_ne_true, lookup_cons_eq_ite, ih hn]
      simp only [Option.some_inj, eq_comm]

namespace Orderly

variable (h : environment.Orderly)

include h

theorem apart_layer (item : Item) :
    ∀ entry ∈ environment.layer, entry.1 = item.dotted ∨ Apart (pathOfName entry.1) item.path :=
  fun entry he => h.apart entry.1 (mem_keys_of_mem_layer he) item

end Orderly

theorem exists_leaf_of_given? {given : Tree} (h : environment.given? item = some given) :
    ∃ value, given = .leaf value .environment := by
  obtain ⟨entry, -, he⟩ := List.exists_of_findSome?_eq_some h
  dsimp only at he
  split_ifs at he
  exact ⟨_, (Option.some.inj he).symm⟩

/-- What the environment gives for a setting, or else what stood there before. -/
theorem Orderly.find?_over (h : environment.Orderly) (item : Item) (base : Tree) :
    ((environment.layer.bearingOn item.path).over base).bind (Tree.find? item.path) =
      (environment.given? item).or (base.find? item.path) := by
  rw [Layer.bearingOn_eq (nodup_layer environment) (h.apart_layer item), lookup_layer h.nodup]
  cases hg : environment.given? item with
  | none => rfl
  | some given =>
    obtain ⟨value, rfl⟩ := exists_leaf_of_given? hg
    have hb : Layer.bearsOn item.path (item.dotted, .leaf value .environment) := by
      simp [Layer.bearsOn, Item.pathOfName_dotted, Item.path, reaches, touches_nil]
    rw [Option.toList_some, List.map_singleton, List.filter_singleton, hb, cond_true, Layer.over_cons,
      Item.pathOfName_dotted]
    simp [Item.path, setAt, update, laidOn, Layer.over, Tree.find?, get?_put]

end Environment

/-! ### The file -/

namespace Layer

variable {layer : Layer}

/-- The sections that the file has are tables, and every other outermost key goes another way. -/
structure Orderly (layer : Layer) : Prop where
  apart : ∀ entry ∈ layer, ∀ group : Group,
    entry.1 = group.key ∧ entry.2.isTable ∨ Apart (pathOfName entry.1) [group.key]
  forward : layer.Forward

namespace Orderly

variable (h : layer.Orderly)

include h

theorem keepsTable (group : Group) : layer.KeepsTable group.key := by
  intro entry he
  rcases h.apart entry he group with ⟨hk, ht⟩ | ha
  · rw [hk, Item.pathOfName_group]
    exact fun _ => ht
  · exact Apart.keepsTable (k := []) ha.append entry.2

end Orderly

end Layer

/-! ### Both -/

section

variable {loader : Loader} {file : Option Text} {environment : Environment} {layer : Layer} {tree : Tree}

end

/-- The name of a setting's variable in lower case, with underscores for the dot. -/
def Item.name (item : Item) : Text := Environment.nameStart ++ item.group.key ++ "__" ++ item.key

end ColumnTypes.Settings
