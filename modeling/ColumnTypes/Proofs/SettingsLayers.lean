import ColumnTypes.Proofs.Results
import ColumnTypes.Proofs.SettingsTree
import ColumnTypes.Settings.Basic

/-!
Layers of settings, taken in any order. What a layer sets at a path is up to the entries that bear on it.
Where there is one such entry at most, the order of the entries has no part in it.
-/

namespace ColumnTypes.Settings

open Settings.Tree

namespace Layer

variable {layer layer' : Layer} {tree tree' base : Tree} {path : List Text} {name key : Text}
  {upper : Tree}

theorem over_cons (name : Text) (upper : Tree) (layer : Layer) (tree : Tree) :
    Layer.over ((name, upper) :: layer) tree = (setAt upper (pathOfName name) tree).bind layer.over := rfl

theorem exists_of_over_cons (h : Layer.over ((name, upper) :: layer) tree = some tree') :
    ∃ next, setAt upper (pathOfName name) tree = some next ∧ layer.over next = some tree' :=
  Option.bind_eq_some_iff.1 (over_cons name upper layer tree ▸ h)

/-! ### Entries that bear on a path -/

/-- Whether an entry may change what stands at a path. -/
def bearsOn (path : List Text) (entry : Text × Tree) : Bool :=
  entry.2.reaches (pathOfName entry.1) path

def bearingOn (path : List Text) (layer : Layer) : Layer := layer.filter (bearsOn path)

theorem bearingOn_cons (path : List Text) (entry : Text × Tree) (layer : Layer) :
    bearingOn path (entry :: layer) =
      if bearsOn path entry then entry :: layer.bearingOn path else layer.bearingOn path :=
  List.filter_cons

theorem find?_over_of_nil (hb : layer.bearingOn path = []) (ho : layer.over tree = some tree') :
    tree'.find? path = tree.find? path := by
  induction layer generalizing tree with
  | nil =>
    cases ho
    rfl
  | cons entry rest ih =>
    obtain ⟨name, upper⟩ := entry
    obtain ⟨next, hn, ho⟩ := exists_of_over_cons ho
    rw [bearingOn_cons] at hb
    split_ifs at hb with he
    rw [ih hb ho]
    exact find?_setAt_of_not_reaches (Bool.eq_false_iff.2 he) hn

/-- With one entry at most that bears on a path, what stands there is up to this entry and to what stood
there before. -/
theorem find?_over (hb : (layer.bearingOn path).length ≤ 1) (ht : tree.find? path = base.find? path)
    (ho : layer.over tree = some tree') :
    tree'.find? path = ((layer.bearingOn path).over base).bind (find? path) := by
  induction layer generalizing tree with
  | nil =>
    cases ho
    exact ht
  | cons entry rest ih =>
    obtain ⟨name, upper⟩ := entry
    obtain ⟨next, hn, ho⟩ := exists_of_over_cons ho
    rw [bearingOn_cons] at hb ⊢
    split_ifs at hb ⊢ with he
    · have hr : bearingOn path rest = [] := List.eq_nil_of_length_eq_zero (by simpa using hb)
      rw [find?_over_of_nil hr ho, find?_setAt_of_reaches he ht hn, hr, over_cons]
      cases setAt upper (pathOfName name) base <;> rfl
    · have hs : next.find? path = tree.find? path :=
        find?_setAt_of_not_reaches (Bool.eq_false_iff.2 he) hn
      exact ih hb (hs.trans ht) ho

theorem bearingOn_eq_of_perm (hp : layer.Perm layer') (hb : (layer'.bearingOn path).length ≤ 1) :
    layer.bearingOn path = layer'.bearingOn path := by
  have hf : (layer.bearingOn path).Perm (layer'.bearingOn path) := hp.filter _
  cases hl : layer'.bearingOn path with
  | nil => exact (hl ▸ hf).eq_nil
  | cons entry rest =>
    rw [hl] at hb hf
    obtain rfl : rest = [] := List.eq_nil_of_length_eq_zero (by simpa using hb)
    exact List.perm_singleton.1 hf

/-- What a layer gives at a path. -/
def given? (path : List Text) (layer : Layer) : Option Tree :=
  ((layer.bearingOn path).over .empty).bind (find? path)

/-! ### Names that can be set, and sections that stay tables -/

/-- No name counts a position from the end of a list. -/
def Forward (layer : Layer) : Prop := ∀ entry ∈ layer, Tree.Forward (pathOfName entry.1)

theorem Forward.perm (h : layer.Forward) (hp : layer'.Perm layer) : layer'.Forward :=
  fun entry he => h entry (hp.mem_iff.1 he)

/-- No entry puts anything but a table under the key. -/
def KeepsTable (key : Text) (layer : Layer) : Prop :=
  ∀ entry ∈ layer, Tree.KeepsTable key entry.2 (pathOfName entry.1)

theorem KeepsTable.perm (h : layer.KeepsTable key) (hp : layer'.Perm layer) : layer'.KeepsTable key :=
  fun entry he => h entry (hp.mem_iff.1 he)

theorem KeepsTable.tabular_over (h : layer.KeepsTable key) (ht : tree.Tabular key)
    (ho : layer.over tree = some tree') : tree'.Tabular key := by
  induction layer generalizing tree with
  | nil =>
    cases ho
    exact ht
  | cons entry rest ih =>
    obtain ⟨hk, hr⟩ := List.forall_mem_cons.1 h
    obtain ⟨next, hn, ho⟩ := exists_of_over_cons ho
    exact ih hr (ht.setAt hk hn) ho

end Layer

theorem Tree.tabular_empty (key : Text) : empty.Tabular key := fun _ h => nomatch h

/-! ### Both layers -/

namespace Loader

variable {loader : Loader} {file : Option Text} {environment : Environment} {layer : Layer}
  {tree base : Tree} {path : List Text} {key : Text}

theorem tree_eq_ok_iff :
    loader.tree file environment = .ok tree ↔
      ∃ layer lower, loader.fileLayer file = .ok layer ∧
        (loader.order layer).over .empty = some lower ∧
          (loader.order environment.layer).over lower = some tree := by
  rw [Loader.tree, bind_eq_ok_iff]
  refine exists_congr fun layer => ?_
  rw [exists_and_left]
  refine and_congr_right fun _ => ?_
  rw [← Option.bind_eq_some_iff, ← Option.bind_eq_bind]
  cases (loader.order layer).over .empty >>= (loader.order environment.layer).over <;> simp

/-- There is a tree with what the file gives at a path. -/
theorem exists_base (ht : loader.tree file environment = .ok tree) (hl : loader.fileLayer file = .ok layer)
    (hf : (layer.bearingOn path).length ≤ 1) : ∃ base : Tree, base.find? path = layer.given? path := by
  obtain ⟨_, lower, hl', hlo, -⟩ := tree_eq_ok_iff.1 ht
  obtain rfl := Except.ok.inj (hl.symm.trans hl')
  have ho := Layer.bearingOn_eq_of_perm (loader.order_perm layer) hf
  exact ⟨lower, by rw [Layer.find?_over (ho.symm ▸ hf) rfl hlo, ho, Layer.given?]⟩

/-- What stands at a path once both layers are laid, where each has one entry at most that bears on it. It
is the same in every order of the entries. -/
theorem find?_tree (ht : loader.tree file environment = .ok tree) (hl : loader.fileLayer file = .ok layer)
    (hf : (layer.bearingOn path).length ≤ 1) (he : (environment.layer.bearingOn path).length ≤ 1)
    (hb : base.find? path = layer.given? path) :
    tree.find? path = ((environment.layer.bearingOn path).over base).bind (find? path) := by
  obtain ⟨_, lower, hl', hlo, hto⟩ := tree_eq_ok_iff.1 ht
  obtain rfl := Except.ok.inj (hl.symm.trans hl')
  have hof := Layer.bearingOn_eq_of_perm (loader.order_perm layer) hf
  have hoe := Layer.bearingOn_eq_of_perm (loader.order_perm environment.layer) he
  have hg : lower.find? path = base.find? path := by
    rw [Layer.find?_over (hof.symm ▸ hf) rfl hlo, hof, hb, Layer.given?]
  rw [Layer.find?_over (hoe.symm ▸ he) hg hto, hoe]

theorem tabular_tree (ht : loader.tree file environment = .ok tree)
    (hl : loader.fileLayer file = .ok layer) (hf : layer.KeepsTable key)
    (he : environment.layer.KeepsTable key) : tree.Tabular key := by
  obtain ⟨_, lower, hl', hlo, hto⟩ := tree_eq_ok_iff.1 ht
  obtain rfl := Except.ok.inj (hl.symm.trans hl')
  have hlt := (hf.perm (loader.order_perm layer)).tabular_over (tabular_empty key) hlo
  exact (he.perm (loader.order_perm environment.layer)).tabular_over hlt hto

end Loader

/-! ### Settings out of a tree -/

section

variable {tree : Tree} {settings : Settings} {item : Item}

/-- What stands for a setting in a tree. -/
def Item.find? (item : Item) (tree : Tree) : Option Tree := (tree.get? item.group.key).bind item.member?

/-- The value of a setting that is given as `raw`, or its default if it is not given. -/
def Item.decode (item : Item) (raw : Option Tree) : Except Fault item.Value :=
  match raw with
  | none => .ok (item.of default)
  | some tree => item.read (item.group.key ++ "." ++ item.key) tree

/-- Where a truth value stands is told in faults only. -/
theorem readBoolean_eq_ok_congr {location location' : Text} {b : Bool}
    (h : readBoolean location tree = .ok b) : readBoolean location' tree = .ok b := by
  cases tree with
  | leaf value origin =>
    cases value with
    | string text =>
      dsimp only [readBoolean] at h ⊢
      split_ifs at h ⊢ <;> exact h
    | _ => exact h
  | _ => cases h

theorem Item.read_eq_ok_congr {value : item.Value} {location location' : Text}
    (h : item.read location tree = .ok value) : item.read location' tree = .ok value := by
  cases item with
  | richLog | plain => exact readBoolean_eq_ok_congr h
  | _ => exact h

theorem Item.decode_of_readFrom {value : item.Value} (h : item.readFrom tree = .ok value) :
    item.decode (item.member? tree) = .ok value := by
  rw [readFrom] at h
  cases hm : item.member? tree with
  | none => rwa [hm] at h
  | some given =>
    rw [hm] at h
    exact read_eq_ok_congr h

theorem Item.member?_of_groupTree {group : Tree} (h : groupTree item.group tree = .ok group) :
    item.member? group = item.find? tree := by
  rw [groupTree] at h
  rw [Item.find?]
  cases hg : tree.get? item.group.key with
  | none =>
    rw [hg] at h
    cases h
    rfl
  | some inner =>
    rw [hg] at h
    cases inner with
    | table entries | list items origin =>
      cases h
      rfl
    | _ => cases h

/-- Each setting that is read is what stands for it, or its default. -/
theorem decode_of_ofTree (h : ofTree tree = .ok settings) (item : Item) :
    item.decode (item.find? tree) = .ok (item.of settings) := by
  obtain ⟨logger, hl, h⟩ := bind_eq_ok_iff.1 h
  obtain ⟨level, h₁, h⟩ := bind_eq_ok_iff.1 h
  obtain ⟨logFormat, h₂, h⟩ := bind_eq_ok_iff.1 h
  obtain ⟨richLog, h₃, h⟩ := bind_eq_ok_iff.1 h
  obtain ⟨output, ho, h⟩ := bind_eq_ok_iff.1 h
  obtain ⟨format, h₄, h⟩ := bind_eq_ok_iff.1 h
  obtain ⟨plain, h₅, h⟩ := bind_eq_ok_iff.1 h
  cases h
  cases item
  all_goals
    rw [← Item.member?_of_groupTree ‹_›]
    exact Item.decode_of_readFrom ‹_›

end

end ColumnTypes.Settings
