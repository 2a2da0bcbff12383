import ColumnTypes.Settings.Path

/-!
Settings as a tree of tables and lists. Laying a tree over another keeps what the upper one does not
mention: tables merge entry by entry, and anything else replaces whatever stood there.
-/

namespace ColumnTypes.Settings

inductive Origin where
  | file
  | environment
deriving DecidableEq, Repr

def Origin.name : Origin → Text
  | file => ".chtype/config.toml"
  | environment => "the environment"

/-- A list that came about by setting one of its items has no origin. -/
inductive Tree where
  | nothing
  | leaf (value : Scalar) (origin : Origin)
  | list (items : List Tree) (origin : Option Origin)
  | table (entries : List (Text × Tree))
deriving Repr, Inhabited

namespace Tree

mutual

def decEq : (a b : Tree) → Decidable (a = b)
  | nothing, nothing => .isTrue rfl
  | leaf value origin, leaf value' origin' =>
    decidable_of_iff (value = value' ∧ origin = origin') (by simp)
  | list items origin, list items' origin' =>
    have := decEqItems items items'
    decidable_of_iff (items = items' ∧ origin = origin') (by simp)
  | table entries, table entries' =>
    have := decEqEntries entries entries'
    decidable_of_iff (entries = entries') (by simp)
  | nothing, leaf _ _ | nothing, list _ _ | nothing, table _ => .isFalse nofun
  | leaf _ _, nothing | leaf _ _, list _ _ | leaf _ _, table _ => .isFalse nofun
  | list _ _, nothing | list _ _, leaf _ _ | list _ _, table _ => .isFalse nofun
  | table _, nothing | table _, leaf _ _ | table _, list _ _ => .isFalse nofun

def decEqItems : (a b : List Tree) → Decidable (a = b)
  | [], [] => .isTrue rfl
  | item :: rest, item' :: rest' =>
    have := decEq item item'
    have := decEqItems rest rest'
    decidable_of_iff (item = item' ∧ rest = rest') (by simp)
  | [], _ :: _ | _ :: _, [] => .isFalse nofun

def decEqEntries : (a b : List (Text × Tree)) → Decidable (a = b)
  | [], [] => .isTrue rfl
  | (key, tree) :: rest, (key', tree') :: rest' =>
    have := decEq tree tree'
    have := decEqEntries rest rest'
    decidable_of_iff ((key = key' ∧ tree = tree') ∧ rest = rest') (by simp)
  | [], _ :: _ | _ :: _, [] => .isFalse nofun

end

instance : DecidableEq Tree := decEq

end Tree

/-- Entries with the value of one key replaced, or added at the end. -/
def put {α : Type} (key : Text) (value : α) : List (Text × α) → List (Text × α)
  | [] => [(key, value)]
  | (k, old) :: rest => if k = key then (k, value) :: rest else (k, old) :: put key value rest

namespace Tree

def empty : Tree := table []

def isTable : Tree → Bool
  | table _ => true
  | _ => false

def entries : Tree → List (Text × Tree)
  | table entries => entries
  | _ => []

def get? (key : Text) (tree : Tree) : Option Tree := tree.entries.lookup key

def find? : List Text → Tree → Option Tree
  | [], tree => some tree
  | key :: keys, tree => (tree.get? key).bind (find? keys)

def put (tree : Tree) (key : Text) (inner : Tree) : Tree :=
  table (Settings.put key inner tree.entries)

mutual

def laidOn : Tree → Tree → Tree
  | table entries, lower => entriesOver entries lower
  | upper, _ => upper

def entriesOver : List (Text × Tree) → Tree → Tree
  | [], lower => lower
  | (key, upper) :: rest, lower =>
    entriesOver rest (lower.put key (upper.laidOn ((lower.get? key).getD empty)))

end

/-! ## Setting what stands at the end of a path -/

/-- A table with the tree of one key changed. Anything else gives way to a table. -/
def update (key : Text) (change : Tree → Option Tree) (tree : Tree) : Option Tree :=
  (change ((tree.get? key).getD empty)).map fun inner => tree.put key inner

/-- The place of a position in a list, unless it lies before the beginning. -/
def place? (index : Int) (length : Nat) : Option Nat :=
  if 0 ≤ index then some index.toNat
  else if index.natAbs ≤ length then some (length - index.natAbs)
  else none

def listed : Tree → List Tree × Option Origin
  | list items origin => (items, origin)
  | _ => ([], none)

/-- A list with one item changed, filled up with nothing as far as that item. Anything else gives way to
a list. -/
def updateItem (index : Int) (change : Tree → Option Tree) (tree : Tree) : Option Tree :=
  match place? index tree.listed.1.length with
  | none => none
  | some place =>
    let items := tree.listed.1 ++ List.replicate (place + 1 - tree.listed.1.length) nothing
    (change (items.getD place nothing)).map fun item => list (items.set place item) tree.listed.2

/-- A tree with `upper` laid over what stands at a path, or put in its stead where the path ends in a
list. There is none if a position lies before the beginning of its list. -/
def setAt (upper : Tree) : List Step → Tree → Option Tree
  | [], lower => some (upper.laidOn lower)
  | .key key :: path, lower => lower.update key (setAt upper path)
  | .position index :: path, lower =>
    lower.updateItem index fun item => if path.isEmpty then some upper else setAt upper path item

/-! ## Keys that occur once -/

mutual

/-- Whether no table has a key twice, apart from tables in lists. -/
def keysOnce : Tree → Bool
  | table entries => entriesOnce entries
  | _ => true

def entriesOnce : List (Text × Tree) → Bool
  | [] => true
  | (key, tree) :: rest => tree.keysOnce && rest.all (·.1 ≠ key) && entriesOnce rest

end

end Tree

/-- Names with what they are set to. Each spells a path. -/
abbrev Layer := List (Text × Tree)

def Layer.over (layer : Layer) (tree : Tree) : Option Tree :=
  layer.foldlM (fun tree (name, upper) => Tree.setAt upper (pathOfName name) tree) tree

structure Document where
  layer : Layer
  keysOnce : (Tree.table layer).keysOnce

/-- The document with these entries, unless a table has a key twice. -/
def Document.of? (layer : Layer) : Option Document :=
  if h : (Tree.table layer).keysOnce then some ⟨layer, h⟩ else none

end ColumnTypes.Settings
