import ColumnTypes.Settings.Toml.Scalar
import ColumnTypes.Settings.Tree

/-!
Settings files in TOML. A file is a sequence of statements: headers, which open a table, and keys with
their values. A table has one header and a key one value; a file that breaks a rule is not read at all.
-/

namespace ColumnTypes.Settings.Toml

/-! ## Blank space -/

/-- The text after spaces, line ends and comments. The flag says whether a comment has begun. -/
def skipBlank : Bool → Text → Text
  | _, [] => []
  | true, c :: rest =>
    if c = '\n' then skipBlank false rest else if isShown c then skipBlank true rest else c :: rest
  | false, c :: rest =>
    if c = '#' then skipBlank true rest
    else if isSpace c || c = '\n' then skipBlank false rest
    else c :: rest

def lineEnd? (text : Text) : Option Text :=
  let rest :=
    match skipSpaces text with
    | '#' :: comment => comment.dropWhile isShown
    | rest => rest
  match rest with
  | [] => some []
  | '\n' :: rest => some rest
  | _ => none

/-! ## Tables -/

/-- How a table came to be: on the way to another one, by its header, or by a dotted key. -/
inductive Definition where
  | implicit
  | byHeader
  | byDottedKey
deriving DecidableEq, Repr

/-- What stands under a key as far as the file is read. Of a list of tables that headers make, the last
table may still grow. -/
inductive Node where
  | value (value : Tree)
  | table (definition : Definition) (entries : List (Text × Node))
  | tables (earlier : List Tree) (last : List (Text × Node))
deriving Repr

abbrev Entries := List (Text × Node)

mutual

def Node.toTree : Node → Tree
  | .value value => value
  | .table _ entries => .table (toTrees entries)
  | .tables earlier last => .list (earlier ++ [.table (toTrees last)]) (some .file)

def toTrees : Entries → List (Text × Tree)
  | [] => []
  | (key, node) :: rest => (key, node.toTree) :: toTrees rest

end

def openTable : Option Node → Option Node
  | none => some (.table .byHeader [])
  | some (.table .implicit inner) => some (.table .byHeader inner)
  | some _ => none

def openItem : Option Node → Option Node
  | none => some (.tables [] [])
  | some (.tables earlier last) => some (.tables (earlier ++ [.table (toTrees last)]) [])
  | some _ => none

def openAt (change : Option Node → Option Node) : List Text → Entries → Option Entries
  | [], entries => some entries
  | [key], entries => (change (entries.lookup key)).map fun node => put key node entries
  | key :: path, entries =>
    match entries.lookup key with
    | none => (openAt change path []).map fun inner => put key (.table .implicit inner) entries
    | some (.table definition inner) =>
      (openAt change path inner).map fun inner => put key (.table definition inner) entries
    | some (.tables earlier last) =>
      (openAt change path last).map fun last => put key (.tables earlier last) entries
    | some (.value _) => none

/-- Gives a value to a dotted key. Tables with a header of their own are closed to it. -/
def assign (value : Tree) : List Text → Entries → Option Entries
  | [], _ => none
  | [key], entries =>
    match entries.lookup key with
    | none => some (put key (.value value) entries)
    | some _ => none
  | key :: path, entries =>
    match entries.lookup key with
    | none => (assign value path []).map fun inner => put key (.table .byDottedKey inner) entries
    | some (.table .byHeader _) => none
    | some (.table definition inner) =>
      (assign value path inner).map fun inner => put key (.table definition inner) entries
    | some _ => none

def inTable (change : Entries → Option Entries) : List Text → Entries → Option Entries
  | [], entries => change entries
  | key :: path, entries =>
    match entries.lookup key with
    | some (.table definition inner) =>
      (inTable change path inner).map fun inner => put key (.table definition inner) entries
    | some (.tables earlier last) =>
      (inTable change path last).map fun last => put key (.tables earlier last) entries
    | _ => none

/-! ## Values -/

mutual

/-- A value. The number bounds the steps, here and below. -/
def value? : Nat → Text → Option (Tree × Text)
  | 0, _ => none
  | _, [] => none
  | n + 1, c :: rest =>
    if c = '[' then (items? n rest).map fun (items, rest) => (.list items (some .file), rest)
    else if c = '\x7b' then
      match skipSpaces rest with
      | '\x7d' :: rest => some (.empty, rest)
      | rest => (members? n [] rest).map fun (entries, rest) => (.table (toTrees entries), rest)
    else if isMark c then (string? c rest).map fun (value, rest) => (.leaf (.string value) .file, rest)
    else
      let (bare, rest) := splitBare (c :: rest)
      (scalar? bare).map fun value => (.leaf value .file, rest)

/-- The items up to a closing bracket; a comma may stand after the last one. -/
def items? : Nat → Text → Option (List Tree × Text)
  | 0, _ => none
  | n + 1, text =>
    match skipBlank false text with
    | ']' :: rest => some ([], rest)
    | text =>
      match value? n text with
      | none => none
      | some (item, rest) =>
        match skipBlank false rest with
        | ',' :: rest => (items? n rest).map fun (items, rest) => (item :: items, rest)
        | ']' :: rest => some ([item], rest)
        | _ => none

/-- The members up to a closing brace, after those that came before; there is at least one. -/
def members? : Nat → Entries → Text → Option (Entries × Text)
  | 0, _, _ => none
  | n + 1, entries, text =>
    match key? text with
    | some (path, '=' :: rest) =>
      match value? n (skipSpaces rest) with
      | none => none
      | some (value, rest) =>
        match assign value path entries, skipSpaces rest with
        | some entries, ',' :: rest => members? n entries rest
        | some entries, '\x7d' :: rest => some (entries, rest)
        | _, _ => none
    | _ => none

end

/-! ## Statements -/

abbrev Progress := List Text × Entries

def header? (progress : Progress) (text : Text) : Option (Progress × Text) :=
  match text with
  | '[' :: text =>
    match key? text with
    | some (path, ']' :: ']' :: rest) =>
      (openAt openItem path progress.2).map fun entries => ((path, entries), rest)
    | _ => none
  | text =>
    match key? text with
    | some (path, ']' :: rest) =>
      (openAt openTable path progress.2).map fun entries => ((path, entries), rest)
    | _ => none

def assignment? (progress : Progress) (text : Text) : Option (Progress × Text) :=
  match key? text with
  | some (path, '=' :: rest) =>
    match value? (2 * rest.length + 2) (skipSpaces rest) with
    | none => none
    | some (value, rest) =>
      (inTable (assign value path) progress.1 progress.2).map fun entries => ((progress.1, entries), rest)
  | _ => none

/-- Reads statements to the end of the text. The number bounds the statements. -/
def statements? : Nat → Progress → Text → Option Entries
  | 0, _, _ => none
  | n + 1, progress, text =>
    let next :=
      match skipBlank false text with
      | [] => none
      | '[' :: rest => some (header? progress rest)
      | rest => some (assignment? progress rest)
    match next with
    | none => some progress.2
    | some none => none
    | some (some (progress, rest)) =>
      match lineEnd? rest with
      | none => none
      | some rest => statements? n progress rest

def plainLines : Text → Text
  | '\r' :: '\n' :: rest => '\n' :: plainLines rest
  | c :: rest => c :: plainLines rest
  | [] => []

/-- The document of a file, which may begin with a byte order mark. -/
def document? (file : Text) : Option Document :=
  let text := plainLines ((Text.dropStart? "\uFEFF" file).getD file)
  (statements? (text.length + 1) ([], []) text).bind fun entries => Document.of? (toTrees entries)

end ColumnTypes.Settings.Toml
