import SchemaBuild.Table
import SchemaBuild.Toml.Numbers
import SchemaBuild.Toml.Strings

/-!
# Configuration documents

A document is a row of lines: settings `key = value`, headers `[table]` and `[[table]]`, comments and
empty lines. A key may have several parts, which lead through tables.

A table may be defined once only. A table that only lies on the way to another one is **implied** and
may be defined later; one that the parts of a setting's key lead through is **dotted** and can be
filled by further such keys only, from the place that it began at. Tables in braces are complete.

`Toml.parse?` gives the table that a document is, and nothing if the document is not well-formed.
-/

namespace SchemaBuild.Toml

open Text (Parser after? afterChar?)

/-- The deepest nesting of lists and tables within a value, and the greatest number of parts of a
key, both counted from one. -/
def depthLimit : Nat := 79

/-! ### Tables that are being filled -/

/-- How a table came about. -/
inductive Origin where
  /-- By a header, or as the document itself. -/
  | defined
  /-- By lying on the way to another table. -/
  | implied
  /-- By a key of several parts. -/
  | dotted
  deriving Repr, DecidableEq

/-- What stands under a key while the document is read. -/
inductive Item where
  | value (value : Value)
  | table (origin : Origin) (items : List (String × Item))
  /-- A list of tables, the last one first. -/
  | tables (tables : List (List (String × Item)))
  deriving Inhabited

/-- The items of a table. -/
abbrev Items := List (String × Item)

/-- Change the table that a key's parts lead to, starting with `items` of the given origin. Tables that
are missing on the way come about as `origin`. With a dotted key no table may be entered that was
defined by a header. -/
def descend (origin : Origin) (change : Origin → Items → Option Items) :
    (path : List String) → Origin → Items → Option Items
  | [], here, items => change here items
  | key :: path, _, items =>
    match items.lookup key with
    | none => do
      let inside ← descend origin change path origin []
      return Table.set items key (.table origin inside)
    | some (.value _) => none
    | some (.table found inside) =>
      if origin = .dotted && found = .defined then none
      else do
        let inside ← descend origin change path found inside
        return Table.set items key (.table found inside)
    | some (.tables []) => none
    | some (.tables (last :: others)) => do
      let last ← descend origin change path .defined last
      return Table.set items key (.tables (last :: others))

/-- Add a setting to the table that is being filled. -/
def addSetting (items : Items) (path : List String) (key : String) (value : Value) : Option Items :=
  descend .dotted (fun here items =>
    if (here = .dotted) = path.isEmpty then none
    else if (items.lookup key).isSome then none
    else some (items ++ [(key, .value value)])) path .defined items

mutual

/-- The value that an item is when the document is complete. -/
def Item.toValue : Item → Value
  | .value value => value
  | .table _ items => .table (itemsToFields items)
  | .tables tables => .list (tablesToValues tables).reverse

/-- The fields that items are. -/
def itemsToFields : List (String × Item) → List (String × Value)
  | [] => []
  | (key, item) :: items => (key, item.toValue) :: itemsToFields items

/-- The values that tables are. -/
def tablesToValues : List (List (String × Item)) → List Value
  | [] => []
  | items :: tables => .table (itemsToFields items) :: tablesToValues tables

end

/-! ### Keys -/

/-- May the character stand in a key without quotes? -/
def isBare (c : Char) : Bool :=
  (c.isAlphanum && c.toNat < 0x80) || c = '_' || c = '-'

/-- One part of a key. -/
def keyPart : Parser String := fun text =>
  match text with
  | '"' :: _ => shortString text
  | '\'' :: _ => shortString text
  | _ =>
    let part := text.takeWhile isBare
    if part.isEmpty then none else some (String.ofList part, text.drop part.length)

/-- The parts of a key, between which stand dots with blanks around them. -/
def keyFrom : (fuel : Nat) → Parser (List String)
  | 0, _ => none
  | fuel + 1, text => do
    let (part, text) ← keyPart (skipBlanks text)
    match skipBlanks text with
    | '.' :: rest =>
      let (parts, rest) ← keyFrom fuel rest
      return (part :: parts, rest)
    | rest => return ([part], rest)

/-- A key: all its parts but the last, and the last. Blanks around it are left out. -/
def key : Parser (List String × String) := fun text => do
  let (parts, rest) ← keyFrom depthLimit text
  match parts.getLast? with
  | some last => return ((parts.dropLast, last), rest)
  | none => none

/-! ### Values -/

/-- Values between commas up to the bracket that ends a list. Each takes a character, so `fuel` may be
the length of the text. -/
def listItems (value : Parser Value) : (fuel : Nat) → (done : List Value) → Parser (List Value)
  | 0, _, _ => none
  | fuel + 1, done, text => do
    match ← skipLines? text.length text with
    | ']' :: rest => return (done.reverse, rest)
    | text =>
      let (item, text) ← value text
      match ← skipLines? text.length text with
      | ',' :: rest => listItems value fuel (item :: done) rest
      | ']' :: rest => return ((item :: done).reverse, rest)
      | _ => none

/-- Settings between commas up to the brace that ends a table. -/
def tableItems (value : Parser Value) : (fuel : Nat) → Items → Parser Items
  | 0, _, _ => none
  | fuel + 1, items, text => do
    let ((path, last), text) ← key text
    let text ← afterChar? '=' text
    let (found, text) ← value (skipBlanks text)
    let items ← addSetting items path last found
    match skipBlanks text with
    | ',' :: rest => tableItems value fuel items rest
    | '\x7d' :: rest => return (items, rest)
    | _ => none

/-- A value with at most `depth` levels of lists and tables. -/
def value : (depth : Nat) → Parser Value
  | _, '"' :: rest => (string ('"' :: rest)).map fun (found, rest) => (.text found, rest)
  | _, '\'' :: rest => (string ('\'' :: rest)).map fun (found, rest) => (.text found, rest)
  | _, 't' :: rest => (after? "rue" rest).map fun rest => (.boolean true, rest)
  | _, 'f' :: rest => (after? "alse" rest).map fun rest => (.boolean false, rest)
  | 0, '[' :: _ => none
  | depth + 1, '[' :: rest =>
    (listItems (value depth) (rest.length + 1) [] rest).map fun (items, rest) => (.list items, rest)
  | 0, '\x7b' :: _ => none
  | depth + 1, '\x7b' :: rest =>
    match skipBlanks rest with
    | '\x7d' :: rest => some (.table [], rest)
    | rest =>
      (tableItems (value depth) (rest.length + 1) [] rest).map fun (items, rest) =>
        (.table (itemsToFields items), rest)
  | _, text =>
    match time text with
    | some found => some found
    | none => number text

/-! ### Documents -/

/-- The document so far: the finished tables, and the table that settings go to. -/
structure State where
  root : Items
  /-- The items of the current table. -/
  current : Items
  /-- The header of the current table; there is none above the first header. -/
  header : Option (List String × String)
  /-- Is the current table one of a list? -/
  listed : Bool

/-- Put the current table in its place. -/
def State.finish (state : State) : Option Items :=
  match state.header with
  | none => some state.current
  | some (path, last) =>
    descend .implied (fun _ items =>
      if state.listed then
        match items.lookup last with
        | none => some (items ++ [(last, .tables [state.current])])
        | some (.tables tables) => some (Table.set items last (.tables (state.current :: tables)))
        | some _ => none
      else
        match items.lookup last with
        | none => some (items ++ [(last, .table .defined state.current)])
        | some _ => none) path .defined state.root

/-- The item under a key below a path. -/
def itemAt? (items : Items) : (path : List String) → (last : String) → Option Item
  | [], last => items.lookup last
  | key :: path, last =>
    match items.lookup key with
    | some (.table _ inside) => itemAt? inside path last
    | some (.tables (inside :: _)) => itemAt? inside path last
    | _ => none

/-- Begin a table with a header. What was implied under its key goes on in it. -/
def State.beginTable (state : State) (path : List String) (last : String) : Option State := do
  let root ← state.finish
  match itemAt? root path last with
  | some (.table .implied inside) =>
    let root ← descend .implied (fun _ items => some (Table.erase items last)) path .defined root
    return { root, current := inside, header := some (path, last), listed := false }
  | some _ => none
  | none =>
    let root ← descend .implied (fun _ items => some items) path .defined root
    return { root, current := [], header := some (path, last), listed := false }

/-- Begin a further table of a list with a header. -/
def State.beginListed (state : State) (path : List String) (last : String) : Option State := do
  let root ← state.finish
  let root ← descend .implied (fun _ items =>
    match items.lookup last with
    | none => some items
    | some (.tables _) => some items
    | some _ => none) path .defined root
  return { root, current := [], header := some (path, last), listed := true }

/-- The text behind the end of a line, before which blanks and a comment may stand. -/
def afterLine? (text : List Char) : Option (List Char) := do
  match ← skipComment? (skipBlanks text) with
  | [] => return []
  | text => afterLineEnd? text

/-- Lines up to the end of the document; each takes a character, so `fuel` may be the length of the
text. -/
def documentFrom : (fuel : Nat) → State → List Char → Option State
  | 0, state, text => if text.isEmpty then some state else none
  | fuel + 1, state, text =>
    match skipBlanks text with
    | [] => some state
    | '[' :: '[' :: rest => do
      let ((path, last), rest) ← key rest
      let rest ← after? "]]" rest
      let rest ← afterLine? rest
      let state ← state.beginListed path last
      documentFrom fuel state rest
    | '[' :: rest => do
      let ((path, last), rest) ← key rest
      let rest ← after? "]" rest
      let rest ← afterLine? rest
      let state ← state.beginTable path last
      documentFrom fuel state rest
    | '#' :: rest => do
      let rest ← afterLine? ('#' :: rest)
      documentFrom fuel state rest
    | text =>
      match afterLineEnd? text with
      | some rest => documentFrom fuel state rest
      | none => do
        let ((path, last), rest) ← key text
        let rest ← afterChar? '=' rest
        let (found, rest) ← value depthLimit (skipBlanks rest)
        let rest ← afterLine? rest
        let current ← addSetting state.current path last found
        documentFrom fuel { state with current } rest

/-- The fields of the table that a document is. A mark of the byte order at its front is left out. -/
def parse? (text : String) : Option (List (String × Value)) := do
  let text :=
    match text.toList with
    | '\uFEFF' :: rest => rest
    | text => text
  let state ← documentFrom (text.length + 1) ⟨[], [], none, false⟩ text
  let items ← state.finish
  return itemsToFields items

end SchemaBuild.Toml
