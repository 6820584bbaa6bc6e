import SchemaBuild.Text.Alphanumeric
import SchemaBuild.Text.Blank
import SchemaBuild.Text.Utf8

/-!
# Assignments to variables

A line `NAME=value` of a dotenv file sets a variable. The value may have parts in single quotes, which
are taken as they stand, and in double quotes; outside single quotes a backslash takes the next
character as it is, and `$NAME` or `${NAME}` stands for the value of another variable. Behind a value
without quotes there may be blanks and a comment.

A name behind `$` goes on as long as there are letters and digits. The character that ends it belongs
to the value whatever it is: a quote there does not close anything.
-/

namespace SchemaBuild.Dotenv

/-- A line, or the value on it, that cannot be understood from a position on. -/
structure BadLine where
  text : String
  position : Nat
  deriving Repr, DecidableEq

/-! ### Values -/

/-- Between which quotes a character of a value stands. -/
inductive Quotes where
  | none
  /-- Single quotes. -/
  | strong
  /-- Double quotes. -/
  | weak
  deriving Repr, DecidableEq

/-- The name of another variable that is being read. -/
inductive Reference where
  | none
  /-- Behind `$`; the name so far in reverse order. -/
  | bare (name : List Char)
  /-- Behind `${`. -/
  | braced (name : List Char)
  deriving Repr, DecidableEq

/-- The state of reading a value. -/
structure ValueState where
  /-- The value so far, in reverse order. -/
  done : List Char
  quotes : Quotes
  reference : Reference
  /-- Is the next character escaped? -/
  escaped : Bool
  /-- Has a blank ended the value? -/
  ended : Bool
  deriving Repr, DecidableEq

namespace ValueState

/-- The state before a value. -/
def start : ValueState := ⟨[], .none, .none, false, false⟩

/-- The state with a character added to the value. -/
def push (state : ValueState) (c : Char) : ValueState := { state with done := c :: state.done }

/-- The state with the value of a variable added, whose name is given in reverse order. -/
def substitute (state : ValueState) (valueOf : String → String) (name : List Char) : ValueState :=
  { state with done := (valueOf (String.ofList name.reverse)).toList.reverse ++ state.done }

/-- The state behind a character that is not escaped and belongs to no name. -/
def plain (state : ValueState) (c : Char) : ValueState :=
  if c = '$' then { state with reference := .bare [] }
  else
    match state.quotes with
    | .weak =>
      if c = '"' then { state with quotes := .none }
      else if c = '\\' then { state with escaped := true }
      else state.push c
    | _ =>
      if c = '\'' then { state with quotes := .strong }
      else if c = '"' then { state with quotes := .weak }
      else if c = '\\' then { state with escaped := true }
      else if c = ' ' || c = '\t' then { state with ended := true }
      else state.push c

/-- The state behind a character while a name is being read. -/
def named (state : ValueState) (valueOf : String → String) (c : Char) : ValueState :=
  match state.reference with
  | .none => state.plain c
  | .bare name =>
    if Text.isAlphanumeric c then { state with reference := .bare (c :: name) }
    else if c = '\x7b' && name.isEmpty then { state with reference := .braced [] }
    else
      let state := state.substitute valueOf name
      if c = '$' then { state with reference := .bare [] }
      else { state with reference := .none }.push c
  | .braced name =>
    if c = '\x7d' then { state.substitute valueOf name with reference := .none }
    else { state with reference := .braced (c :: name) }

/-- The character that a backslash and another one stand for. -/
def escape? (c : Char) : Option Char :=
  if c = '\\' || c = '\'' || c = '"' || c = '$' || c = ' ' then some c
  else if c = 'n' then some '\n'
  else none

/-- The state behind a character; `none` if it may not stand there. -/
def next? (state : ValueState) (valueOf : String → String) (c : Char) : Option ValueState :=
  if state.ended then if c = ' ' || c = '\t' then some state else none
  else if state.escaped then
    (escape? c).map fun escaped => { state with escaped := false }.push escaped
  else if state.quotes = .strong then
    some (if c = '\'' then { state with quotes := .none } else state.push c)
  else some (state.named valueOf c)

/-- The value at its end; `none` if something is still open. -/
def finish? (state : ValueState) (valueOf : String → String) : Option String :=
  if state.quotes ≠ .none then none
  else
    match state.reference with
    | .none => some (String.ofList state.done.reverse)
    | .bare name => some (String.ofList (state.substitute valueOf name).done.reverse)
    | .braced _ => none

end ValueState

/-- Read the rest of a value from its character number `position` on. A value that cannot be understood
is reported as the text `whole`. -/
def valueFrom (valueOf : String → String) (whole : List Char) :
    (position : Nat) → ValueState → List Char → Except BadLine String
  | _, state, [] =>
    match state.finish? valueOf with
    | some value => .ok value
    | none => .error ⟨String.ofList whole, (Utf8.encode whole).length - 1⟩
  | position, state, c :: rest =>
    if state.ended && c = '#' then valueFrom valueOf whole position state []
    else
      match state.next? valueOf c with
      | none => .error ⟨String.ofList whole, position⟩
      | some state => valueFrom valueOf whole (position + 1) state rest

/-- The value that a text is. -/
def readValue (valueOf : String → String) (text : List Char) : Except BadLine String :=
  valueFrom valueOf text 0 .start text

/-! ### Lines -/

/-- May a name begin with this character? -/
def isNameStart (c : Char) : Bool := c.isAlpha || c = '_'

/-- May this character stand in a name? -/
def isNameChar (c : Char) : Bool := c.isAlphanum || c = '_' || c = '.'

/-- A place on a line: what stands behind it, and the number of bytes before it. -/
structure Cursor where
  rest : List Char
  position : Nat
  deriving Repr, DecidableEq

namespace Cursor

/-- Go over the characters at the front that are such. -/
def skip (cursor : Cursor) (isSuch : Char → Bool) : Cursor :=
  ⟨cursor.rest.dropWhile isSuch,
    cursor.position + (Utf8.encode (cursor.rest.takeWhile isSuch)).length⟩

/-- Go over blanks. -/
def skipBlanks (cursor : Cursor) : Cursor := cursor.skip Text.isBlank

/-- Is there nothing more, or a comment? -/
def atEnd (cursor : Cursor) : Bool :=
  match cursor.rest with
  | [] => true
  | c :: _ => c = '#'

/-- Take a name and the blanks behind it. -/
def name? (cursor : Cursor) : Option (String × Cursor) :=
  match cursor.rest with
  | c :: _ =>
    if isNameStart c then
      some (String.ofList (cursor.rest.takeWhile isNameChar), (cursor.skip isNameChar).skipBlanks)
    else none
  | [] => none

/-- Go over an equals sign. -/
def equals? (cursor : Cursor) : Option Cursor :=
  match cursor.rest with
  | '=' :: rest => some ⟨rest, cursor.position + 1⟩
  | _ => none

end Cursor

/-- The name on a line and the place behind its equals sign; or the place of what is wrong. A name may
have the word `export` before it, which else is a name itself. -/
def target (cursor : Cursor) : Except Nat (String × Cursor) :=
  match cursor.name? with
  | none => .error cursor.position
  | some (name, behind) =>
    match behind.equals? with
    | some cursor => .ok (name, cursor)
    | none =>
      if name = "export" then
        match behind.name? with
        | none => .error behind.position
        | some (name, behind) =>
          match behind.equals? with
          | some cursor => .ok (name, cursor)
          | none => .error behind.position
      else .error behind.position

/-- What an assignment assigns: a variable's name and its value, which is missing if nothing is
written for it. -/
structure Assignment where
  name : String
  value : Option String
  deriving Repr, DecidableEq

/-- The assignment on a line, if there is one; a line may also be blank or a comment. -/
def Assignment.ofLine (valueOf : String → String) (line : List Char) :
    Except BadLine (Option Assignment) :=
  let cursor := Cursor.skipBlanks ⟨Text.trimEnd line, 0⟩
  if cursor.atEnd then .ok none
  else
    match target cursor with
    | .error position => .error ⟨String.ofList line, position⟩
    | .ok (name, cursor) =>
      let cursor := cursor.skipBlanks
      if cursor.atEnd then .ok (some ⟨name, none⟩)
      else
        match readValue valueOf cursor.rest with
        | .error bad => .error bad
        | .ok value => .ok (some ⟨name, some value⟩)

end SchemaBuild.Dotenv
