import SchemaBuild.Text.Blank

/-!
# Lines of a dotenv file

A value in quotes may go on over several lines, so a line of assignments is one or more lines of the
file. `Pending.add` adds one line of the file to what has been read and says whether that is a whole
line of assignments.
-/

namespace SchemaBuild.Dotenv

/-- What the next character of a line may do. -/
inductive LineState where
  /-- The line may end here. -/
  | complete
  /-- Behind a blank, where a comment may begin. -/
  | blank
  /-- Behind a backslash outside quotes. -/
  | escape
  /-- In single quotes. -/
  | strong
  /-- Behind a backslash in single quotes. -/
  | strongEscape
  /-- In double quotes. -/
  | weak
  /-- Behind a backslash in double quotes. -/
  | weakEscape
  deriving Repr, DecidableEq

/-- The state behind a character that begins something outside quotes. -/
def LineState.opening (c : Char) : LineState :=
  if c = '\\' then .escape
  else if c = '"' then .weak
  else if c = '\'' then .strong
  else .complete

/-- The state behind a character; `none` if a comment begins there. -/
def LineState.next? (state : LineState) (c : Char) : Option LineState :=
  match state with
  | complete => some (if Text.isBlank c && c ≠ '\n' && c ≠ '\r' then blank else opening c)
  | blank => if c = '#' then none else some (opening c)
  | escape => some complete
  | strong => some (if c = '\\' then strongEscape else if c = '\'' then complete else strong)
  | strongEscape => some strong
  | weak => some (if c = '\\' then weakEscape else if c = '"' then complete else weak)
  | weakEscape => some weak

/-- The state behind a text, or the text before the comment that begins in it. `done` is the text
before it in reverse order. -/
def LineState.run (state : LineState) (done : List Char) : List Char → LineState ⊕ List Char
  | [] => .inl state
  | c :: rest =>
    match state.next? c with
    | none => .inr done.reverse
    | some state => state.run (c :: done) rest

/-- The text without the line end at its end. -/
def withoutLineEnd (text : List Char) : List Char :=
  match text.reverse with
  | '\n' :: '\r' :: rest => rest.reverse
  | '\n' :: rest => rest.reverse
  | _ => text

/-- A line of assignments of which a part has been read. -/
structure Pending where
  text : List Char
  state : LineState
  deriving Repr, DecidableEq

namespace Pending

/-- Nothing has been read. -/
def empty : Pending := ⟨[], .complete⟩

/-- Add a line of the file, with its line end: a whole line of assignments, or what is pending then. A
line that starts with `#` is empty. -/
def add (pending : Pending) (line : List Char) : List Char ⊕ Pending :=
  let text := pending.text ++ line
  if (Text.trimStart text).head? = some '#' then .inl []
  else
    match pending.state.run [] line with
    | .inr before => .inl (pending.text ++ before)
    | .inl .complete => .inl (withoutLineEnd text)
    | .inl state => .inr ⟨text, state⟩

end Pending

end SchemaBuild.Dotenv
