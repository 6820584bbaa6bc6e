import SchemaBuild.Table
import SchemaBuild.Text.Utf8

/-!
# Environments

The variables of a process, in the order in which they were first set. Names and values are bytes;
a variable whose value is not UTF-8 is present but cannot be read as text.

`get?_set_self` and `get?_set_of_ne` say what setting a variable does.
-/

namespace SchemaBuild

/-- Variables with their values, in order. -/
structure Environment where
  entries : List (Bytes × Bytes)
  deriving Repr, DecidableEq, Inhabited

namespace Environment

/-- The value of the first variable of that name. -/
def get? (environment : Environment) (name : Bytes) : Option Bytes :=
  environment.entries.lookup name

/-- The value of a variable, if it is set and is text. -/
def getText? (environment : Environment) (name : Bytes) : Option String :=
  (environment.get? name).bind Bytes.toString?

/-- Set a variable; one that is there keeps its place. -/
def set (environment : Environment) (name value : Bytes) : Environment :=
  ⟨Table.set environment.entries name value⟩

@[simp] theorem get?_set_self (environment : Environment) (name value : Bytes) :
    (environment.set name value).get? name = some value := by
  simp [get?, set, Table.lookup_set]

theorem get?_set_of_ne (environment : Environment) {name other : Bytes} (value : Bytes)
    (h : other ≠ name) : (environment.set name value).get? other = environment.get? other := by
  simp [get?, set, Table.lookup_set, h]

end Environment

end SchemaBuild
