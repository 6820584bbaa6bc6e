import SchemaBuild.Cause
import SchemaBuild.Json
import SchemaBuild.Json.Reader
import SchemaBuild.Text.Blank

/-!
# Package names

A schema package is asked for by name. The name is free apart from a few rules of shape: it is not
empty and holds no white space and no path separator, since suppliers find a package by a file that is
named for it. `PackageName.ofString?` is the only way to make one, and `ofString?_eq_ok_iff` says
which texts it accepts.
-/

namespace SchemaBuild

/-- Which rule a text breaks that is no package name. -/
inductive PackageName.Flaw where
  | empty
  | blank
  | separator
  deriving Repr, DecidableEq

namespace PackageName

/-- May this character not stand in a package name because paths are cut at it? -/
def isSeparator (c : Char) : Bool := c = '/' || c = '\\'

/-- The first rule that a text breaks, in the order: not empty, no white space, no separator. -/
def flaw? (text : String) : Option Flaw :=
  if text.toList.isEmpty then some .empty
  else if text.toList.any Text.isBlank then some .blank
  else if text.toList.any isSeparator then some .separator
  else none

/-- The rule in words. -/
def Flaw.message : Flaw → String
  | empty => "package name is empty"
  | blank => "package name contains whitespace"
  | separator => "package name contains a path separator"

end PackageName

/-- The name of a schema package. -/
structure PackageName where
  text : String
  sound : PackageName.flaw? text = none
  deriving DecidableEq

/-- A text that was meant as a package name and is none. -/
structure InvalidPackageName where
  name : String
  flaw : PackageName.Flaw
  deriving Repr, DecidableEq

namespace InvalidPackageName

/-- The failure in words. -/
def message (invalid : InvalidPackageName) : String :=
  s!"Invalid package name '{invalid.name}': {invalid.flaw.message}"

/-- The failure as a cause. -/
def toCause (invalid : InvalidPackageName) : Cause := .ofKind .packageName invalid.message

end InvalidPackageName

namespace PackageName

/-- The package name that a text is, or the first rule that it breaks. -/
def ofString? (text : String) : Except InvalidPackageName PackageName :=
  match h : flaw? text with
  | none => .ok ⟨text, h⟩
  | some flaw => .error ⟨text, flaw⟩

theorem ofString?_eq_ok_iff {text : String} {name : PackageName} :
    ofString? text = .ok name ↔ name.text = text := by
  unfold ofString?
  constructor
  · split <;> intro h <;> cases h
    rfl
  · rintro rfl
    split
    · rfl
    · next h => rw [name.sound] at h; cases h

/-- Making a package name of the text of one gives it back. -/
@[simp] theorem ofString?_text (name : PackageName) : ofString? name.text = .ok name :=
  ofString?_eq_ok_iff.2 rfl

/-- Does one name come before another, or are they equal? Names are ordered by the numbers of their
characters. -/
def le (a b : PackageName) : Bool := decide (a.text ≤ b.text)

/-- The names in order. -/
def sorted (names : List PackageName) : List PackageName := names.mergeSort le

/-- How many different names there are. -/
def distinct (names : List PackageName) : Nat := names.eraseDups.length

/-- The name as JSON. -/
def toJson (name : PackageName) : Json := .string name.text

/-- Read a name. A string that is no package name is reported with the rule that it breaks. -/
def read : Json.Reader PackageName := fun text => do
  let (found, rest) ← Json.readString "a string" text
  match ofString? found with
  | .ok name => return (name, rest)
  | .error invalid => throw (.mismatch invalid.message)

end PackageName

end SchemaBuild
