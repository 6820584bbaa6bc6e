import SchemaBuild.Json
import SchemaBuild.Json.Reader

/-!
# Generation options

The switches that are handed unchanged to the generator for every schema.
-/

namespace SchemaBuild

/-- What the generator is to write besides the plain types. Both switches are on unless they are
turned off. -/
structure GenerationOptions where
  /-- Write a getter for every field. -/
  getters : Bool := true
  /-- Write a copy-with-change function for every field. -/
  updaters : Bool := true
  deriving Repr, DecidableEq

namespace GenerationOptions

/-- The options as JSON. -/
def toJson (options : GenerationOptions) : Json :=
  .object [("generate_getters", .bool options.getters), ("generate_updaters", .bool options.updaters)]

/-- What has been read of the options. -/
structure Draft where
  getters : Option Bool
  updaters : Option Bool

/-- The fields of the options. -/
def fields : List (Json.Field Draft) :=
  [Json.field "generate_getters" false (·.getters)
      (fun draft value => { draft with getters := some value }) Json.readBool,
    Json.field "generate_updaters" false (·.updaters)
      (fun draft value => { draft with updaters := some value }) Json.readBool]

/-- Read options. -/
def read : Json.Reader GenerationOptions := fun text => do
  let (draft, rest) ← Json.readRecord "GenerationOptions" fields ⟨none, none⟩ text
  match draft with
  | ⟨some getters, some updaters⟩ => return (⟨getters, updaters⟩, rest)
  | _ => throw .malformed

end GenerationOptions

end SchemaBuild
