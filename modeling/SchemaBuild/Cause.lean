import SchemaBuild.IoError

/-!
# Chains of causes

Collaborators of a build (classpaths, compilers, generators) report a failure as a **cause**: a chain
of faults from the outermost context to the root. A fault says in its kind which failure of this
library it is, or that it is none of them.
-/

namespace SchemaBuild

/-- Which failure a fault is. -/
inductive FaultKind where
  | packageName
  | configLayers
  | configMissing
  | configInvalid
  | configDotenv
  | supplierClasspath
  | supplierIo
  | supplierArchive
  | buildConfiguration
  | buildResolution
  | buildCompilation
  | buildDirectory
  | buildRegistration
  | buildGeneration
  | pluginPackageNotFound
  | pluginNoCommand
  | pluginSpawn
  | pluginIo
  | pluginFailed
  /-- A context or a failure of somebody else. -/
  | foreign
  deriving Repr, DecidableEq

/-- One link of a chain of causes. -/
structure Fault where
  kind : FaultKind
  message : String
  deriving Repr, DecidableEq

/-- A chain of causes, the outermost first. -/
structure Cause where
  top : Fault
  below : List Fault
  deriving Repr, DecidableEq

namespace Cause

/-- The links of the chain, the outermost first. -/
def faults (cause : Cause) : List Fault := cause.top :: cause.below

/-- A cause with nothing below it. -/
def ofKind (kind : FaultKind) (message : String) : Cause := ⟨⟨kind, message⟩, []⟩

/-- A failure that is none of this library. -/
def ofMessage (message : String) : Cause := ofKind .foreign message

/-- A failure of the operating system. -/
def ofIo (error : IoError) : Cause := ofMessage error.message

/-- The cause as what lies below a further fault. -/
def under (cause : Cause) (kind : FaultKind) (message : String) : Cause :=
  ⟨⟨kind, message⟩, cause.faults⟩

/-- The cause in a context that is no failure of its own. -/
def inContext (cause : Cause) (message : String) : Cause := cause.under .foreign message

/-- The kind of the outermost fault that is a failure of this library. -/
def kind (cause : Cause) : FaultKind :=
  match cause.faults.find? (·.kind ≠ .foreign) with
  | some fault => fault.kind
  | none => .foreign

/-- All messages on one line, the outermost first. -/
def line (cause : Cause) : String := ": ".intercalate (cause.faults.map (·.message))

@[simp] theorem faults_ofKind (kind : FaultKind) (message : String) :
    (ofKind kind message).faults = [⟨kind, message⟩] := rfl

@[simp] theorem faults_under (cause : Cause) (kind : FaultKind) (message : String) :
    (cause.under kind message).faults = ⟨kind, message⟩ :: cause.faults := rfl

end Cause

end SchemaBuild
