import Mathlib.Data.List.Forall2
import SchemaBuild.CommandLine.Commands
import SchemaBuild.Proofs.Build.Calls

/-!
# Builds from looked-up sources

The compiler that looks sources up does nothing to the site, so all that a build hands to its
generator was read before the first file is written: the schemas are a **snapshot** of the world in
which the build began.

* `SourceLookup.Snapshot` — the sources of packages in one world, with `Snapshot.unique`: there is
  one snapshot of a world at most;
* `BuildRequest.SnapshotContract` — what holds after a success: the report is about the world in
  which the build began, and so are the schemas that the generator got. Another generator in its
  place would have got the same ones, as far as it let the build go on;
* `BuildRequest.snapshot_contract` — it holds after every success.

That the generator may do anything to the world makes no difference, and neither does the registry.
-/

namespace SchemaBuild

variable {τ : Type}

/-! ### Snapshots -/

/-- The sources of the packages in a world, in the order of the packages. -/
def SourceLookup.Snapshot (lookup : SourceLookup) (world : World) :
    List PackageName → List SchemaSource → Prop :=
  List.Forall₂ fun package source => lookup.find world package = .ok (some source)

/-- There is one snapshot at most. -/
theorem SourceLookup.Snapshot.unique {lookup : SourceLookup} {world : World}
    {packages : List PackageName} {sources sources' : List SchemaSource}
    (h : lookup.Snapshot world packages sources) (h' : lookup.Snapshot world packages sources') :
    sources = sources' := by
  refine List.right_unique_forall₂' ?_ h h'
  intro package source source' hfind hfind'
  rw [hfind] at hfind'
  injection hfind' with hsome
  exact Option.some.inj hsome

/-- Compiling gives the source that is found. -/
theorem SourceLookup.compile_eq_ok_iff {lookup : SourceLookup} {world : World}
    {package : PackageName} {source : SchemaSource} :
    lookup.compile world package = .ok source ↔ lookup.find world package = .ok (some source) := by
  unfold SourceLookup.compile
  split
  · next error hfind => simp [hfind]
  · next found hfind => simp [hfind]
  · next hfind => simp [hfind]

/-! ### The generator's share of the calls -/

section Share

variable {S : Type} {request : BuildRequest}

/-- Before the packages are compiled the generator is not asked. -/
theorem filter_isGenerate_compileCalls (suppliers : List Supplier) (packages : List PackageName) :
    (compileCalls suppliers packages : List (Call S)).filter (·.isGenerate) = [] := by
  rw [List.filter_eq_nil_iff]
  intro call hmem
  obtain rfl | hmem := List.mem_cons.mp hmem
  · exact Bool.false_ne_true
  · obtain ⟨package, -, rfl⟩ := List.mem_map.mp hmem
    exact Bool.false_ne_true

/-- The generator's share of the calls of a build that asks it. -/
theorem filter_isGenerate_calls (suppliers : List Supplier) (packages : List PackageName)
    (root : Path) (schemas : List S) :
    (compileCalls suppliers packages ++ [Call.register root]
      ++ request.generateCalls schemas).filter (·.isGenerate) = request.generateCalls schemas := by
  rw [List.filter_append, List.filter_append, filter_isGenerate_compileCalls]
  show (request.generateCalls schemas).filter _ = _
  rw [List.filter_eq_self]
  intro call hmem
  obtain ⟨schema, -, rfl⟩ := List.mem_map.mp hmem
  rfl

end Share

/-! ### Collaborators that look sources up -/

/-- Collaborators with the compiler that looks sources up, and with any generator and any registry.
-/
def sourceCollaborators (extension : String)
    (generate : SourceLookup → GenerationOptions → SchemaSource → Path → Task (Site τ) Cause Unit)
    (register : Path → Task (Site τ) IoError Unit) : Collaborators τ SourceLookup SchemaSource where
  connect suppliers site := (⟨suppliers, extension⟩, site)
  compile lookup package := .ofWorld fun world => lookup.compile world package
  generate := generate
  register := register

/-- The collaborators of the command line are of this kind. -/
theorem pluginCollaborators_eq (behaviour : Behaviour) (command : PluginCommand)
    (extension : String) :
    pluginCollaborators behaviour command extension
      = sourceCollaborators (String.ofList (extension.toList.dropWhile (· = '.')))
          (pluginCollaborators behaviour command extension).generate
          (pluginCollaborators behaviour command extension).register := rfl

section Contract

variable {extension : String}
  {generate : SourceLookup → GenerationOptions → SchemaSource → Path → Task (Site τ) Cause Unit}
  {register : Path → Task (Site τ) IoError Unit} {request : BuildRequest} {classpath : Classpath}
  {site : Site τ} {suppliers : List Supplier}

/-- Packages that were compiled are a snapshot of the site, and the site is as it was. -/
theorem snapshot_of_compiles {lookup : SourceLookup} {schemas : List (CompiledSchema SchemaSource)}
    {before after : Site τ}
    (h : InTurn (Compiles ((sourceCollaborators extension generate register).compile lookup))
      schemas before after) :
    after = before ∧
      lookup.Snapshot before.world (schemas.map (·.package)) (schemas.map (·.schema)) := by
  have hstill : ∀ (compiled : CompiledSchema SchemaSource) (a b : Site τ),
      Compiles ((sourceCollaborators extension generate register).compile lookup) compiled a b →
        b = a := fun _ _ _ hcompiles => (Prod.mk.inj hcompiles).2.symm
  obtain ⟨rfl, hall⟩ := h.forall_of_still hstill
  refine ⟨rfl, ?_⟩
  -- pair by pair: every package was looked up in the world of `before`
  rw [SourceLookup.Snapshot, List.forall₂_map_left_iff, List.forall₂_map_right_iff,
    List.forall₂_same]
  intro compiled hmem
  exact SourceLookup.compile_eq_ok_iff.mp (Prod.mk.inj (hall compiled hmem)).1

/-- All packages that a build compiles are a snapshot of the world in which it began. -/
theorem snapshot_of_compiled {schemas : List (CompiledSchema SchemaSource)} {compiled : Site τ}
    (h : request.Compiled classpath (sourceCollaborators extension generate register) site suppliers
      schemas compiled) :
    SourceLookup.Snapshot ⟨suppliers, extension⟩ site.world request.packages
      (schemas.map (·.schema)) := by
  rw [h.packages]
  exact (snapshot_of_compiles h.compiles).2

/-- The generator is asked for the sources of a snapshot in their order, for all of them or for the
first few, whoever it is and whatever it does. -/
theorem generate_calls_prefix_snapshot {sources : List SchemaSource}
    (hresolve : Supplier.resolve site.world request.resources classpath = .ok suppliers)
    (hsnapshot : SourceLookup.Snapshot ⟨suppliers, extension⟩ site.world request.packages sources) :
    (request.calls classpath (sourceCollaborators extension generate register) site).filter
      (·.isGenerate) <+: request.generateCalls sources := by
  cases hrun : request.run classpath (sourceCollaborators extension generate register) site with
  | mk result after =>
    have hcourse := BuildRequest.course_of_run hrun
    generalize request.calls classpath (sourceCollaborators extension generate register) site
      = calls at hcourse ⊢
    -- the stages before the generator see the world of the beginning, so they end as they must
    have hschemas : ∀ {suppliers' schemas compiled},
        request.Compiled classpath (sourceCollaborators extension generate register) site suppliers'
          schemas compiled → schemas.map (·.schema) = sources := by
      intro suppliers' schemas compiled hcompiled
      have hsame := hcompiled.resolved
      rw [hresolve] at hsame
      cases hsame
      exact (snapshot_of_compiled hcompiled).unique hsnapshot
    cases hcourse with
    | unresolved resolves => exact List.nil_prefix
    | uncompiled resolves packages compiles fails =>
      rw [List.filter_append, filter_isGenerate_compileCalls]
      exact List.nil_prefix
    | unmade compiles ensures =>
      rw [filter_isGenerate_compileCalls]
      exact List.nil_prefix
    | unregistered compiles ensures registers =>
      rw [List.filter_append, filter_isGenerate_compileCalls]
      exact List.nil_prefix
    | @ungenerated suppliers done rest failing compiled prepared ready between _ cause compiles
        ensures registers generates fails =>
      -- what was not asked is what the schemas behind the failing one would have made
      refine ⟨request.generateCalls (rest.map (·.schema)), ?_⟩
      rw [List.append_assoc, ← request.generateCalls_concat, filter_isGenerate_calls,
        ← hschemas compiles]
      simp [BuildRequest.generateCalls]
    | finished compiles ensures registers generates =>
      rw [filter_isGenerate_calls]
      exact ⟨[], by rw [hschemas compiles, List.append_nil]⟩

/-- **What holds after a success.** `calls` are the calls that were made. -/
structure BuildRequest.SnapshotContract (request : BuildRequest) (classpath : Classpath)
    (extension : String) (site : Site τ) (report : BuildReport) (calls : List (Call SchemaSource)) :
    Prop where
  /-- The search path is the one of the world in which the build began. -/
  resolved : Supplier.resolve site.world request.resources classpath = .ok report.suppliers
  /-- The packages are those of the request, in its order and as often as they stand there. -/
  packages : report.packages = request.packages
  output : report.output = request.output
  /-- The generator was asked once for each package, with the source that is found for it in the
  world in which the build began. No generator is asked anything else there, whatever its calls do.
  -/
  asked : ∃ sources,
    SourceLookup.Snapshot ⟨report.suppliers, extension⟩ site.world request.packages sources ∧
      calls.filter (·.isGenerate) = request.generateCalls sources ∧
      ∀ generate register,
        (request.calls classpath (sourceCollaborators extension generate register) site).filter
          (·.isGenerate) <+: request.generateCalls sources

/-- **Success contract.** A build from looked-up sources that succeeds has handed the snapshot of
the world in which it began to the generator. -/
theorem BuildRequest.snapshot_contract {report : BuildReport} {after : Site τ}
    (h : request.run classpath (sourceCollaborators extension generate register) site
      = (.ok report, after)) :
    request.SnapshotContract classpath extension site report
      (request.calls classpath (sourceCollaborators extension generate register) site) := by
  have hcourse := course_of_run h
  generalize request.calls classpath (sourceCollaborators extension generate register) site = calls
    at hcourse ⊢
  cases hcourse with
  | @finished suppliers schemas compiled prepared ready _ compiles ensures registers generates =>
    have hsnapshot := snapshot_of_compiled compiles
    exact {
      resolved := compiles.resolved
      packages := rfl
      output := rfl
      asked := ⟨schemas.map (·.schema), hsnapshot, filter_isGenerate_calls _ _ _ _,
        fun _ _ => generate_calls_prefix_snapshot compiles.resolved hsnapshot⟩ }

end Contract

/-- A request for the same package twice. -/
def forTwice : BuildRequest where
  output := .ofString "/out"
  resources := .ofString "/res"
  packages := [⟨"c", rfl⟩, ⟨"c", rfl⟩]
  nonempty := List.cons_ne_nil _ _

/-- A site with the source of one package. -/
def sourceSite : Site Unit where
  world :=
    { files := ⟨[(Bytes.ofString "res", .directory [(Bytes.ofString "c.stema", .file [67] false)])]⟩
      environment := ⟨[]⟩
      here := .root
      started := [] }
  kept := ()

/-- Collaborators that look sources up and empty them in passing when they are to generate. -/
def emptying : Collaborators Unit SourceLookup SchemaSource :=
  sourceCollaborators "stema"
    (fun _ _ _ _ site =>
      let location := [Bytes.ofString "res", Bytes.ofString "c.stema"]
      let files := site.world.files.put location (.file [] false)
      (.ok (), { site with world := { site.world with files } }))
    fun _ site => (.ok (), site)

/-- The generator's second call has the source that its first call has emptied. -/
theorem snapshot_contract_emptied :
    (forTwice.run (.fixed []) emptying sourceSite).1
        = .ok ⟨[⟨.folder, .ofString "/res"⟩], forTwice.packages, forTwice.output⟩ ∧
      forTwice.SnapshotContract (.fixed []) "stema" sourceSite
        ⟨[⟨.folder, .ofString "/res"⟩], forTwice.packages, forTwice.output⟩
        (compileCalls [⟨.folder, .ofString "/res"⟩] forTwice.packages ++ [.register forTwice.output]
          ++ forTwice.generateCalls
            (forTwice.packages.map fun package =>
              ⟨package, ⟨.folder, .ofString "/res"⟩, "C"⟩)) := by
  have hresult : (forTwice.run (.fixed []) emptying sourceSite).1
      = .ok ⟨[⟨.folder, .ofString "/res"⟩], forTwice.packages, forTwice.output⟩ := by
    decide +kernel
  have hcalls : forTwice.calls (.fixed []) emptying sourceSite
      = compileCalls [⟨.folder, .ofString "/res"⟩] forTwice.packages ++ [.register forTwice.output]
        ++ forTwice.generateCalls
          (forTwice.packages.map fun package => ⟨package, ⟨.folder, .ofString "/res"⟩, "C"⟩) := by
    decide +kernel
  rw [← hcalls]
  exact ⟨hresult, BuildRequest.snapshot_contract (Prod.ext hresult rfl)⟩

end SchemaBuild
