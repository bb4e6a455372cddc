/-
Loading signed Audit Packs (`standards/packs.py`, `audit_pack_release.py`).

A directory is admitted in four steps: the release documents belong to its files and are signed,
`pack.yaml` satisfies the published schema, it is a coherent manifest, and it has been released.
SHA-256, which is taken to be injective, the signature check, the reading of texts and of YAML, the
schema and the parsing of a manifest are parameters.

`manifest_of_package`: a package digest has one manifest.  `pinsDigest_eq_iff`: two compilations of
packs with the same package digest, under the same versions, have one pins digest exactly when the
packs lie in directories of one name, since the pins name the directory.
-/
import AssuranceOS.Lib.PythonValue
import AssuranceOS.Standards.Pinning

namespace Standards

open Checked JsonText
open Vault (Bytes utf8 spelled spelled_injective)
open Orchestration (WorkflowDefinition)

/-- A pack directory: its name, and the files below it by their relative paths. -/
structure PackDirectory where
  name : String
  files : List (String × Bytes)
  paths_nodup : (files.map Prod.fst).Nodup

/-- `_RELEASE_EXCLUDES`. -/
def releaseExcludes : List String := ["release.json", "release.signature.json"]

def isPackaged (path : String) : Bool :=
  path ∉ releaseExcludes && !(path.toList.splitOn '/').contains "__pycache__".toList

structure PackEnvironment (Raw : Type) where
  sha256 : Bytes → String
  /-- `path.read_text(encoding="utf-8")`. -/
  readText : Bytes → Option (List Char)
  /-- `yaml.safe_load`. -/
  safeLoad : List Char → Option Raw
  isMapping : Raw → Bool
  /-- `PackManifest.model_validate`. -/
  modelValidate : Raw → Option PackManifest
  real : FloatLiteral → FloatValue
  /-- The checks on the public key, on its fingerprint and on the signature itself. -/
  verifies : Bytes → Object → Object → Bool

structure AuditPackRegistry (Raw : Type) where
  trustedPublicKey : Bytes
  /-- The published schema has no objection. -/
  schemaAccepts : Raw → Bool

section Loading

variable {Raw : Type} (env : PackEnvironment Raw) (registry : AuditPackRegistry Raw)
  (dir : PackDirectory)

def packageFiles : Object :=
  (dir.files.filter fun f => isPackaged f.1).map fun f => (f.1, .str (env.sha256 f.2))

/-- `package_digest`, of the canonical text of the files. -/
def packageDigest (files : Object) : String :=
  env.sha256 (utf8 (dumps (.obj files)))

/-- `json.loads(path.read_text(encoding="utf-8"))`; what it raises is a `ValueError`. -/
def readJson (bytes : Bytes) : Except StandardsError Value := do
  let text ← ofOption (.packSignature (.unreadable dir.name)) (env.readText bytes)
  ofOption (.packSignature (.unreadable dir.name)) (loads text)

/-- `verify_audit_pack_release`. -/
def verifyAuditPackRelease : Except StandardsError Object := do
  let releaseBytes ← ofOption (.packSignature (.notReleaseSigned dir.name))
    (dir.files.lookup "release.json")
  let signatureBytes ← ofOption (.packSignature (.notReleaseSigned dir.name))
    (dir.files.lookup "release.signature.json")
  let releaseValue ← readJson env dir releaseBytes
  let signatureValue ← readJson env dir signatureBytes
  let document ← ofOption .attributeError (asObject releaseValue)
  require (asString (get document "schema") = some "assurance.audit_pack_release.v1")
    (.packSignature .unsupportedSchema)
  let signature ← ofOption .attributeError (asObject signatureValue)
  require (asString (get signature "schema") = some "assurance.audit_pack_release_signature.v1")
    (.packSignature .unsupportedSchema)
  require (asString (get signature "algorithm") = some "Ed25519")
    (.packSignature .unsupportedAlgorithm)
  require (equal env.real (get document "files") (.obj (packageFiles env dir)) = true)
    (.packSignature (.differentFiles dir.name))
  require (asString (get document "package_sha256") =
      some (packageDigest env (packageFiles env dir)))
    (.packSignature (.differentDigest dir.name))
  require (env.verifies registry.trustedPublicKey signature document = true)
    (.packSignature (.invalidSignature dir.name))
  return document

/-- `pack.yaml`, read and validated. -/
def readManifest (manifestBytes : Bytes) : Except StandardsError PackManifest := do
  let text ← ofOption .unicodeError (env.readText manifestBytes)
  let raw ← ofOption .yamlError (env.safeLoad text)
  require (env.isMapping raw = true) (.packSchema dir.name)
  require (registry.schemaAccepts raw = true) (.packSchema dir.name)
  ofOption (.packSchema dir.name) (env.modelValidate raw)

/-- `str(document["package_sha256"])`, of a document that has the entry. -/
def packageSha256Of (document : Object) : String :=
  (asString (get document "package_sha256")).getD ""

/-- `load_one`. -/
def loadOne : Except StandardsError LoadedAuditPack := do
  let manifestBytes ← ofOption (.packNotFound dir.name) (dir.files.lookup "pack.yaml")
  let release ← verifyAuditPackRelease env registry dir
  let manifest ← readManifest env registry dir manifestBytes
  require (asString (get release "pack_id") = some manifest.packId ∧
      asString (get release "version") = some manifest.version)
    (.packSignature (.otherIdentity dir.name manifest.reference))
  require (manifest.status = .released)
    (.packNotReleased (.status manifest.reference manifest.status))
  require (manifest.signed = true) (.packSignature (.declaredUnsigned manifest.reference))
  return { packDirName := dir.name, manifest := manifest, packageSha256 := packageSha256Of release }

end Loading

/-! ### What has been loaded -/

section Loaded

variable {Raw : Type} {env : PackEnvironment Raw} {registry registry' : AuditPackRegistry Raw}
  {dir dir' : PackDirectory} {pack pack' : LoadedAuditPack}

theorem verifyAuditPackRelease_digest {document : Object}
    (h : verifyAuditPackRelease env registry dir = .ok document) :
    packageSha256Of document = packageDigest env (packageFiles env dir) := by
  unfold verifyAuditPackRelease at h
  obtain ⟨_, -, hsignature⟩ := ofOption_bind_eq_ok.mp h
  obtain ⟨_, -, hread⟩ := ofOption_bind_eq_ok.mp hsignature
  obtain ⟨_, -, hread'⟩ := bind_eq_ok.mp hread
  obtain ⟨_, -, hobject⟩ := bind_eq_ok.mp hread'
  obtain ⟨found, -, hschema⟩ := ofOption_bind_eq_ok.mp hobject
  obtain ⟨-, hobject'⟩ := require_bind_eq_ok.mp hschema
  obtain ⟨_, -, hschema'⟩ := ofOption_bind_eq_ok.mp hobject'
  obtain ⟨-, halgorithm⟩ := require_bind_eq_ok.mp hschema'
  obtain ⟨-, hfiles⟩ := require_bind_eq_ok.mp halgorithm
  obtain ⟨-, hpackage⟩ := require_bind_eq_ok.mp hfiles
  obtain ⟨hdigest, hverifies⟩ := require_bind_eq_ok.mp hpackage
  obtain ⟨-, hdocument⟩ := require_bind_eq_ok.mp hverifies
  cases hdocument
  unfold packageSha256Of
  rw [hdigest]
  rfl

def ManifestOf (env : PackEnvironment Raw) (bytes : Bytes) (manifest : PackManifest) : Prop :=
  ∃ text raw, env.readText bytes = some text ∧ env.safeLoad text = some raw ∧
    env.modelValidate raw = some manifest

variable {bytes : Bytes}

theorem ManifestOf.unique {m m' : PackManifest} (h : ManifestOf env bytes m)
    (h' : ManifestOf env bytes m') : m = m' := by
  obtain ⟨text, raw, htext, hraw, hm⟩ := h
  obtain ⟨text', raw', htext', hraw', hm'⟩ := h'
  cases htext.symm.trans htext'
  cases hraw.symm.trans hraw'
  exact Option.some.inj (hm.symm.trans hm')

theorem readManifest_eq_ok {manifest : PackManifest}
    (h : readManifest env registry dir bytes = .ok manifest) : ManifestOf env bytes manifest := by
  unfold readManifest at h
  obtain ⟨text, htext, hload⟩ := ofOption_bind_eq_ok.mp h
  obtain ⟨raw, hraw, hmapping⟩ := ofOption_bind_eq_ok.mp hload
  obtain ⟨-, hschema⟩ := require_bind_eq_ok.mp hmapping
  obtain ⟨-, hvalidate⟩ := require_bind_eq_ok.mp hschema
  exact ⟨text, raw, htext, hraw, ofOption_eq_ok.mp hvalidate⟩

/-- **A loaded pack** has the name of its directory, the digest of its files and the manifest of
its `pack.yaml`. -/
theorem loadOne_eq_ok (h : loadOne env registry dir = .ok pack) :
    pack.packDirName = dir.name ∧
    pack.packageSha256 = packageDigest env (packageFiles env dir) ∧
    ∃ bytes, dir.files.lookup "pack.yaml" = some bytes ∧ ManifestOf env bytes pack.manifest := by
  unfold loadOne at h
  obtain ⟨bytes, hbytes, hverify⟩ := ofOption_bind_eq_ok.mp h
  obtain ⟨release, hrelease, hread⟩ := bind_eq_ok.mp hverify
  obtain ⟨manifest, hmanifest, hidentity⟩ := bind_eq_ok.mp hread
  obtain ⟨-, hstatus⟩ := require_bind_eq_ok.mp hidentity
  obtain ⟨-, hsigned⟩ := require_bind_eq_ok.mp hstatus
  obtain ⟨-, hpack⟩ := require_bind_eq_ok.mp hsigned
  cases hpack
  exact ⟨rfl, verifyAuditPackRelease_digest hrelease, bytes, hbytes, readManifest_eq_ok hmanifest⟩

theorem packageFiles_nodup (env : PackEnvironment Raw) (dir : PackDirectory) :
    ((packageFiles env dir).map Prod.fst).Nodup := by
  have hmap : (packageFiles env dir).map Prod.fst =
      (dir.files.filter fun f => isPackaged f.1).map Prod.fst := by
    rw [packageFiles, List.map_map]
    rfl
  rw [hmap]
  exact (dir.paths_nodup).sublist (List.filter_sublist.map _)

theorem get_packageFiles {path : String} (hpath : isPackaged path = true)
    (h : dir.files.lookup path = some bytes) :
    get (packageFiles env dir) path = .str (env.sha256 bytes) := by
  have hmem : (path, Value.str (env.sha256 bytes)) ∈ packageFiles env dir :=
    List.mem_map.mpr ⟨(path, bytes), List.mem_filter.mpr ⟨mem_of_lookup h, hpath⟩, rfl⟩
  rw [JsonText.get, lookup_of_mem (packageFiles_nodup env dir) hmem]
  rfl

/-- **One digest, one manifest.** -/
theorem manifest_of_package (hinj : Function.Injective env.sha256)
    (h : loadOne env registry dir = .ok pack) (h' : loadOne env registry' dir' = .ok pack')
    (hdigest : pack.packageSha256 = pack'.packageSha256) : pack.manifest = pack'.manifest := by
  obtain ⟨-, hpackage, bytes, hbytes, hmanifest⟩ := loadOne_eq_ok h
  obtain ⟨-, hpackage', bytes', hbytes', hmanifest'⟩ := loadOne_eq_ok h'
  rw [hpackage, hpackage'] at hdigest
  have hfiles : (Value.obj (packageFiles env dir)).sorted =
      (Value.obj (packageFiles env dir')).sorted :=
    text_injective (Vault.utf8_injective (hinj hdigest))
  have hentry := get_sorted_congr (packageFiles_nodup env dir) (packageFiles_nodup env dir')
    hfiles "pack.yaml"
  rw [get_packageFiles (by decide) hbytes, get_packageFiles (by decide) hbytes'] at hentry
  have hsame : bytes = bytes' := hinj (Value.str.inj hentry)
  exact hmanifest.unique (hsame ▸ hmanifest')

end Loaded

theorem digestSource_keys (pins : CompilationPins) :
    (pins.digestSource.map Prod.fst).Nodup := by
  show ["pack_id", "pack_version", "package_sha256", "release_key_id", "standard_code",
    "standard_version", "criteria", "control_tests", "agent_roles", "platform_version",
    "organization_profile_version", "compiled_from"].Nodup
  decide

variable {sha256 : Bytes → String} {pins pins' : CompilationPins}

theorem digestSource_of_pinsDigest (hinj : Function.Injective sha256)
    (h : pinsDigest sha256 pins = pinsDigest sha256 pins') (key : String) :
    (JsonText.get pins.digestSource key).sorted = (JsonText.get pins'.digestSource key).sorted :=
  get_sorted_congr (digestSource_keys pins) (digestSource_keys pins')
    (dumpsAscii_inj.mp (Vault.utf8_injective (hinj h))) key

theorem packageSha256_of_pinsDigest (hinj : Function.Injective sha256)
    (h : pinsDigest sha256 pins = pinsDigest sha256 pins') :
    pins.packageSha256 = pins'.packageSha256 := by
  have hentry := digestSource_of_pinsDigest hinj h "package_sha256"
  simpa [CompilationPins.digestSource, get_cons] using hentry

theorem compiledFrom_of_pinsDigest (hinj : Function.Injective sha256)
    (h : pinsDigest sha256 pins = pinsDigest sha256 pins') :
    pins.compiledFrom = pins'.compiledFrom := by
  have hentry := digestSource_of_pinsDigest hinj h "compiled_from"
  simpa [CompilationPins.digestSource, get_cons] using hentry

section Agents

variable {compiler compiler' : AuditPackCompiler} {manifest : PackManifest}

theorem mem_procedureAgents {role : String} :
    role ∈ AuditPackCompiler.procedureAgents manifest ↔
      ∃ procedure ∈ manifest.procedures, procedure.agent = role := by
  unfold AuditPackCompiler.procedureAgents Orchestration.WorkflowCompiler.sorted
  rw [List.mem_insertionSort, List.mem_dedup, List.mem_map]

theorem agentRoles_congr (h : ∀ procedure ∈ manifest.procedures,
    compiler.releasedAgents.lookup procedure.agent =
      compiler'.releasedAgents.lookup procedure.agent) :
    compiler.agentRoles manifest = compiler'.agentRoles manifest := by
  unfold AuditPackCompiler.agentRoles
  refine mapM_congr fun role hrole => ?_
  obtain ⟨procedure, hprocedure, rfl⟩ := mem_procedureAgents.mp hrole
  rw [h procedure hprocedure]

end Agents

section Compilations

variable {Raw : Type} {env : PackEnvironment Raw} {registry registry' : AuditPackRegistry Raw}
  {dir dir' : PackDirectory} {pack pack' : LoadedAuditPack}
  {compiler compiler' : AuditPackCompiler} {context context' : OrganizationContext}
  {workflow workflow' : WorkflowDefinition} {pins pins' : CompilationPins}

theorem pins_of_compile (h : compiler.compile pack context = .ok (workflow, pins)) :
    ∃ roles, compiler.agentRoles pack.manifest = .ok roles ∧
      pins = compiler.pinsOf pack context roles := by
  obtain ⟨-, -, -, -, -, roles, hroles, heq⟩ := AuditPackCompiler.compile_eq_ok.mp h
  exact ⟨roles, hroles, heq.symm⟩

theorem tasks_of_compile (h : compiler.compile pack context = .ok (workflow, pins)) :
    tasksOf pack.manifest pack.packageSha256 = .ok workflow.tasks := by
  obtain ⟨-, -, -, ⟨tasks, htasks, hworkflow⟩, -⟩ := AuditPackCompiler.compile_eq_ok.mp h
  rw [workflowOf_tasks hworkflow]
  exact htasks

theorem pins_congr (h : compiler.compile pack context = .ok (workflow, pins))
    (h' : compiler'.compile pack' context' = .ok (workflow', pins'))
    (hmanifest : pack.manifest = pack'.manifest)
    (hpackage : pack.packageSha256 = pack'.packageSha256)
    (hplatform : compiler.platformVersion = compiler'.platformVersion)
    (hagents : ∀ procedure ∈ pack.manifest.procedures,
      compiler.releasedAgents.lookup procedure.agent =
        compiler'.releasedAgents.lookup procedure.agent)
    (hprofile : context.profileVersion = context'.profileVersion)
    (hdir : pack.packDirName = pack'.packDirName) : pins = pins' := by
  obtain ⟨roles, hroles, rfl⟩ := pins_of_compile h
  obtain ⟨roles', hroles', rfl⟩ := pins_of_compile h'
  have hsame : roles = roles' := by
    rw [agentRoles_congr hagents, hmanifest, hroles'] at hroles
    exact (Except.ok.inj hroles).symm
  unfold AuditPackCompiler.pinsOf
  rw [hmanifest, hpackage, hplatform, hprofile, hdir, hsame]

/-- **The pins digest.**  Compilations of one package on one platform for one profile have one
digest exactly when the directories have one name; and one digest means the same tasks. -/
theorem pinsDigest_eq_iff (hinj : Function.Injective env.sha256)
    (hload : loadOne env registry dir = .ok pack)
    (hload' : loadOne env registry' dir' = .ok pack')
    (h : compiler.compile pack context = .ok (workflow, pins))
    (h' : compiler'.compile pack' context' = .ok (workflow', pins')) :
    (pack.packageSha256 = pack'.packageSha256 →
      compiler.platformVersion = compiler'.platformVersion →
      (∀ procedure ∈ pack.manifest.procedures, compiler.releasedAgents.lookup procedure.agent =
        compiler'.releasedAgents.lookup procedure.agent) →
      context.profileVersion = context'.profileVersion →
      (pinsDigest env.sha256 pins = pinsDigest env.sha256 pins' ↔ dir.name = dir'.name)) ∧
    (pinsDigest env.sha256 pins = pinsDigest env.sha256 pins' →
      workflow.tasks = workflow'.tasks) := by
  have hname := (loadOne_eq_ok hload).1
  have hname' := (loadOne_eq_ok hload').1
  constructor
  · intro hpackage hplatform hagents hprofile
    have hmanifest := manifest_of_package hinj hload hload' hpackage
    constructor
    · intro hdigest
      obtain ⟨roles, -, rfl⟩ := pins_of_compile h
      obtain ⟨roles', -, rfl⟩ := pins_of_compile h'
      have hfrom := compiledFrom_of_pinsDigest hinj hdigest
      exact hname.symm.trans (hfrom.trans hname')
    · intro hdir
      have hpins := pins_congr h h' hmanifest hpackage hplatform hagents hprofile
        (hname.trans (hdir.trans hname'.symm))
      rw [hpins]
  · intro hdigest
    have hpackage : pack.packageSha256 = pack'.packageSha256 := by
      obtain ⟨roles, -, rfl⟩ := pins_of_compile h
      obtain ⟨roles', -, rfl⟩ := pins_of_compile h'
      exact packageSha256_of_pinsDigest hinj hdigest
    have htasks := tasks_of_compile h
    rw [manifest_of_package hinj hload hload' hpackage, hpackage, tasks_of_compile h'] at htasks
    exact (Except.ok.inj htasks).symm

end Compilations

/-! ### A pack in two directories -/

/-- The text of `sampleManifest []`. -/
def sampleYaml : String :=
  "pack_id: change
version: 1.0.0
status: released
signed: true
objective: Every change in the period was approved.
standard:
  code: CHG
  name: Change policy
  issuer: Internal audit
  version: '1'
criteria:
- criteria_id: CHG-1
  text: Every change is approved.
  citation: Section 1
controls:
- control_id: CTL-1
  risk: Unapproved changes
  expected: An approval for each change
  criteria_refs: [CHG-1]
procedures:
- key: test
  step: 1
  agent: tester
  action: Run the test
  task_type: control_test
  control_ref: CTL-1
  test_ref:
    test_id: SCM-01
    version: 1.0.0
  human_gate: sign-off
human_gates: [sign-off]
quality_rules: [cite]
"

def decodeUtf8 (bytes : Bytes) : Option (List Char) :=
  (String.fromUTF8? bytes.toByteArray).map String.toList

theorem decodeUtf8_utf8 (cs : List Char) : decodeUtf8 (utf8 cs) = some cs := by
  have hvalid : (utf8 cs).toByteArray.IsValidUTF8 := ByteArray.isValidUTF8_utf8Encode
  have hstring : String.fromUTF8? (utf8 cs).toByteArray = some (String.ofList cs) := by
    unfold String.fromUTF8?
    rw [dif_pos hvalid]
    rfl
  rw [decodeUtf8, hstring, Option.map_some, String.toList_ofList]

def sampleEnvironment : PackEnvironment (List Char) where
  sha256 := spelled
  readText := decodeUtf8
  safeLoad := some
  isMapping _ := true
  modelValidate raw := if raw = sampleYaml.toList then some (sampleManifest []) else none
  real _ := .nan
  verifies _ _ _ := true

theorem sampleEnvironment_injective : Function.Injective sampleEnvironment.sha256 :=
  spelled_injective

def sampleRegistry : AuditPackRegistry (List Char) where
  trustedPublicKey := []
  schemaAccepts _ := true

/-! The files of a directory whose `pack.yaml` has a given text. -/

def filesOf (text : List Char) : Object := [("pack.yaml", .str (spelled (utf8 text)))]

def releaseOf (text : List Char) : Object :=
  [("schema", .str "assurance.audit_pack_release.v1"), ("pack_id", .str "change"),
    ("version", .str "1.0.0"), ("released_at", .str "2026-01-01T00:00:00+00:00"),
    ("files", .obj (filesOf text)),
    ("package_sha256", .str (packageDigest sampleEnvironment (filesOf text)))]

def sampleSignature : Object :=
  [("schema", .str "assurance.audit_pack_release_signature.v1"), ("algorithm", .str "Ed25519"),
    ("key_id", .str "key")]

theorem samplePaths_nodup : ["pack.yaml", "release.json", "release.signature.json"].Nodup := by
  decide

def directoryOf (name : String) (text : List Char) : PackDirectory where
  name := name
  files := [("pack.yaml", utf8 text), ("release.json", utf8 (Value.obj (releaseOf text)).text),
    ("release.signature.json", utf8 (Value.obj sampleSignature).text)]
  paths_nodup := samplePaths_nodup

section Directory

variable (name : String) (text : List Char)

theorem packageFiles_directoryOf :
    packageFiles sampleEnvironment (directoryOf name text) = filesOf text := by
  have hfilter : (directoryOf name text).files.filter (fun f => isPackaged f.1) =
      [("pack.yaml", utf8 text)] := by
    have hyaml : isPackaged "pack.yaml" = true := by decide
    have hrelease : isPackaged "release.json" = false := by decide
    have hsignature : isPackaged "release.signature.json" = false := by decide
    simp [directoryOf, hyaml, hrelease, hsignature]
  rw [packageFiles, hfilter]
  rfl

theorem readJson_utf8 {dir : PackDirectory} {v : Value} (hv : v.Distinct) :
    readJson sampleEnvironment dir (utf8 v.text) = .ok v := by
  have hread : sampleEnvironment.readText (utf8 v.text) = some v.text := decodeUtf8_utf8 _
  rw [readJson, hread]
  show ofOption _ (loads v.text) = _
  rw [loads_text hv]
  rfl

theorem releaseOf_distinct : (Value.obj (releaseOf text)).Distinct := by
  simp [releaseOf, filesOf, Value.Distinct, EntriesDistinct, EntryDistinct]

theorem sampleSignature_distinct : (Value.obj sampleSignature).Distinct := by
  simp [sampleSignature, Value.Distinct, EntriesDistinct, EntryDistinct]

theorem equal_filesOf : equal sampleEnvironment.real (.obj (filesOf text)) (.obj (filesOf text)) =
    true := by
  simp [filesOf, equal, equalEntries, equalEntry]

theorem verify_directoryOf :
    verifyAuditPackRelease sampleEnvironment sampleRegistry (directoryOf name text) =
      .ok (releaseOf text) := by
  have hrelease : (directoryOf name text).files.lookup "release.json" =
      some (utf8 (Value.obj (releaseOf text)).text) := by
    simp [directoryOf, List.lookup_cons]
  have hsignature : (directoryOf name text).files.lookup "release.signature.json" =
      some (utf8 (Value.obj sampleSignature).text) := by
    simp [directoryOf, List.lookup_cons]
  have hfiles : JsonText.get (releaseOf text) "files" = .obj (filesOf text) := rfl
  have hdigest : JsonText.get (releaseOf text) "package_sha256" =
      .str (packageDigest sampleEnvironment (filesOf text)) := rfl
  unfold verifyAuditPackRelease
  rw [hrelease, hsignature, packageFiles_directoryOf]
  refine ofOption_bind_eq_ok.mpr ⟨_, rfl, ofOption_bind_eq_ok.mpr ⟨_, rfl, ?_⟩⟩
  refine bind_eq_ok.mpr ⟨_, readJson_utf8 (releaseOf_distinct text), ?_⟩
  refine bind_eq_ok.mpr ⟨_, readJson_utf8 sampleSignature_distinct, ?_⟩
  refine ofOption_bind_eq_ok.mpr ⟨_, rfl, require_bind_eq_ok.mpr ⟨rfl, ?_⟩⟩
  refine ofOption_bind_eq_ok.mpr ⟨_, rfl, require_bind_eq_ok.mpr ⟨rfl, ?_⟩⟩
  refine require_bind_eq_ok.mpr ⟨rfl, require_bind_eq_ok.mpr ⟨?_, ?_⟩⟩
  · rw [hfiles]
    exact equal_filesOf text
  · exact require_bind_eq_ok.mpr ⟨congrArg asString hdigest, require_bind_eq_ok.mpr ⟨rfl, rfl⟩⟩

theorem readManifest_directoryOf {manifest : PackManifest}
    (h : sampleEnvironment.modelValidate text = some manifest) :
    readManifest sampleEnvironment sampleRegistry (directoryOf name text) (utf8 text) =
      .ok manifest := by
  have hread : sampleEnvironment.readText (utf8 text) = some text := decodeUtf8_utf8 _
  unfold readManifest
  rw [hread]
  refine ofOption_bind_eq_ok.mpr ⟨_, rfl, ofOption_bind_eq_ok.mpr ⟨_, rfl, ?_⟩⟩
  refine require_bind_eq_ok.mpr ⟨rfl, require_bind_eq_ok.mpr ⟨rfl, ?_⟩⟩
  exact ofOption_eq_ok.mpr h

theorem loadOne_directoryOf
    (h : sampleEnvironment.modelValidate text = some (sampleManifest [])) :
    loadOne sampleEnvironment sampleRegistry (directoryOf name text) =
      .ok
        { packDirName := name
          manifest := sampleManifest []
          packageSha256 := packageDigest sampleEnvironment (filesOf text) } := by
  have hlookup : (directoryOf name text).files.lookup "pack.yaml" = some (utf8 text) := by
    simp [directoryOf]
  unfold loadOne
  rw [hlookup]
  refine ofOption_bind_eq_ok.mpr ⟨_, rfl, ?_⟩
  refine bind_eq_ok.mpr ⟨_, verify_directoryOf name text, ?_⟩
  refine bind_eq_ok.mpr ⟨_, readManifest_directoryOf name text h, ?_⟩
  refine require_bind_eq_ok.mpr ⟨⟨rfl, rfl⟩, require_bind_eq_ok.mpr ⟨rfl, ?_⟩⟩
  exact require_bind_eq_ok.mpr ⟨rfl, rfl⟩

end Directory

/-- What is loaded from a directory with the text of `sampleYaml`. -/
def sampleLoaded (name : String) : LoadedAuditPack where
  packDirName := name
  manifest := sampleManifest []
  packageSha256 := packageDigest sampleEnvironment (filesOf sampleYaml.toList)

theorem sample_loaded (name : String) :
    loadOne sampleEnvironment sampleRegistry (directoryOf name sampleYaml.toList) =
      .ok (sampleLoaded name) := by
  have hvalid : ∀ text, text = sampleYaml.toList →
      sampleEnvironment.modelValidate text = some (sampleManifest []) := fun _ h => if_pos h
  rw [loadOne_directoryOf name sampleYaml.toList (hvalid _ rfl), sampleLoaded]

theorem sample_compiled (name : String) (hname : name = "change" ∨ name = "copy") :
    ∃ workflow pins, (samplePlatform []).compile (sampleLoaded name) sampleContext =
      .ok (workflow, pins) := by
  have hok : ((samplePlatform []).compile (sampleLoaded name) sampleContext).isOk = true := by
    rcases hname with rfl | rfl
    · decide +kernel
    · decide +kernel
  rcases hcompile : (samplePlatform []).compile (sampleLoaded name) sampleContext with
    e | ⟨workflow, pins⟩
  · rw [hcompile] at hok
    cases hok
  · exact ⟨workflow, pins, rfl⟩

/-- One directory and its copy under another name. -/
theorem pinsDigest_eq_iff_sample : ∃ workflow pins workflow' pins',
    (samplePlatform []).compile (sampleLoaded "change") sampleContext = .ok (workflow, pins) ∧
    (samplePlatform []).compile (sampleLoaded "copy") sampleContext = .ok (workflow', pins') ∧
    pinsDigest spelled pins ≠ pinsDigest spelled pins' := by
  obtain ⟨workflow, pins, h⟩ := sample_compiled "change" (.inl rfl)
  obtain ⟨workflow', pins', h'⟩ := sample_compiled "copy" (.inr rfl)
  refine ⟨workflow, pins, workflow', pins', h, h', ?_⟩
  have hiff := (pinsDigest_eq_iff sampleEnvironment_injective
    (sample_loaded "change") (sample_loaded "copy") h h').1 rfl rfl (fun _ _ => rfl) rfl
  intro hdigest
  have hnames : "change" = "copy" := hiff.mp hdigest
  revert hnames
  decide

/-- The digest of a pack depends on the name of its directory. -/
theorem moved_pack_other_digest :
    ¬ ∀ (Raw : Type) (env : PackEnvironment Raw), Function.Injective env.sha256 →
      ∀ (registry registry' : AuditPackRegistry Raw) (dir dir' : PackDirectory)
        (pack pack' : LoadedAuditPack) (compiler compiler' : AuditPackCompiler)
        (context context' : OrganizationContext) (workflow workflow' : WorkflowDefinition)
        (pins pins' : CompilationPins),
      loadOne env registry dir = .ok pack → loadOne env registry' dir' = .ok pack' →
      compiler.compile pack context = .ok (workflow, pins) →
      compiler'.compile pack' context' = .ok (workflow', pins') →
      pack.packageSha256 = pack'.packageSha256 →
      compiler.platformVersion = compiler'.platformVersion →
      compiler.releasedAgents = compiler'.releasedAgents →
      context.profileVersion = context'.profileVersion →
      pinsDigest env.sha256 pins = pinsDigest env.sha256 pins' := by
  intro hclaim
  obtain ⟨workflow, pins, h⟩ := sample_compiled "change" (.inl rfl)
  obtain ⟨workflow', pins', h'⟩ := sample_compiled "copy" (.inr rfl)
  have hdigest := hclaim _ _ sampleEnvironment_injective _ _ _ _ _ _ _ _ _ _ _ _ _ _ (sample_loaded "change")
    (sample_loaded "copy") h h' rfl rfl rfl rfl
  have hfrom := compiledFrom_of_pinsDigest spelled_injective hdigest
  obtain ⟨roles, -, rfl⟩ := pins_of_compile h
  obtain ⟨roles', -, rfl⟩ := pins_of_compile h'
  have hnames : "change" = "copy" := hfrom
  revert hnames
  decide

end Standards
