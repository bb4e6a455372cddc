/-
The control tests that a compilation pins.

`pinned_tests` says when the tests of the procedures are pinned: exactly when the pack lists
each of them under its compatibility requirements, which nothing checks.  It says as well
which released tests a pack may require: of several released versions of one test only the
greatest, in the order of texts, is part of the inventory, so a pack that pins another one is
refused.  `unpinned_test_compiles` has a pack of either kind.
-/
import AssuranceOS.Standards.Compiler

namespace Standards

open Checked

variable {releases : List TestReference} {compiler : AuditPackCompiler} {manifest : PackManifest}

instance releaseLe_total : Std.Total releaseLe where
  total t u := by
    unfold releaseLe
    rcases lt_trichotomy t.testId u.testId with hlt | heq | hgt
    · exact Or.inl (Or.inl hlt)
    · rcases le_total t.version u.version with hle | hle
      · exact Or.inl (Or.inr ⟨heq, hle⟩)
      · exact Or.inr (Or.inr ⟨heq.symm, hle⟩)
    · exact Or.inr (Or.inl hgt)

instance releaseLe_trans : IsTrans TestReference releaseLe where
  trans t u w htu huw := by
    unfold releaseLe at *
    rcases htu with hlt | ⟨heq, hle⟩
    · rcases huw with hlt' | ⟨heq', -⟩
      · exact Or.inl (hlt.trans hlt')
      · exact Or.inl (heq' ▸ hlt)
    · rcases huw with hlt' | ⟨heq', hle'⟩
      · exact Or.inl (heq ▸ hlt')
      · exact Or.inr ⟨heq.trans heq', hle.trans hle'⟩

variable {t : TestReference}
variable {u : TestReference} {id version : String}

theorem version_le_of_releaseLe (h : releaseLe t u) (hid : t.testId = u.testId) :
    t.version ≤ u.version := by
  rcases h with hlt | ⟨-, hle⟩
  · exact absurd hid hlt.ne
  · exact hle

theorem mem_of_lookup_released (h : (releasedTestVersions releases).lookup id = some version) :
    (⟨id, version⟩ : TestReference) ∈ releases := by
  obtain ⟨t, ht, heq⟩ := List.mem_map.mp (Dict.mem_of_lookup_ofPairs h)
  obtain ⟨rfl, rfl⟩ := Prod.mk.inj heq
  exact (List.mem_insertionSort _).mp ht

theorem le_of_lookup_released (h : (releasedTestVersions releases).lookup id = some version)
    (hu : u ∈ releases) (hid : u.testId = id) : u.version ≤ version := by
  unfold releasedTestVersions at h
  rw [Dict.lookup_ofPairs, List.lookup_eq_some_iff] at h
  obtain ⟨after, before, heq, hafter⟩ := h
  -- the listing up to the entry, the entry, and entries of other tests
  have hlist : (listReleases releases).map (fun t => (t.testId, t.version)) =
      before.reverse ++ (id, version) :: after.reverse := by
    rw [← List.reverse_inj, heq]
    simp
  obtain ⟨front, rest, hfront, hmapFront, hrest⟩ := List.map_eq_append_iff.mp hlist
  obtain ⟨t, back, hback, ht, hmapBack⟩ := List.map_eq_cons_iff.mp hrest
  obtain ⟨rfl, rfl⟩ := Prod.mk.inj ht
  have hsorted : (listReleases releases).Pairwise releaseLe := List.pairwise_insertionSort _ _
  have hmem : u ∈ listReleases releases := (List.mem_insertionSort _).mpr hu
  rw [hfront, hback] at hsorted hmem
  rcases List.mem_append.mp hmem with hin | hin
  · exact version_le_of_releaseLe
      ((List.pairwise_append.mp hsorted).2.2 u hin t List.mem_cons_self) hid
  · rcases List.mem_cons.mp hin with rfl | hin
    · exact le_rfl
    · have hpair : (u.testId, u.version) ∈ after := by
        rw [← List.mem_reverse, ← hmapBack]
        exact List.mem_map_of_mem hin
      have hne := hafter _ hpair
      simp [hid] at hne

/-- **The inventory** has the greatest released version of each test. -/
theorem lookup_released_iff (ht : t ∈ releases) :
    (releasedTestVersions releases).lookup t.testId = some t.version ↔
      ∀ u ∈ releases, u.testId = t.testId → u.version ≤ t.version := by
  constructor
  · intro h u hu hid
    exact le_of_lookup_released h hu hid
  · intro hmax
    rcases hlookup : (releasedTestVersions releases).lookup t.testId with _ | version
    · unfold releasedTestVersions at hlookup
      rw [Dict.lookup_ofPairs, List.lookup_eq_none_iff] at hlookup
      have hpair : (t.testId, t.version) ∈
          ((listReleases releases).map fun t => (t.testId, t.version)).reverse :=
        List.mem_reverse.mpr (List.mem_map_of_mem ((List.mem_insertionSort _).mpr ht))
      have hne := hlookup _ hpair
      simp at hne
    · have hle := hmax _ (mem_of_lookup_released hlookup) rfl
      have hge := le_of_lookup_released hlookup ht rfl
      exact congrArg some (le_antisymm hle hge)

/-- The platform has the connectors, the agents and the version that the pack needs. -/
structure OtherRequirementsMet (compiler : AuditPackCompiler) (manifest : PackManifest) : Prop where
  platform : ¬ versionTuple compiler.platformVersion <
    versionTuple manifest.compatibility.minPlatformVersion
  roles : ∀ role ∈ manifest.compatibility.requiresAgentRoles, compiler.agentReleased role = true
  connectors : ∀ connector ∈ manifest.compatibility.requiresConnectors,
    connector ∈ compiler.availableConnectors
  procedures : ∀ procedure ∈ manifest.procedures, compiler.agentReleased procedure.agent = true

/-- The inventory has the test at the version that the pack pins. -/
def Offered (compiler : AuditPackCompiler) (t : TestReference) : Prop :=
  compiler.releasedTests.lookup t.testId = some t.version

theorem testProblem_eq_none :
    compiler.testProblem t = none ↔ Offered compiler t := by
  unfold AuditPackCompiler.testProblem Offered
  rcases compiler.releasedTests.lookup t.testId with _ | released
  · simp
  · by_cases heq : released = t.version
    · simp [heq]
    · simp [heq]

/-- **Compatibility**: every required test at its version, and everything else. -/
theorem checkCompatibility_eq_ok :
    compiler.checkCompatibility manifest = .ok () ↔ OtherRequirementsMet compiler manifest ∧
      ∀ t ∈ manifest.compatibility.requiresControlTests, Offered compiler t := by
  unfold AuditPackCompiler.checkCompatibility AuditPackCompiler.problems
  rw [require_eq_ok]
  simp only [List.append_eq_nil_iff, List.map_eq_nil_iff, List.filter_eq_nil_iff,
    List.filterMap_eq_nil_iff, testProblem_eq_none, decide_not, Bool.not_eq_true,
    Bool.not_eq_false', Bool.not_eq_false, decide_eq_true_eq]
  constructor
  · rintro ⟨⟨⟨⟨hplatform, htests⟩, hroles⟩, hconnectors⟩, hprocedures⟩
    refine ⟨⟨?_, hroles, hconnectors, hprocedures⟩, htests⟩
    intro hlt
    rw [if_pos hlt] at hplatform
    cases hplatform
  · rintro ⟨⟨hplatform, hroles, hconnectors, hprocedures⟩, htests⟩
    exact ⟨⟨⟨⟨if_neg hplatform, htests⟩, hroles⟩, hconnectors⟩, hprocedures⟩

/-- Every test that a procedure refers to is declared as required. -/
def ListsItsTests (manifest : PackManifest) : Prop :=
  ∀ procedure ∈ manifest.procedures, ∀ t ∈ procedure.testRef,
    t ∈ manifest.compatibility.requiresControlTests

theorem lookup_controlTests_iff {pack : LoadedAuditPack} {context : OrganizationContext}
    {roles : List (String × String)}
    (h : ∀ u ∈ pack.manifest.compatibility.requiresControlTests, Offered compiler u) :
    (compiler.pinsOf pack context roles).controlTests.lookup t.testId = some t.version ↔
      t ∈ pack.manifest.compatibility.requiresControlTests := by
  constructor
  · intro hlookup
    obtain ⟨u, hu, heq⟩ := List.mem_map.mp (Dict.mem_of_lookup_ofPairs hlookup)
    obtain ⟨hid, hversion⟩ := Prod.mk.inj heq
    have htu : u = t := by
      cases u
      cases t
      exact (TestReference.mk.injEq ..).mpr ⟨hid, hversion⟩
    exact htu ▸ hu
  · intro ht
    refine Dict.lookup_ofPairs_of_mem (List.mem_map_of_mem ht) ?_
    intro version hmem
    obtain ⟨u, hu, heq⟩ := List.mem_map.mp hmem
    obtain ⟨hid, rfl⟩ := Prod.mk.inj heq
    -- both are at the version of the inventory
    have hboth : some u.version = some t.version := by
      rw [← h u hu, ← h t ht, hid]
    exact Option.some.inj hboth

/-- **Pinned tests.**  The test of every procedure of a compiled pack is released at its version
and pinned exactly when the pack requires each of them; and a pack whose required tests are all
released passes the check, when nothing else is missing, exactly when it requires the greatest
released version of each. -/
theorem pinned_tests (compiler : AuditPackCompiler) (releases : List TestReference)
    (hinventory : compiler.releasedTests = releasedTestVersions releases) :
    (∀ pack context workflow pins, compiler.compile pack context = .ok (workflow, pins) →
      ((∀ procedure ∈ pack.manifest.procedures, ∀ t ∈ procedure.testRef,
          t ∈ releases ∧ pins.controlTests.lookup t.testId = some t.version) ↔
        ListsItsTests pack.manifest)) ∧
    ∀ manifest : PackManifest, OtherRequirementsMet compiler manifest →
      (∀ t ∈ manifest.compatibility.requiresControlTests, t ∈ releases) →
      (compiler.checkCompatibility manifest = .ok () ↔
        ∀ t ∈ manifest.compatibility.requiresControlTests, ∀ u ∈ releases,
          u.testId = t.testId → u.version ≤ t.version) := by
  constructor
  · intro pack context workflow pins h
    obtain ⟨hcompatible, -, -, -, -, roles, -, rfl⟩ := AuditPackCompiler.compile_eq_ok.mp h
    have hoffered := (checkCompatibility_eq_ok.mp hcompatible).2
    constructor
    · intro hpinned procedure hprocedure t ht
      exact (lookup_controlTests_iff hoffered).mp (hpinned procedure hprocedure t ht).2
    · intro hlisted procedure hprocedure t ht
      have hrequired := hlisted procedure hprocedure t ht
      refine ⟨?_, (lookup_controlTests_iff hoffered).mpr hrequired⟩
      have hreleased : compiler.releasedTests.lookup t.testId = some t.version :=
        hoffered t hrequired
      rw [hinventory] at hreleased
      exact mem_of_lookup_released hreleased
  · intro manifest hother hreleased
    rw [checkCompatibility_eq_ok, and_iff_right hother]
    refine forall₂_congr fun t ht => ?_
    unfold Offered
    rw [hinventory]
    exact lookup_released_iff (hreleased t ht)

/-! ### Concrete packs -/

theorem open_ordered : Window.Ordered {} := by
  intro start hstart
  cases hstart

def sampleStandard : StandardInput where
  code := "CHG"
  name := "Change policy"
  issuer := "Internal audit"
  version := "1"
  effective_ordered := open_ordered

def sampleCriterion : PackCriterion where
  criteriaId := "CHG-1"
  text := "Every change is approved."
  citation := "Section 1"
  effective_ordered := open_ordered

theorem sampleRefs_ne_nil : ["CHG-1"] ≠ [] := by decide

def sampleControl : PackControl where
  controlId := "CTL-1"
  risk := "Unapproved changes"
  expected := "An approval for each change"
  criteriaRefs := ["CHG-1"]
  criteriaRefs_ne_nil := sampleRefs_ne_nil

theorem sampleKey_valid : Orchestration.validKey "test" = true := by decide

theorem sampleStep_pos : 1 ≤ 1 := le_rfl

theorem sampleDeadline_pos : ∀ s ∈ (none : Option ℕ), 1 ≤ s := by
  intro s hs
  cases hs

theorem samplePins_test :
    "control_test" = "control_test" ↔ (some (⟨"SCM-01", "1.0.0"⟩ : TestReference)).isSome := by
  decide

def sampleProcedure : PackProcedure where
  key := "test"
  step := 1
  agent := "tester"
  action := "Run the test"
  taskType := "control_test"
  controlRef := some "CTL-1"
  testRef := some ⟨"SCM-01", "1.0.0"⟩
  humanGate := some "sign-off"
  key_valid := sampleKey_valid
  one_le_step := sampleStep_pos
  deadline_pos := sampleDeadline_pos
  pins_test := samplePins_test

theorem sampleProcedures_coherent :
    ([sampleProcedure].map (·.key)).Nodup ∧
    (∀ procedure ∈ [sampleProcedure], ∀ key ∈ procedure.dependsOn,
      key ∈ [sampleProcedure].map (·.key) ∧ key ≠ procedure.key) ∧
    (∀ procedure ∈ [sampleProcedure], PyString.truthy procedure.controlRef = true →
      ∀ ref ∈ procedure.controlRef, ref ∈ [sampleControl].map (·.controlId)) ∧
    (∀ procedure ∈ [sampleProcedure], PyString.truthy procedure.humanGate = true →
      ∀ gate ∈ procedure.humanGate, gate ∈ ["sign-off"]) ∧
    ∀ gate ∈ ["sign-off"], ∃ procedure ∈ [sampleProcedure],
      PyString.truthy procedure.humanGate = true ∧ procedure.humanGate = some gate := by
  decide

theorem sampleControls_cite : ∀ control ∈ [sampleControl], ∀ code ∈ control.criteriaRefs,
    code ∈ [sampleCriterion].map (·.criteriaId) := by
  decide

def sampleManifest (requires : List TestReference) : PackManifest where
  packId := "change"
  version := "1.0.0"
  status := .released
  signed := true
  objective := "Every change in the period was approved."
  standard := sampleStandard
  compatibility := { requiresControlTests := requires }
  criteria := [sampleCriterion]
  controls := [sampleControl]
  procedures := [sampleProcedure]
  humanGates := ["sign-off"]
  qualityRules := ["cite"]
  criteria_ne_nil := List.cons_ne_nil _ _
  controls_ne_nil := List.cons_ne_nil _ _
  procedures_ne_nil := List.cons_ne_nil _ _
  humanGates_ne_nil := List.cons_ne_nil _ _
  qualityRules_ne_nil := List.cons_ne_nil _ _
  criteriaIds_nodup := List.nodup_singleton _
  controls_cite_criteria := sampleControls_cite
  keys_nodup := sampleProcedures_coherent.1
  dependencies_known := sampleProcedures_coherent.2.1
  controls_known := sampleProcedures_coherent.2.2.1
  gates_declared := sampleProcedures_coherent.2.2.2.1
  gates_enforced := sampleProcedures_coherent.2.2.2.2

def samplePack (dirName : String) (requires : List TestReference) : LoadedAuditPack where
  packDirName := dirName
  manifest := sampleManifest requires
  packageSha256 := "package"

def sampleContext : OrganizationContext where
  tenantId := "tenant"
  entityName := "Entity"
  periodStart := 738000
  periodEnd := 738100
  period_ordered := by decide

def samplePlatform (releases : List TestReference) : AuditPackCompiler where
  releasedTests := releasedTestVersions releases
  releasedAgents := [("tester", "3")]
  platformVersion := "1.0.0"

/-- The pack that requires its test compiles with the test pinned. -/
theorem pinned_tests_sample :
    ∃ workflow pins, (samplePlatform [⟨"SCM-01", "1.0.0"⟩]).compile
        (samplePack "change" [⟨"SCM-01", "1.0.0"⟩]) sampleContext = .ok (workflow, pins) ∧
      pins.controlTests.lookup "SCM-01" = some "1.0.0" := by
  have hok : ((samplePlatform [⟨"SCM-01", "1.0.0"⟩]).compile
      (samplePack "change" [⟨"SCM-01", "1.0.0"⟩]) sampleContext).isOk = true := by
    decide +kernel
  rcases hcompile : (samplePlatform [⟨"SCM-01", "1.0.0"⟩]).compile
      (samplePack "change" [⟨"SCM-01", "1.0.0"⟩]) sampleContext with e | ⟨workflow, pins⟩
  · rw [hcompile] at hok
    cases hok
  · have hlisted : ListsItsTests (sampleManifest [⟨"SCM-01", "1.0.0"⟩]) := by
      unfold ListsItsTests
      decide
    have hpinned := ((pinned_tests (samplePlatform [⟨"SCM-01", "1.0.0"⟩]) [⟨"SCM-01", "1.0.0"⟩]
      rfl).1 _ _ _ _ hcompile).mpr hlisted sampleProcedure List.mem_cons_self _ rfl
    exact ⟨workflow, pins, rfl, hpinned.2⟩

/-- A pack that requires no test compiles, and its test is neither released nor pinned; a pack
that requires a released version of its test is refused once a greater one is released. -/
theorem unpinned_test_compiles :
    (¬ ∀ (compiler : AuditPackCompiler) (releases : List TestReference),
      compiler.releasedTests = releasedTestVersions releases →
      ∀ pack context workflow pins, compiler.compile pack context = .ok (workflow, pins) →
        ∀ procedure ∈ pack.manifest.procedures, ∀ t ∈ procedure.testRef,
          t ∈ releases ∧ pins.controlTests.lookup t.testId = some t.version) ∧
    ¬ ∀ (compiler : AuditPackCompiler) (releases : List TestReference),
      compiler.releasedTests = releasedTestVersions releases →
      ∀ manifest, OtherRequirementsMet compiler manifest →
        (∀ t ∈ manifest.compatibility.requiresControlTests, t ∈ releases) →
        compiler.checkCompatibility manifest = .ok () := by
  constructor
  · intro h
    have hok : ((samplePlatform []).compile (samplePack "change" []) sampleContext).isOk = true := by
      decide +kernel
    rcases hcompile : (samplePlatform []).compile (samplePack "change" []) sampleContext with
      e | ⟨workflow, pins⟩
    · rw [hcompile] at hok
      cases hok
    · have hpinned := h _ [] rfl _ _ _ _ hcompile sampleProcedure List.mem_cons_self
        ⟨"SCM-01", "1.0.0"⟩ rfl
      cases hpinned.1
  · intro h
    have hrefused := h (samplePlatform [⟨"SCM-01", "1.0.0"⟩, ⟨"SCM-01", "1.1.0"⟩]) _ rfl
      (sampleManifest [⟨"SCM-01", "1.0.0"⟩]) ⟨by decide +kernel, by decide, by decide, by decide⟩
      (by decide)
    have hproblems : ¬ (samplePlatform [⟨"SCM-01", "1.0.0"⟩, ⟨"SCM-01", "1.1.0"⟩]).problems
        (sampleManifest [⟨"SCM-01", "1.0.0"⟩]) = [] := by
      decide +kernel
    exact hproblems (require_eq_ok.mp hrefused)

end Standards
