/-
The input manifest determines the inputs.

Two requests whose input manifests have one digest ask for the same period and parameters, and
give the same datasets, up to the order in which the datasets and their evidence references
come (`sameInputs_of_manifest`).  Such requests pass the same checks (`validateRequest_congr`) and
prepare the same datasets and counts (`prepareDatasets_congr`).  The purpose of a request, its
engagement and its task are not in the manifest.
-/
import AssuranceOS.ControlTesting.Service

namespace ControlTesting

open JsonText Checked

variable {env : Environment} {release : LoadedControlTest} {r r₀ : ControlTestRunRequest}

/-- What the manifest says of a dataset. -/
structure SameDataset (d d₀ : ControlTestDataset) : Prop where
  name : d.name = d₀.name
  records : d.records = d₀.records
  evidenceIds : sortedNames d.evidenceIds = sortedNames d₀.evidenceIds
  authoritative : d.authoritative = d₀.authoritative
  expectedCount : d.expectedCount = d₀.expectedCount

/-- What the manifest says of a request. -/
structure SameInputs (r r₀ : ControlTestRunRequest) : Prop where
  testId : r.testId = r₀.testId
  version : r.version = r₀.version
  periodStart : isoformat r.periodStart = isoformat r₀.periodStart
  periodEnd : isoformat r.periodEnd = isoformat r₀.periodEnd
  parameters : r.parameters = r₀.parameters
  datasets : List.Forall₂ SameDataset (sortedDatasets r) (sortedDatasets r₀)

/-- Where digests do not collide, a digest determines the value, up to the order of its keys. -/
theorem digest_injective (hinj : Function.Injective env.sha256) {v v₀ : Value} {h : String}
    (hv : digest env v = .ok h) (hv₀ : digest env v₀ = .ok h) : v.sorted = v₀.sorted := by
  have hdigests := (digest_eq_ok.mp hv).2.trans (digest_eq_ok.mp hv₀).2.symm
  exact text_injective (hinj hdigests)

theorem canonical_items {vs ws : List Value} (hvs : ∀ v ∈ vs, Canonical v)
    (hws : ∀ w ∈ ws, Canonical w) (h : (Value.arr vs).sorted = (Value.arr ws).sorted) :
    vs = ws := by
  have hsame : ∀ l : List Value, (∀ v ∈ l, Canonical v) → l.map Value.sorted = l := by
    intro l hl
    conv_rhs => rw [← List.map_id l]
    exact List.map_congr_left fun v hv => (hl v hv).sorted
  rw [sorted_arr, sorted_arr, hsame vs hvs, hsame ws hws] at h
  exact Value.arr.inj h

variable {d : ControlTestDataset} {p : Prepared}
variable {d₀ : ControlTestDataset} {p₀ : Prepared}

theorem sameDataset_of_manifest (hinj : Function.Injective env.sha256)
    {records records₀ : List Value} {m m₀ : Value}
    (hm : datasetManifest env release d records = .ok m)
    (hm₀ : datasetManifest env release d₀ records₀ = .ok m₀) (heq : m.sorted = m₀.sorted) :
    SameDataset d d₀ := by
  unfold datasetManifest at hm hm₀
  simp only [bind_eq_ok] at hm hm₀
  obtain ⟨contract, -, contentHash, hcontent, schemaHash, -, hm⟩ := hm
  obtain ⟨contract₀, -, contentHash₀, hcontent₀, schemaHash₀, -, hm₀⟩ := hm₀
  cases hm
  cases hm₀
  have hfield := get_sorted_congr (by simp) (by simp) heq
  have hname := hfield "name"
  have hhash := hfield "content_hash"
  have hevidence := hfield "evidence_ids"
  have hauthoritative := hfield "authoritative"
  have hexpected := hfield "expected_count"
  simp only [get_cons, String.reduceEq, if_true, if_false, sorted_str, sorted_arr, List.map_map,
    Value.str.injEq, Value.arr.injEq, sorted_bool, Value.bool.injEq]
    at hname hhash hevidence hauthoritative hexpected
  rw [← hhash] at hcontent₀
  refine ⟨hname, ?_, ?_, hauthoritative, ?_⟩
  · exact canonical_items d.canonical_records d₀.canonical_records
      (digest_injective hinj hcontent hcontent₀)
  · have hstrings : Function.Injective (Value.sorted ∘ Value.str) :=
      fun a b hab => Value.str.inj hab
    exact List.map_injective_iff.mpr hstrings hevidence
  · cases hd : d.expectedCount <;> cases hd₀ : d₀.expectedCount <;> simp_all

theorem prepareDatasets_eq_ok : prepareDatasets env release r = .ok p ↔
    ∃ population expected duplicates sampled manifests,
      r.dataset? release.manifest.population.name = some population ∧
      expectedCount env release r population = .ok expected ∧
      populationDuplicates env release population.records = .ok duplicates ∧
      sample env release r population.records = .ok sampled ∧
      List.Forall₂ (fun d m =>
        datasetManifest env release d (preparedRecords release sampled d) = .ok m)
        (sortedDatasets r) manifests ∧
      p = { datasets := (sortedDatasets r).map fun d =>
              (d.name, .arr (preparedRecords release sampled d))
            inputManifest := inputManifest r manifests
            reconciliation := reconcile env population.records.length expected duplicates
              sampled.length } := by
  unfold prepareDatasets
  simp only [bind_eq_ok, ofOption_eq_ok, mapM_eq_ok]
  constructor
  · rintro ⟨population, hpopulation, expected, hexpected, duplicates, hduplicates, sampled,
      hsampled, manifests, hmanifests, heq⟩
    cases heq
    exact ⟨population, expected, duplicates, sampled, manifests, hpopulation, hexpected,
      hduplicates, hsampled, hmanifests, rfl⟩
  · rintro ⟨population, expected, duplicates, sampled, manifests, hpopulation, hexpected,
      hduplicates, hsampled, hmanifests, rfl⟩
    exact ⟨population, hpopulation, expected, hexpected, duplicates, hduplicates, sampled,
      hsampled, manifests, hmanifests, rfl⟩

theorem sameDatasets_of_manifests (hinj : Function.Injective env.sha256)
    {sampled sampled₀ : List Value} : ∀ {ds ds₀ : List ControlTestDataset} {ms ms₀ : List Value},
    List.Forall₂ (fun d m =>
      datasetManifest env release d (preparedRecords release sampled d) = .ok m) ds ms →
    List.Forall₂ (fun d m =>
      datasetManifest env release d (preparedRecords release sampled₀ d) = .ok m) ds₀ ms₀ →
    ms.map Value.sorted = ms₀.map Value.sorted → List.Forall₂ SameDataset ds ds₀ := by
  intro ds ds₀ ms ms₀ h
  induction h generalizing ds₀ ms₀ with
  | nil =>
    intro h₀ heq
    cases h₀ with
    | nil => exact .nil
    | cons _ _ => simp at heq
  | cons hd _ ih =>
    intro h₀ heq
    cases h₀ with
    | nil => simp at heq
    | cons hd₀ h₀ =>
      rw [List.map_cons, List.map_cons, List.cons.injEq] at heq
      exact .cons (sameDataset_of_manifest hinj hd hd₀ heq.1) (ih h₀ heq.2)

theorem sameInputs_of_manifest (hinj : Function.Injective env.sha256) {hash : String}
    (hp : prepareDatasets env release r = .ok p) (hp₀ : prepareDatasets env release r₀ = .ok p₀)
    (hhash : digest env p.inputManifest = .ok hash)
    (hhash₀ : digest env p₀.inputManifest = .ok hash) : SameInputs r r₀ := by
  obtain ⟨_, _, _, sampled, ms, -, -, -, -, hms, rfl⟩ := prepareDatasets_eq_ok.mp hp
  obtain ⟨_, _, _, sampled₀, ms₀, -, -, -, -, hms₀, rfl⟩ := prepareDatasets_eq_ok.mp hp₀
  have heq := digest_injective hinj hhash hhash₀
  dsimp only [inputManifest] at heq
  have hfield := get_sorted_congr (by simp) (by simp) heq
  have htestId := hfield "test_id"
  have hversion := hfield "version"
  have hstart := hfield "period_start"
  have hend := hfield "period_end"
  have hparameters := hfield "parameters"
  have hdatasets := hfield "datasets"
  simp only [get_cons, String.reduceEq, if_true, if_false, sorted_str, sorted_arr,
    Value.str.injEq, Value.arr.injEq] at htestId hversion hstart hend hparameters hdatasets
  rw [r.canonical_parameters.sorted, r₀.canonical_parameters.sorted] at hparameters
  exact ⟨htestId, hversion, hstart, hend, Value.obj.inj hparameters,
    sameDatasets_of_manifests hinj hms hms₀ hdatasets⟩

/-! ### The same checks and the same preparation -/

section Lists

variable {α β γ : Type} {R : α → β → Prop} {l : List α} {l' : List β}

theorem exists_related (hl : List.Forall₂ R l l') {a : α} (ha : a ∈ l) : ∃ b ∈ l', R a b := by
  induction hl with
  | nil => exact absurd ha List.not_mem_nil
  | cons hab _ ih =>
    rcases List.mem_cons.mp ha with rfl | ha
    · exact ⟨_, List.mem_cons_self, hab⟩
    · obtain ⟨b, hb, hr⟩ := ih ha
      exact ⟨b, List.mem_cons_of_mem _ hb, hr⟩

theorem map_eq_of_related {f : α → γ} {g : β → γ} (hl : List.Forall₂ R l l')
    (hfg : ∀ a b, R a b → f a = g b) : l.map f = l'.map g := by
  induction hl with
  | nil => rfl
  | cons hab _ ih => rw [List.map_cons, List.map_cons, hfg _ _ hab, ih]

end Lists

theorem mem_sortedDatasets : d ∈ sortedDatasets r ↔ d ∈ r.datasets :=
  List.mem_insertionSort _

theorem dataset?_eq_some {name : String} :
    r.dataset? name = some d ↔ d ∈ r.datasets ∧ d.name = name :=
  Table.get?_eq_some r.names_nodup

namespace SameInputs

theorem symm (h : SameInputs r r₀) : SameInputs r₀ r := by
  refine ⟨h.testId.symm, h.version.symm, h.periodStart.symm, h.periodEnd.symm, h.parameters.symm,
    ?_⟩
  refine List.Forall₂.flip (h.datasets.imp fun d d₀ hd => ?_)
  exact ⟨hd.name.symm, hd.records.symm, hd.evidenceIds.symm, hd.authoritative.symm,
    hd.expectedCount.symm⟩

theorem exists_dataset (h : SameInputs r r₀) (hd : d ∈ r.datasets) :
    ∃ d₀ ∈ r₀.datasets, SameDataset d d₀ := by
  obtain ⟨d₀, hd₀, hsame⟩ := exists_related h.datasets (mem_sortedDatasets.mpr hd)
  exact ⟨d₀, mem_sortedDatasets.mp hd₀, hsame⟩

theorem parameter (h : SameInputs r r₀) (name : Option String) :
    parameter? r name = parameter? r₀ name := by
  unfold parameter?
  rw [h.parameters]

theorem sample_eq (h : SameInputs r r₀) (records : List Value) :
    sample env release r records = sample env release r₀ records := by
  unfold sample
  simp only [h.parameter]

end SameInputs

theorem prepareDatasets_congr (h : SameInputs r r₀) (hp : prepareDatasets env release r = .ok p)
    (hp₀ : prepareDatasets env release r₀ = .ok p₀) :
    p.datasets = p₀.datasets ∧ p.reconciliation = p₀.reconciliation := by
  obtain ⟨d, expected, duplicates, sampled, ms, hd, hexpected, hduplicates, hsampled, -, rfl⟩ :=
    prepareDatasets_eq_ok.mp hp
  obtain ⟨d₀, expected₀, duplicates₀, sampled₀, ms₀, hd₀, hexpected₀, hduplicates₀, hsampled₀, -,
    rfl⟩ := prepareDatasets_eq_ok.mp hp₀
  -- the population
  obtain ⟨hmem, hname⟩ := dataset?_eq_some.mp hd
  obtain ⟨d', hmem', hsame⟩ := h.exists_dataset hmem
  obtain rfl : d' = d₀ := Option.some.inj
    ((dataset?_eq_some.mpr ⟨hmem', hsame.name.symm.trans hname⟩).symm.trans hd₀)
  rw [hsame.records] at hduplicates hsampled
  obtain rfl : duplicates = duplicates₀ := Except.ok.inj (hduplicates.symm.trans hduplicates₀)
  rw [h.sample_eq] at hsampled
  obtain rfl : sampled = sampled₀ := Except.ok.inj (hsampled.symm.trans hsampled₀)
  have hcount : expectedCount env release r d = expectedCount env release r₀ d' := by
    unfold expectedCount
    rw [h.parameter, hsame.expectedCount]
  rw [hcount] at hexpected
  obtain rfl : expected = expected₀ := Except.ok.inj (hexpected.symm.trans hexpected₀)
  refine ⟨map_eq_of_related h.datasets fun a b hab => ?_, ?_⟩
  · unfold preparedRecords
    rw [hab.name, hab.records]
  · dsimp only
    rw [hsame.records]

theorem sortedNames_eq_nil {names : List String} : sortedNames names = [] ↔ names = [] := by
  rw [← List.length_eq_zero_iff, sortedNames, List.length_insertionSort, List.length_eq_zero_iff]

theorem validateRequest_eq_ok : validateRequest env release r = .ok () ↔
    validateSchema env release.parameterSchema (.obj r.parameters) = .ok () ∧
    ((∀ n ∈ r.datasets.map ControlTestDataset.name,
        n ∈ release.manifest.datasets.map DatasetContract.name) ∧
      ∀ c ∈ release.manifest.datasets, c.required = true →
        c.name ∈ r.datasets.map ControlTestDataset.name) ∧
    (∀ d ∈ r.datasets, validateDataset env release d = .ok ()) ∧
    validateSchema env release.inputSchema (.obj [("parameters", .obj r.parameters),
      ("datasets", .obj ((sortedDatasets r).map fun d => (d.name, .arr d.records)))]) = .ok () := by
  unfold validateRequest
  dsimp only
  simp only [bind_eq_ok, require_eq_ok, forM_eq_ok, sortedNames_eq_nil, List.map_eq_nil_iff,
    List.filter_eq_nil_iff, decide_eq_true_eq, not_not, Bool.and_eq_true, not_and]
  constructor
  · rintro ⟨_, hparameters, _, hnames, _, hdatasets, hinput⟩
    exact ⟨hparameters, hnames, hdatasets, hinput⟩
  · rintro ⟨hparameters, hnames, hdatasets, hinput⟩
    exact ⟨(), hparameters, (), hnames, (), hdatasets, hinput⟩

theorem validateDataset_congr (h : SameDataset d d₀) :
    validateDataset env release d = validateDataset env release d₀ := by
  have hempty : d.evidenceIds = [] ↔ d₀.evidenceIds = [] := by
    rw [← sortedNames_eq_nil, h.evidenceIds, sortedNames_eq_nil]
  unfold validateDataset
  simp only [h.name, h.records, h.authoritative, hempty]

theorem validateRequest_congr (h : SameInputs r r₀) (hr : validateRequest env release r₀ = .ok ()) :
    validateRequest env release r = .ok () := by
  obtain ⟨hparameters, ⟨hknown, hrequired⟩, hdatasets, hinput⟩ := validateRequest_eq_ok.mp hr
  have hnames : ∀ n, n ∈ r.datasets.map ControlTestDataset.name ↔
      n ∈ r₀.datasets.map ControlTestDataset.name := by
    intro n
    simp only [List.mem_map]
    constructor
    · rintro ⟨d, hd, rfl⟩
      obtain ⟨d₀, hd₀, hsame⟩ := h.exists_dataset hd
      exact ⟨d₀, hd₀, hsame.name.symm⟩
    · rintro ⟨d₀, hd₀, rfl⟩
      obtain ⟨d, hd, hsame⟩ := h.symm.exists_dataset hd₀
      exact ⟨d, hd, hsame.name.symm⟩
  have hrows : (sortedDatasets r).map (fun d => (d.name, Value.arr d.records)) =
      (sortedDatasets r₀).map fun d => (d.name, Value.arr d.records) :=
    map_eq_of_related h.datasets fun a b hab => by rw [hab.name, hab.records]
  refine validateRequest_eq_ok.mpr ⟨?_, ⟨?_, ?_⟩, ?_, ?_⟩
  · rw [h.parameters]
    exact hparameters
  · exact fun n hn => hknown n ((hnames n).mp hn)
  · exact fun c hc hreq => (hnames c.name).mpr (hrequired c hc hreq)
  · intro d hd
    obtain ⟨d₀, hd₀, hsame⟩ := h.exists_dataset hd
    rw [validateDataset_congr hsame]
    exact hdatasets d₀ hd₀
  · rw [h.parameters, hrows]
    exact hinput

end ControlTesting
