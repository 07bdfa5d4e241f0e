import Mathlib.Data.List.Nodup

/-!
# Metrics the Go side of the agent exports

`metric_export.go` answers `GetMetrics(metricType)`. For `"direct"` it returns the Go
plugins' records and those of the Kubernetes metadata manager; for `"cpp_provided"` it
returns the one record of `GetAgentStat`, which reads runtime metrics and files each
value under the agent's key for it.

`GetAgentStat` visits its table of metric names with `for name := range metricNames`,
in an order Go leaves unspecified. `recordSamples_eq` shows that the record it builds
does not depend on that order: for every order that visits each name once, every agent
key holds the formatted sample of its own runtime metric and no other key is set.
`getMetrics_cppProvided` carries this to `GetMetrics`.
-/

namespace Ilogtail.Pluginmanager

/-- A Go `map[string]string`, by the value it gives each key. -/
def StringMap := String → Option String

/-- `map[string]string{}`. -/
def StringMap.empty : StringMap := fun _ => none

/-- `m[key] = value`. -/
def StringMap.set (m : StringMap) (key value : String) : StringMap :=
  fun k => if k = key then some value else m k

/-- `runtime/metrics.Value`, by the kind `Kind()` reports and the value it holds. -/
inductive Value
  | uint64 (value : UInt64)
  | float64 (value : Float)
  | bad

/-- What `GetAgentStat` takes from outside the modelled files. -/
structure Runtime where
  /-- The value `runtime/metrics.Read` fills into the sample of each metric name. -/
  read : String → Value
  /-- `strconv.FormatFloat(v, 'g', -1, 64)`. -/
  formatFloat : Float → String
  /-- `helper.MetricAgentMemoryGo`. -/
  metricAgentMemoryGo : String
  /-- `helper.MetricAgentGoRoutinesTotal`. -/
  metricAgentGoRoutinesTotal : String

/-- `metricNames`: the runtime metric read for each agent key. -/
def metricNames (rt : Runtime) : List (String × String) :=
  [("/memory/classes/total:bytes", rt.metricAgentMemoryGo),
    ("/sched/goroutines:goroutines", rt.metricAgentGoRoutinesTotal)]

/-- The `switch value.Kind()` of `GetAgentStat`: a `uint64` in decimal, in whole
mebibytes under a key ending in `_mb`; a `float64` as `FormatFloat` writes it; and the
empty string for any other kind. -/
def formatValue (rt : Runtime) (key : String) : Value → String
  | .uint64 value =>
      if key.endsWith "_mb" then toString (value.toNat / 1024 / 1024) else toString value.toNat
  | .float64 value => rt.formatFloat value
  | .bad => ""

/-- The agent key `metricNames[name]` gives a runtime metric name, `""` for a name not
in the table. -/
def keyOf (names : List (String × String)) (name : String) : String :=
  (names.lookup name).getD ""

/-- The `for _, sample := range samples` loop of `GetAgentStat`: each sample's value,
formatted, under the agent key of its name. -/
def recordSamples (rt : Runtime) (names : List (String × String)) (samples : List (String × Value))
    (metric : StringMap) : StringMap :=
  samples.foldl (fun metric sample =>
    metric.set (keyOf names sample.1) (formatValue rt (keyOf names sample.1) sample.2)) metric

/-- `GetAgentStat`, where `order` is the order in which `for name := range metricNames`
visits the table's names. -/
def getAgentStat (rt : Runtime) (order : List String) : List StringMap :=
  let samples := order.map fun name => (name, rt.read name)
  [recordSamples rt (metricNames rt) samples StringMap.empty]

/-- `MetricExportTypeGo`. -/
def metricExportTypeGo : String := "direct"

/-- `MetricExportTypeCpp`. -/
def metricExportTypeCpp : String := "cpp_provided"

/-- What `GetMetrics` reads besides the runtime metrics. -/
structure Exporters where
  /-- `config.Context.ExportMetricRecords()` for each config of `LogtailConfig`, in the
  order `for _, config := range LogtailConfig` visits them. -/
  pluginRecords : List (List StringMap)
  /-- `k8smeta.GetMetaManagerMetrics()`. -/
  metaManagerMetrics : List StringMap

/-- `GetGoPluginMetrics`. -/
def getGoPluginMetrics (ex : Exporters) : List StringMap := ex.pluginRecords.flatten

/-- `GetGoDirectMetrics`. -/
def getGoDirectMetrics (ex : Exporters) : List StringMap :=
  getGoPluginMetrics ex ++ ex.metaManagerMetrics

/-- `GetGoCppProvidedMetrics`. -/
def getGoCppProvidedMetrics (rt : Runtime) (order : List String) : List StringMap :=
  getAgentStat rt order

/-- `GetMetrics`. -/
def getMetrics (ex : Exporters) (rt : Runtime) (order : List String) (metricType : String) :
    List StringMap :=
  if metricType = metricExportTypeGo then getGoDirectMetrics ex
  else if metricType = metricExportTypeCpp then getGoCppProvidedMetrics rt order
  else []

/-- The record a table of metric names stands for: each agent key of the table holds the
formatted sample of the runtime metric it is listed with, and no other key is set. -/
def tableRecord (rt : Runtime) (names : List (String × String)) : StringMap := fun key =>
  ((names.find? fun entry => entry.2 = key).map fun entry => formatValue rt key (rt.read entry.1))

/-- A name of the table is looked up to the key it is listed with. -/
theorem keyOf_of_mem {names : List (String × String)} (distinctNames : (names.map Prod.fst).Nodup)
    {entry : String × String} (listed : entry ∈ names) : keyOf names entry.1 = entry.2 := by
  induction names with
  | nil => cases listed
  | cons head rest inductionHypothesis =>
      obtain ⟨name, key⟩ := head
      rw [List.map_cons, List.nodup_cons] at distinctNames
      rcases List.mem_cons.mp listed with rfl | inRest
      · simp [keyOf]
      · have other : (entry.1 == name) = false := beq_false_of_ne fun same =>
          distinctNames.1 (same ▸ (List.mem_map_of_mem Prod.fst inRest : entry.1 ∈ _))
        simpa only [keyOf, List.lookup_cons, other] using inductionHypothesis distinctNames.2 inRest

/-- A key no sample is filed under keeps the value it had. -/
theorem recordSamples_of_not_mem (rt : Runtime) (names : List (String × String))
    {samples : List (String × Value)} {key : String}
    (unwritten : key ∉ samples.map fun sample => keyOf names sample.1) (metric : StringMap) :
    recordSamples rt names samples metric key = metric key := by
  induction samples generalizing metric with
  | nil => rfl
  | cons head rest inductionHypothesis =>
      rw [List.map_cons, List.mem_cons, not_or] at unwritten
      simp only [recordSamples, List.foldl_cons] at inductionHypothesis ⊢
      rw [inductionHypothesis unwritten.2]
      simp [StringMap.set, unwritten.1]

/-- A sample whose key no other sample is filed under keeps the value it was filed with. -/
theorem recordSamples_of_mem (rt : Runtime) (names : List (String × String))
    {samples : List (String × Value)}
    (distinctKeys : (samples.map fun sample => keyOf names sample.1).Nodup)
    {sample : String × Value} (read : sample ∈ samples) (metric : StringMap) :
    recordSamples rt names samples metric (keyOf names sample.1) =
      some (formatValue rt (keyOf names sample.1) sample.2) := by
  induction samples generalizing metric with
  | nil => cases read
  | cons head rest inductionHypothesis =>
      rw [List.map_cons, List.nodup_cons] at distinctKeys
      rcases List.mem_cons.mp read with rfl | inRest
      · have untouched := recordSamples_of_not_mem rt names distinctKeys.1
        simp only [recordSamples, List.foldl_cons] at untouched ⊢
        rw [untouched]
        simp [StringMap.set]
      · exact inductionHypothesis distinctKeys.2 inRest _

/-- A key of the table holds the formatted sample of the one name it is listed with. -/
theorem tableRecord_of_mem (rt : Runtime) {names : List (String × String)}
    (distinctKeys : (names.map Prod.snd).Nodup) {entry : String × String} (listed : entry ∈ names) :
    tableRecord rt names entry.2 = some (formatValue rt entry.2 (rt.read entry.1)) := by
  cases found : names.find? fun other => other.2 = entry.2 with
  | none => simpa using List.find?_eq_none.mp found entry listed
  | some first =>
      have same : first = entry := List.inj_on_of_nodup_map distinctKeys
        (List.mem_of_find?_eq_some found) listed (by simpa using List.find?_some found)
      rw [tableRecord, found, same]
      rfl

/-- A key outside the table is not set. -/
theorem tableRecord_of_not_mem (rt : Runtime) {names : List (String × String)} {key : String}
    (untabled : key ∉ names.map Prod.snd) : tableRecord rt names key = none := by
  have absent : names.find? (fun entry => entry.2 = key) = none :=
    List.find?_eq_none.mpr fun entry listed same =>
      untabled (List.mem_map.mpr ⟨entry, listed, of_decide_eq_true same⟩)
  rw [tableRecord, absent]
  rfl

/-- Over an order that visits each name of the table once, the samples are filed under the
table's keys, each once. -/
theorem sampleKeys_perm (rt : Runtime) {names : List (String × String)}
    (distinctNames : (names.map Prod.fst).Nodup) {order : List String}
    (perm : order.Perm (names.map Prod.fst)) :
    ((order.map fun name => (name, rt.read name)).map fun sample => keyOf names sample.1).Perm
      (names.map Prod.snd) := by
  have keys : (names.map Prod.fst).map (keyOf names) = names.map Prod.snd := by
    rw [List.map_map]
    exact List.map_congr_left fun entry listed => keyOf_of_mem distinctNames listed
  rw [List.map_map, ← keys]
  exact perm.map (keyOf names)

/-- The loop of `GetAgentStat` builds the table's record in every order that visits each
name of the table once, provided no two names share a key. -/
theorem recordSamples_eq (rt : Runtime) {names : List (String × String)}
    (distinctNames : (names.map Prod.fst).Nodup) (distinctKeys : (names.map Prod.snd).Nodup)
    {order : List String} (perm : order.Perm (names.map Prod.fst)) :
    recordSamples rt names (order.map fun name => (name, rt.read name)) StringMap.empty =
      tableRecord rt names := by
  have keysPerm := sampleKeys_perm rt distinctNames perm
  funext key
  by_cases tabled : key ∈ names.map Prod.snd
  · obtain ⟨entry, listed, rfl⟩ := List.mem_map.mp tabled
    have visited : (entry.1, rt.read entry.1) ∈ order.map fun name => (name, rt.read name) :=
      List.mem_map_of_mem _ (perm.mem_iff.mpr (List.mem_map_of_mem _ listed))
    have filed := recordSamples_of_mem rt names (keysPerm.nodup_iff.mpr distinctKeys) visited
      StringMap.empty
    rw [keyOf_of_mem distinctNames listed] at filed
    rw [filed, tableRecord_of_mem rt distinctKeys listed]
  · rw [recordSamples_of_not_mem rt names (fun filed => tabled (keysPerm.mem_iff.mp filed)),
      tableRecord_of_not_mem rt tabled]
    rfl

/-- `GetMetrics("cpp_provided")` returns the one record that holds the formatted memory
sample under `MetricAgentMemoryGo` and the goroutine count under
`MetricAgentGoRoutinesTotal`, and nothing else, in whichever order Go's map iteration
visits `metricNames`, as long as the two agent keys differ. -/
theorem getMetrics_cppProvided (ex : Exporters) (rt : Runtime) (order : List String)
    (perm : order.Perm ((metricNames rt).map Prod.fst))
    (distinct : rt.metricAgentMemoryGo ≠ rt.metricAgentGoRoutinesTotal) :
    getMetrics ex rt order metricExportTypeCpp = [tableRecord rt (metricNames rt)] := by
  have distinctNames : ((metricNames rt).map Prod.fst).Nodup := by simp [metricNames]
  have distinctKeys : ((metricNames rt).map Prod.snd).Nodup := by
    simpa [metricNames] using distinct
  rw [getMetrics, if_neg (by decide), if_pos rfl, getGoCppProvidedMetrics, getAgentStat,
    recordSamples_eq rt distinctNames distinctKeys perm]

/-- A runtime with the agent's two keys, whose memory sample is 64 MiB and whose goroutine
count is 20. -/
def agentRuntime : Runtime where
  read name := if name = "/memory/classes/total:bytes" then .uint64 (64 * 1024 * 1024)
    else .uint64 20
  formatFloat _ := ""
  metricAgentMemoryGo := "agent_go_memory_used_mb"
  metricAgentGoRoutinesTotal := "agent_go_routines_total"

theorem getMetrics_cppProvided_in_reverse_order :
    ["/sched/goroutines:goroutines", "/memory/classes/total:bytes"].Perm
        ((metricNames agentRuntime).map Prod.fst) ∧
      agentRuntime.metricAgentMemoryGo ≠ agentRuntime.metricAgentGoRoutinesTotal ∧
      getMetrics ⟨[], []⟩ agentRuntime
          ["/sched/goroutines:goroutines", "/memory/classes/total:bytes"] metricExportTypeCpp =
        [tableRecord agentRuntime (metricNames agentRuntime)] :=
  ⟨List.Perm.swap _ _ [], by decide,
    getMetrics_cppProvided _ _ _ (List.Perm.swap _ _ []) (by decide)⟩

end Ilogtail.Pluginmanager
