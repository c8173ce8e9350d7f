import BeadsViewer.Viewer
/-
  beads_viewer formalization — the metrics the browser viewer computes on
  the WASM graph (`buildWasmGraph`, `computeMetrics` and `loadData` of the
  `bv-graph` script), with every WASM call able to throw.

  * `WasmCalls` is the WASM `DiGraph` by every call the two functions make;
    a call returns `.ok` or throws (`.error`).  `MetricValues` is
    `store.metrics`, `MetricStore` the store's fields the three functions
    read and write.
  * `computeMetrics` assigns each metric as soon as its call returns, and its
    `catch` keeps what was assigned: a call that throws leaves the metrics
    after it as they were.  So does an empty graph for `betweenness`, which
    is assigned only when `nodeCount() > 0`; and a `buildWasmGraph` that
    throws sets the graph to `null`, so that `computeMetrics` assigns
    nothing.  `loadData` never clears the metrics: each field after it is
    its earlier value or its call's result on the graph this call built
    (`loadData_metrics_frame`), and is that result when nothing throws and
    the graph has a node (`loadData_metrics_fresh`).  Over a run, each
    metric is the initial one or was computed on a graph built from one of
    the loaded datasets, not necessarily the last (`foldl_loadData_metrics`).
  * When no call throws, this store, read through its cycle metric, runs as
    the store of `BeadsViewer.Viewer`, one `loadData` at a time
    (`loadData_toStore`) and over every run (`foldl_loadData_toStore`).
-/

namespace BeadsViewer.Viewer.Metrics

open BeadsViewer.Viewer

/-- The WASM `DiGraph`, by every call `buildWasmGraph` and `computeMetrics`
    make; each call may throw.  A metric's result is a value of `V`. -/
structure WasmCalls (G V : Type) where
  free : G → Except String Unit
  withCapacity : Nat → Nat → Except String G
  addNode : G → String → Except String G
  nodeIdx : G → String → Except String (Option Nat)
  addEdge : G → Nat → Nat → Except String G
  nodeCount : G → Except String Nat
  edgeCount : G → Except String Nat
  pagerankDefault : G → Except String V
  criticalPathHeights : G → Except String V
  eigenvectorDefault : G → Except String V
  kcore : G → Except String V
  betweennessApprox : G → Nat → Except String V
  betweenness : G → Except String V
  enumerateCycles : G → Nat → Except String V

/-- `store.metrics`, `none` for `null`. -/
structure MetricValues (V : Type) where
  pagerank : Option V
  betweenness : Option V
  criticalPath : Option V
  eigenvector : Option V
  kcore : Option V
  cycles : Option V
  deriving DecidableEq

/-- The six metrics of `store.metrics`. -/
inductive Metric
  | pagerank
  | betweenness
  | criticalPath
  | eigenvector
  | kcore
  | cycles
  deriving DecidableEq

namespace MetricValues
variable {V : Type}

/-- `store.metrics[k]`. -/
def get (m : MetricValues V) : Metric → Option V
  | .pagerank => m.pagerank
  | .betweenness => m.betweenness
  | .criticalPath => m.criticalPath
  | .eigenvector => m.eigenvector
  | .kcore => m.kcore
  | .cycles => m.cycles

/-- `store.metrics[k] = v`. -/
def set (m : MetricValues V) : Metric → V → MetricValues V
  | .pagerank, v => { m with pagerank := some v }
  | .betweenness, v => { m with betweenness := some v }
  | .criticalPath, v => { m with criticalPath := some v }
  | .eigenvector, v => { m with eigenvector := some v }
  | .kcore, v => { m with kcore := some v }
  | .cycles, v => { m with cycles := some v }

theorem get_set (m : MetricValues V) (k k' : Metric) (v : V) :
    (m.set k v).get k' = if k' = k then some v else m.get k' := by
  cases k <;> cases k' <;> rfl

end MetricValues

/-- The store's fields that `buildWasmGraph`, `computeMetrics` and
    `loadData` read and write. -/
structure MetricStore (G V : Type) where
  wasmReady : Bool
  wasmGraph : Option G
  issues : List Issue
  dependencies : List Dependency
  metrics : MetricValues V
  deriving DecidableEq

section
variable {G V : Type} (W : WasmCalls G V)

/-! ## `buildWasmGraph` -/

/-- One turn of the edge loop: both ends looked up, then `addEdge` when both
    have a node. -/
def addDrawnEdge (g : G) (d : Dependency) : Except String G := do
  let fromIdx ← W.nodeIdx g d.issueID
  let toIdx ← W.nodeIdx g d.dependsOnID
  match fromIdx, toIdx with
  | some u, some v => W.addEdge g u v
  | _, _ => pure g

/-- The `try` block of `buildWasmGraph`: the old graph freed, a new one
    built with its nodes and drawn edges, and its counts logged. -/
def buildGraph (old : Option G) (issues : List Issue) (deps : List Dependency) : Except String G := do
  if let some g := old then W.free g
  let g ← W.withCapacity issues.length deps.length
  let g ← issues.foldlM (fun g issue => W.addNode g issue.id) g
  let g ← (deps.filter drawn).foldlM (addDrawnEdge W) g
  let _ ← W.nodeCount g
  let _ ← W.edgeCount g
  return g

/-- `buildWasmGraph`: the graph built, or `null` when a call threw. -/
def buildWasmGraph (s : MetricStore G V) : MetricStore G V :=
  if !s.wasmReady then s
  else match buildGraph W s.wasmGraph s.issues s.dependencies with
    | .ok g => { s with wasmGraph := some g }
    | .error _ => { s with wasmGraph := none }

/-! ## `computeMetrics` -/

/-- A call in `computeMetrics`' `try` block: its result, or, when it
    throws, the metrics as they stand, which the `catch` keeps. -/
def call {α : Type} (m : MetricValues V) (r : Except String α) : Except (MetricValues V) α :=
  r.mapError fun _ => m

/-- The statement `store.metrics.k = <call>`. -/
def assign (m : MetricValues V) (k : Metric) (r : Except String V) :
    Except (MetricValues V) (MetricValues V) := do
  let v ← call m r
  pure (m.set k v)

/-- The betweenness statement of `computeMetrics`: the approximation on a
    graph of more than 500 nodes, the exact value on a graph with a node,
    and nothing on an empty graph. -/
def betweennessStep (g : G) (nodeCount : Nat) (m : MetricValues V) :
    Except (MetricValues V) (MetricValues V) :=
  if nodeCount > 500 then assign m .betweenness (W.betweennessApprox g (min 100 nodeCount))
  else if nodeCount > 0 then assign m .betweenness (W.betweenness g)
  else pure m

/-- The `try` block of `computeMetrics`, from the metrics `m₀`: each metric
    assigned as soon as its call returns. -/
def tryMetrics (g : G) (m₀ : MetricValues V) : Except (MetricValues V) (MetricValues V) := do
  let m ← assign m₀ .pagerank (W.pagerankDefault g)
  let m ← assign m .criticalPath (W.criticalPathHeights g)
  let m ← assign m .eigenvector (W.eigenvectorDefault g)
  let m ← assign m .kcore (W.kcore g)
  let nodeCount ← call m (W.nodeCount g)
  let m ← betweennessStep W g nodeCount m
  assign m .cycles (W.enumerateCycles g 100)

/-- The metrics as `computeMetrics`' `catch` leaves them: those of a `try`
    block that threw, or that ran through. -/
def settle : Except (MetricValues V) (MetricValues V) → MetricValues V
  | .ok m => m
  | .error m => m

/-- `computeMetrics`: nothing without a ready runtime and a graph; else the
    metrics as the `try` block leaves them, thrown or not. -/
def computeMetrics (s : MetricStore G V) : MetricStore G V :=
  match s.wasmReady, s.wasmGraph with
  | true, some g => { s with metrics := settle (tryMetrics W g s.metrics) }
  | _, _ => s

/-- `loadData`, on the store: `store.reset()` clears neither the graph nor
    the metrics. -/
def loadData (s : MetricStore G V) (issues : List Issue) (deps : List Dependency) :
    MetricStore G V :=
  let s := { s with issues := issues, dependencies := deps }
  if s.wasmReady then computeMetrics W (buildWasmGraph W s) else s

end


/-! ## Where each metric comes from -/

section
variable {G V : Type} (W : WasmCalls G V)

/-- `v` is what `computeMetrics` assigns to the metric `k` on the graph `g`:
    the result of `k`'s call, for `betweenness` on a graph with a node only. -/
def Computed (g : G) : Metric → V → Prop
  | .pagerank, v => W.pagerankDefault g = .ok v
  | .criticalPath, v => W.criticalPathHeights g = .ok v
  | .eigenvector, v => W.eigenvectorDefault g = .ok v
  | .kcore, v => W.kcore g = .ok v
  | .betweenness, v => ∃ n, W.nodeCount g = .ok n ∧ 0 < n ∧
      (if n > 500 then W.betweennessApprox g (min 100 n) else W.betweenness g) = .ok v
  | .cycles, v => W.enumerateCycles g 100 = .ok v

/-- Each metric of `m` is `m₀`'s, or what `computeMetrics` assigns it on
    `g`. -/
def Frame (g : G) (m₀ m : MetricValues V) : Prop :=
  ∀ k, m.get k = m₀.get k ∨ ∃ v, m.get k = some v ∧ Computed W g k v

variable {W} {g : G} {m₀ m : MetricValues V}

theorem Frame.refl : Frame W g m m := fun _ => .inl rfl

/-- An assignment of what `computeMetrics` computes keeps the frame, whether
    its call returns or throws, and so does the rest of the block. -/
theorem Frame.assign_bind (h : Frame W g m₀ m) {k : Metric} {r : Except String V}
    (hr : ∀ v, r = .ok v → Computed W g k v)
    {f : MetricValues V → Except (MetricValues V) (MetricValues V)}
    (hf : ∀ m', Frame W g m₀ m' → Frame W g m₀ (settle (f m'))) :
    Frame W g m₀ (settle (assign m k r >>= f)) := by
  cases r with
  | error e => exact h
  | ok v =>
    refine hf _ fun k' => ?_
    rw [MetricValues.get_set]
    split
    · next hk => exact .inr ⟨v, rfl, hk ▸ hr v rfl⟩
    · exact h k'

theorem Frame.assign (h : Frame W g m₀ m) {k : Metric} {r : Except String V}
    (hr : ∀ v, r = .ok v → Computed W g k v) : Frame W g m₀ (settle (assign m k r)) := by
  simpa using h.assign_bind hr (f := pure) fun _ h' => h'

/-- The betweenness statement keeps the frame. -/
theorem Frame.betweennessStep_bind (h : Frame W g m₀ m) {n : Nat} (hn : W.nodeCount g = .ok n)
    {f : MetricValues V → Except (MetricValues V) (MetricValues V)}
    (hf : ∀ m', Frame W g m₀ m' → Frame W g m₀ (settle (f m'))) :
    Frame W g m₀ (settle (betweennessStep W g n m >>= f)) := by
  unfold betweennessStep
  split
  · next h500 =>
    exact h.assign_bind (fun v h' => by exact ⟨n, hn, by omega, by rw [if_pos h500]; exact h'⟩) hf
  · next h500 =>
    split
    · next h0 =>
      exact h.assign_bind (fun v h' => by exact ⟨n, hn, h0, by rw [if_neg h500]; exact h'⟩) hf
    · exact hf m h

/-- **The `try` block assigns only computed values**: each metric it leaves,
    thrown or not, is the earlier one or what its call returned on `g`. -/
theorem tryMetrics_frame (g : G) (m₀ : MetricValues V) :
    Frame W g m₀ (settle (tryMetrics W g m₀)) := by
  unfold tryMetrics
  refine Frame.refl.assign_bind (by exact fun _ h => h) fun m₁ h₁ => ?_
  refine h₁.assign_bind (by exact fun _ h => h) fun m₂ h₂ => ?_
  refine h₂.assign_bind (by exact fun _ h => h) fun m₃ h₃ => ?_
  refine h₃.assign_bind (by exact fun _ h => h) fun m₄ h₄ => ?_
  cases hn : W.nodeCount g with
  | error e => exact h₄
  | ok n =>
    show Frame W g m₀ (settle (betweennessStep W g n m₄ >>= fun m =>
      assign m .cycles (W.enumerateCycles g 100)))
    exact h₄.betweennessStep_bind hn fun _ h₅ => h₅.assign fun _ h => h

/-- On a graph with a node, the betweenness statement assigns what its call
    returns. -/
theorem betweennessStep_of_pos {n : Nat} (h0 : 0 < n) {b : V}
    (hb : (if n > 500 then W.betweennessApprox g (min 100 n) else W.betweenness g) = .ok b) :
    betweennessStep W g n m = .ok (m.set .betweenness b) := by
  unfold betweennessStep
  split_ifs at hb ⊢ <;> rw [hb] <;> rfl

/-- **When every call returns, every metric is fresh**: the `try` block runs
    through and assigns each metric what its call returned on `g`. -/
theorem tryMetrics_fresh (hall : ∀ k, ∃ v, Computed W g k v) :
    ∃ m, tryMetrics W g m₀ = .ok m ∧ ∀ k, ∃ v, m.get k = some v ∧ Computed W g k v := by
  obtain ⟨pr, hpr⟩ := hall .pagerank
  obtain ⟨cp, hcp⟩ := hall .criticalPath
  obtain ⟨ev, hev⟩ := hall .eigenvector
  obtain ⟨kc, hkc⟩ := hall .kcore
  obtain ⟨b, hbw⟩ := hall .betweenness
  obtain ⟨c, hc⟩ := hall .cycles
  obtain ⟨n, hn, hn0, hb⟩ := id hbw
  refine ⟨(((((m₀.set .pagerank pr).set .criticalPath cp).set .eigenvector ev).set .kcore kc).set
    .betweenness b).set .cycles c, ?_, fun k => ?_⟩
  · unfold tryMetrics
    simp only [Computed] at hpr hcp hev hkc hc
    rw [hpr, hcp, hev, hkc, hn, hc]
    show betweennessStep W g n _ >>= _ = _
    rw [betweennessStep_of_pos hn0 hb]
    rfl
  · cases k <;> exact ⟨_, rfl, ‹_›⟩

end

/-! ## `loadData` -/

section
variable {G V : Type} (W : WasmCalls G V) (s : MetricStore G V) (issues : List Issue)
  (deps : List Dependency)

/-- **`loadData` keeps or recomputes each metric**: after it the metrics are
    as they were, or the store holds the graph this call built and each
    metric is its earlier value or what its call returned on that graph. -/
theorem loadData_metrics_frame :
    (loadData W s issues deps).metrics = s.metrics ∨
      ∃ g, buildGraph W s.wasmGraph issues deps = .ok g ∧
        (loadData W s issues deps).wasmGraph = some g ∧
        Frame W g s.metrics (loadData W s issues deps).metrics := by
  unfold loadData
  dsimp only
  split
  · next hr =>
    unfold buildWasmGraph
    simp only [hr, Bool.not_true, Bool.false_eq_true, if_false]
    cases hb : buildGraph W s.wasmGraph issues deps with
    | error e => exact .inl (by simp [computeMetrics])
    | ok g => exact .inr ⟨g, rfl, by simp [computeMetrics, hr], by
        simpa [computeMetrics, hr] using tryMetrics_frame g s.metrics⟩
  · exact .inl rfl

/-- **When nothing throws, `loadData` recomputes every metric**: with a
    ready runtime, a build that returns and calls that return on a graph
    with a node, each metric is what its call returned on the graph this
    call built. -/
theorem loadData_metrics_fresh (hready : s.wasmReady = true) {g : G}
    (hb : buildGraph W s.wasmGraph issues deps = .ok g) (hall : ∀ k, ∃ v, Computed W g k v) :
    (loadData W s issues deps).wasmGraph = some g ∧
      ∀ k, ∃ v, (loadData W s issues deps).metrics.get k = some v ∧ Computed W g k v := by
  obtain ⟨m, hm, hfresh⟩ : ∃ m, tryMetrics W g s.metrics = .ok m ∧ _ := tryMetrics_fresh hall
  have : loadData W s issues deps = { s with
      issues := issues, dependencies := deps, wasmGraph := some g, metrics := m } := by
    simp [loadData, buildWasmGraph, computeMetrics, hready, hb, hm, settle]
  rw [this]
  exact ⟨rfl, hfresh⟩

/-- **Over a run, each metric comes from some load**: after `loadData` on
    each dataset of `loads` in turn, each metric is the initial store's, or
    what its call returned on a graph `buildWasmGraph` built from one of the
    datasets, not necessarily the last. -/
theorem foldl_loadData_metrics :
    ∀ (loads : List (List Issue × List Dependency)) (s : MetricStore G V) (k : Metric),
      (loads.foldl (fun s l => loadData W s l.1 l.2) s).metrics.get k = s.metrics.get k ∨
        ∃ v, (loads.foldl (fun s l => loadData W s l.1 l.2) s).metrics.get k = some v ∧
          ∃ l ∈ loads, ∃ old g, buildGraph W old l.1 l.2 = .ok g ∧ Computed W g k v
  | [], _, _ => .inl rfl
  | l :: loads, s, k => by
    rw [List.foldl_cons]
    rcases foldl_loadData_metrics loads (loadData W s l.1 l.2) k with h | ⟨v, hv, l', hl', hc⟩
    · rw [h]
      rcases loadData_metrics_frame W s l.1 l.2 with h' | ⟨g, hb, -, hf⟩
      · exact .inl (by rw [h'])
      · exact (hf k).imp id fun ⟨v, hv, hc⟩ => ⟨v, hv, l, .head _, s.wasmGraph, g, hb, hc⟩
    · exact .inr ⟨v, hv, l', .tail _ hl', hc⟩

end

/-- A WASM graph on lists whose calls never throw, each metric the number of
    nodes of the graph it is computed on. -/
def countWasm : WasmCalls (List String × List (Nat × Nat)) Nat where
  free _ := .ok ()
  withCapacity _ _ := .ok ([], [])
  addNode g id := .ok (g.1 ++ [id], g.2)
  nodeIdx g id := .ok (g.1.indexOf? id)
  addEdge g u v := .ok (g.1, g.2 ++ [(u, v)])
  nodeCount g := .ok g.1.length
  edgeCount g := .ok g.2.length
  pagerankDefault g := .ok g.1.length
  criticalPathHeights g := .ok g.1.length
  eigenvectorDefault g := .ok g.1.length
  kcore g := .ok g.1.length
  betweennessApprox g _ := .ok g.1.length
  betweenness g := .ok g.1.length
  enumerateCycles g _ := .ok g.1.length

/-- Loading one issue, then none: the second graph is empty, so
    `betweenness` is not recomputed and keeps the value computed on the first
    graph, while `pagerank` is recomputed. -/
theorem loadData_empty_keeps_betweenness :
    let s₀ : MetricStore (List String × List (Nat × Nat)) Nat :=
      ⟨true, none, [], [], ⟨none, none, none, none, none, none⟩⟩
    let s₁ := loadData countWasm s₀ [{ (default : Issue) with id := "A" }] []
    let s₂ := loadData countWasm s₁ [] []
    s₁.wasmGraph = some (["A"], []) ∧ s₁.metrics.betweenness = some 1 ∧
      s₂.wasmGraph = some ([], []) ∧ s₂.metrics.pagerank = some 0 ∧
      s₂.metrics.betweenness = some 1 ∧ ¬ Computed countWasm ([], []) .betweenness 1 := by
  refine ⟨rfl, rfl, rfl, rfl, rfl, ?_⟩
  rintro ⟨n, hn, hn0, -⟩
  simp only [countWasm, List.length_nil, Except.ok.injEq] at hn
  omega

/-! ## The cycle metric when nothing throws -/

section
variable {G V : Type} (W : WasmCalls G V) (D : DiGraph G) (cyclesOf : V → Option (List (List Nat)))

/-- `s` read through its cycle metric: a store of `BeadsViewer.Viewer`. -/
def MetricStore.toStore (s : MetricStore G V) : Store G :=
  ⟨s.wasmReady, s.wasmGraph, s.issues, s.dependencies, s.metrics.cycles.bind cyclesOf⟩

/-- `W` never throws, its graph calls are `D`'s, and its cycle enumeration
    is `D`'s read through `cyclesOf`. -/
structure Agrees : Prop where
  free : ∀ g, W.free g = .ok ()
  withCapacity : ∀ a b, W.withCapacity a b = .ok (D.withCapacity a b)
  addNode : ∀ g id, W.addNode g id = .ok (D.addNode g id)
  nodeIdx : ∀ g id, W.nodeIdx g id = .ok (D.nodeIdx g id)
  addEdge : ∀ g u v, W.addEdge g u v = .ok (D.addEdge g u v)
  nodeCount : ∀ g, ∃ n, W.nodeCount g = .ok n
  edgeCount : ∀ g, ∃ n, W.edgeCount g = .ok n
  pagerankDefault : ∀ g, ∃ v, W.pagerankDefault g = .ok v
  criticalPathHeights : ∀ g, ∃ v, W.criticalPathHeights g = .ok v
  eigenvectorDefault : ∀ g, ∃ v, W.eigenvectorDefault g = .ok v
  kcore : ∀ g, ∃ v, W.kcore g = .ok v
  betweennessApprox : ∀ g n, ∃ v, W.betweennessApprox g n = .ok v
  betweenness : ∀ g, ∃ v, W.betweenness g = .ok v
  enumerateCycles : ∀ g, ∃ v, W.enumerateCycles g 100 = .ok v ∧ cyclesOf v = D.enumerateCycles g 100

variable {W D cyclesOf}

theorem foldlM_except_ok {α β : Type} {f : β → α → Except String β} {h : β → α → β}
    (hf : ∀ b a, f b a = .ok (h b a)) : ∀ (l : List α) (b : β), l.foldlM f b = .ok (l.foldl h b)
  | [], _ => rfl
  | a :: l, b => by simp only [List.foldlM_cons, hf, List.foldl_cons]; exact foldlM_except_ok hf l _

/-- The graph after one turn of the edge loop of `BeadsViewer.Viewer`. -/
def edgeStep (D : DiGraph G) (g : G) (d : Dependency) : G :=
  match D.nodeIdx g d.issueID, D.nodeIdx g d.dependsOnID with
  | some u, some v => D.addEdge g u v
  | _, _ => g

theorem foldl_addWasmEdge_fst :
    ∀ (ds : List Dependency) (acc : G × List (String × String)),
      (ds.foldl (addWasmEdge D) acc).1 = ds.foldl (edgeStep D) acc.1
  | [], _ => rfl
  | d :: ds, acc => by
    rw [List.foldl_cons, List.foldl_cons, foldl_addWasmEdge_fst ds]
    congr 1
    unfold addWasmEdge edgeStep
    cases D.nodeIdx acc.1 d.issueID <;> cases D.nodeIdx acc.1 d.dependsOnID <;> rfl

theorem addDrawnEdge_agrees (hW : Agrees W D cyclesOf) (g : G) (d : Dependency) :
    addDrawnEdge W g d = .ok (edgeStep D g d) := by
  simp only [addDrawnEdge, edgeStep, hW.nodeIdx, bind, Except.bind]
  cases D.nodeIdx g d.issueID <;> cases D.nodeIdx g d.dependsOnID <;> simp [hW.addEdge, pure, Except.pure]

/-- **The same graph**: when `W` agrees with `D`, `buildWasmGraph` builds the
    graph of `BeadsViewer.Viewer`'s `buildWasmGraph`. -/
theorem buildGraph_agrees (hW : Agrees W D cyclesOf) (old : Option G) (issues : List Issue)
    (deps : List Dependency) : buildGraph W old issues deps = .ok (wasmGraphOf D issues deps).1 := by
  have hnodes : issues.foldlM (fun g issue => W.addNode g issue.id)
      (D.withCapacity issues.length deps.length) = .ok (wasmNodes D issues deps) :=
    foldlM_except_ok (fun g (i : Issue) => hW.addNode g i.id) _ _
  have hedges : (deps.filter drawn).foldlM (addDrawnEdge W) (wasmNodes D issues deps) =
      .ok (wasmGraphOf D issues deps).1 := by
    rw [foldlM_except_ok (addDrawnEdge_agrees hW), wasmGraphOf, foldl_addWasmEdge_fst]
  obtain ⟨n, hn⟩ := hW.nodeCount (wasmGraphOf D issues deps).1
  obtain ⟨e, he⟩ := hW.edgeCount (wasmGraphOf D issues deps).1
  cases old <;>
    simp [buildGraph, hW.free, hW.withCapacity, hnodes, hedges, hn, he, bind, Except.bind, pure,
      Except.pure]

/-- When `W` never throws, the `try` block runs through and its cycle metric,
    read through `cyclesOf`, is `D`'s. -/
theorem tryMetrics_agrees (hW : Agrees W D cyclesOf) (g : G) (m₀ : MetricValues V) :
    ∃ m, tryMetrics W g m₀ = .ok m ∧ m.cycles.bind cyclesOf = D.enumerateCycles g 100 := by
  obtain ⟨pr, hpr⟩ := hW.pagerankDefault g
  obtain ⟨cp, hcp⟩ := hW.criticalPathHeights g
  obtain ⟨ev, hev⟩ := hW.eigenvectorDefault g
  obtain ⟨kc, hkc⟩ := hW.kcore g
  obtain ⟨n, hn⟩ := hW.nodeCount g
  obtain ⟨c, hc, hcyc⟩ := hW.enumerateCycles g
  have hb : ∀ m, ∃ m', betweennessStep W g n m = .ok m' := fun m => by
    unfold betweennessStep
    split_ifs
    · obtain ⟨b, hb⟩ := hW.betweennessApprox g (min 100 n)
      exact ⟨_, by rw [hb]; rfl⟩
    · obtain ⟨b, hb⟩ := hW.betweenness g
      exact ⟨_, by rw [hb]; rfl⟩
    · exact ⟨m, rfl⟩
  obtain ⟨m₅, hm₅⟩ :=
    hb ((((m₀.set .pagerank pr).set .criticalPath cp).set .eigenvector ev).set .kcore kc)
  refine ⟨m₅.set .cycles c, ?_, hcyc⟩
  unfold tryMetrics
  rw [hpr, hcp, hev, hkc, hn, hc]
  show betweennessStep W g n _ >>= _ = _
  rw [hm₅]
  rfl

/-- **Refinement.**  When `W` never throws and agrees with `D`, `loadData`
    of this store, read through its cycle metric, is `loadData` of
    `BeadsViewer.Viewer`. -/
theorem loadData_toStore (hW : Agrees W D cyclesOf) (s : MetricStore G V) (issues : List Issue)
    (deps : List Dependency) :
    (loadData W s issues deps).toStore cyclesOf =
      Viewer.loadData D (s.toStore cyclesOf) issues deps := by
  cases hr : s.wasmReady
  · simp [loadData, Viewer.loadData, MetricStore.toStore, hr]
  · obtain ⟨m, hm, hcyc⟩ := tryMetrics_agrees hW (wasmGraphOf D issues deps).1 s.metrics
    simp [loadData, Viewer.loadData, buildWasmGraph, Viewer.buildWasmGraph, computeMetrics,
      Viewer.computeMetrics, MetricStore.toStore, hr, buildGraph_agrees hW, hm, settle, hcyc]

/-- The refinement along a run of `loadData` calls. -/
theorem foldl_loadData_toStore (hW : Agrees W D cyclesOf) :
    ∀ (loads : List (List Issue × List Dependency)) (s : MetricStore G V),
      (loads.foldl (fun s l => loadData W s l.1 l.2) s).toStore cyclesOf =
        loads.foldl (fun s l => Viewer.loadData D s l.1 l.2) (s.toStore cyclesOf)
  | [], _ => rfl
  | l :: loads, s => by
    rw [List.foldl_cons, List.foldl_cons, foldl_loadData_toStore hW loads, loadData_toStore hW]

end

/-- `pairGraph` with its calls wrapped to return, every metric but the cycles
    `null`. -/
def pairWasm : WasmCalls (List String × List (Nat × Nat)) (Option (List (List Nat))) where
  free _ := .ok ()
  withCapacity a b := .ok (pairGraph.withCapacity a b)
  addNode g id := .ok (pairGraph.addNode g id)
  nodeIdx g id := .ok (pairGraph.nodeIdx g id)
  addEdge g u v := .ok (pairGraph.addEdge g u v)
  nodeCount g := .ok g.1.length
  edgeCount g := .ok g.2.length
  pagerankDefault _ := .ok none
  criticalPathHeights _ := .ok none
  eigenvectorDefault _ := .ok none
  kcore _ := .ok none
  betweennessApprox _ _ := .ok none
  betweenness _ := .ok none
  enumerateCycles g n := .ok (pairGraph.enumerateCycles g n)

/-- Two loads on `pairWasm`, read through the cycle metric. -/
theorem foldl_loadData_toStore_pairWasm :
    let s : MetricStore (List String × List (Nat × Nat)) (Option (List (List Nat))) :=
      ⟨true, none, [], [], ⟨none, none, none, none, none, none⟩⟩
    let loads : List (List Issue × List Dependency) :=
      [([{ (default : Issue) with id := "A" }, { (default : Issue) with id := "B" }],
          [⟨"A", "B", .blocks⟩, ⟨"B", "A", .blocks⟩]), ([], [])]
    Agrees pairWasm pairGraph id ∧
      (loads.foldl (fun s l => loadData pairWasm s l.1 l.2) s).toStore id =
        loads.foldl (fun s l => Viewer.loadData pairGraph s l.1 l.2) (s.toStore id) := by
  intro s loads
  have hW : Agrees pairWasm pairGraph id :=
    ⟨fun _ => rfl, fun _ _ => rfl, fun _ _ => rfl, fun _ _ => rfl, fun _ _ _ => rfl,
      fun _ => ⟨_, rfl⟩, fun _ => ⟨_, rfl⟩, fun _ => ⟨_, rfl⟩, fun _ => ⟨_, rfl⟩,
      fun _ => ⟨_, rfl⟩, fun _ => ⟨_, rfl⟩, fun _ _ => ⟨_, rfl⟩, fun _ => ⟨_, rfl⟩,
      fun _ => ⟨_, rfl, rfl⟩⟩
  exact ⟨hW, foldl_loadData_toStore hW loads s⟩

end BeadsViewer.Viewer.Metrics
