import BeadsViewer.Analysis.Stats
/-
  beads_viewer formalization — the browser viewer (`bv-graph`, the script in
  `pkg/analysis`): the WASM graph it builds from the data `loadData`
  receives, the cycles it computes on it, and the cycle navigator.

  * `DiGraph` is the WASM `DiGraph` by the operations the viewer calls.  Its
    code is not part of the script, so it is a parameter.  `State` is what
    the modelled functions read and write: the store's data, WASM graph and
    cycle metric, and the navigator; `step` runs one exported operation.
  * `buildWasmGraph` adds an edge only for the dependencies of type `blocks`
    or of no type (`wasmGraphOf_edges`), where `NewAnalyzer` adds one for
    every type; on inputs with only such dependencies the two graphs agree
    (`wasmGraphOf_edges_iff_adj`).
  * The navigator keeps `NavInv` (when active, its cycles are the store's
    cycle metric mapped to ids, and its index is in range) under every
    operation but a `loadData` while it is active (`run_navInv`); `loadData`
    replaces the graph and the metric and leaves the navigator as it was.
-/

namespace BeadsViewer.Viewer

/-- The WASM `DiGraph`, by the operations the viewer calls on it;
    `enumerateCycles` gives the `cycles` field of its result. -/
structure DiGraph (G : Type) where
  withCapacity : Nat → Nat → G
  addNode : G → String → G
  nodeIdx : G → String → Option Nat
  nodeId : G → Nat → Option String
  addEdge : G → Nat → Nat → G
  enumerateCycles : G → Nat → Option (List (List Nat))

/-- A `DiGraph` on lists, whose cycles are the pairs of opposite edges. -/
def pairGraph : DiGraph (List String × List (Nat × Nat)) where
  withCapacity _ _ := ([], [])
  addNode g id := (g.1 ++ [id], g.2)
  nodeIdx g id := g.1.indexOf? id
  nodeId g i := g.1.get? i
  addEdge g u v := (g.1, g.2 ++ [(u, v)])
  enumerateCycles g _ :=
    some ((g.2.filter fun e => g.2.contains (e.2, e.1) && e.1 < e.2).map fun e => [e.1, e.2])

theorem pairGraph_nodeIdx_isSome (g : List String × List (Nat × Nat)) (id : String) :
    (pairGraph.nodeIdx g id).isSome ↔ id ∈ g.1 := by
  simp [pairGraph, List.indexOf?, List.findIdx?_isSome, List.any_eq_true]

/-- The store's fields the modelled functions use: `wasmReady`, `wasmGraph`,
    `issues`, `dependencies`, and `metrics.cycles?.cycles`. -/
structure Store (G : Type) where
  wasmReady : Bool
  wasmGraph : Option G
  issues : List Issue
  dependencies : List Dependency
  cycles : Option (List (List Nat))
  deriving DecidableEq

/-- `cycleNavigatorState`; `highlighted` is `highlightedCycleNodes`. -/
structure Navigator where
  active : Bool
  cycles : List (List String)
  currentIndex : Int
  highlighted : List String
  deriving DecidableEq

section
variable {G : Type} (D : DiGraph G)

/-! ## The WASM graph -/

/-- The dependencies `buildWasmGraph` draws: `d.type === 'blocks' || !d.type`. -/
def drawn (d : Dependency) : Bool := d.type.val = "blocks" || d.type.val = ""

/-- One turn of `buildWasmGraph`'s edge loop: `addEdge` when both ends have a
    node.  The second component lists the ids of each `addEdge` made. -/
def addWasmEdge (acc : G × List (String × String)) (d : Dependency) :
    G × List (String × String) :=
  match D.nodeIdx acc.1 d.issueID, D.nodeIdx acc.1 d.dependsOnID with
  | some u, some v => (D.addEdge acc.1 u v, acc.2 ++ [(d.issueID, d.dependsOnID)])
  | _, _ => acc

/-- `buildWasmGraph`'s node loop: `addNode` for each issue's id. -/
def wasmNodes (issues : List Issue) (deps : List Dependency) : G :=
  issues.foldl (fun g i => D.addNode g i.id) (D.withCapacity issues.length deps.length)

/-- The graph `buildWasmGraph` builds, with the ids of each `addEdge`. -/
def wasmGraphOf (issues : List Issue) (deps : List Dependency) : G × List (String × String) :=
  (deps.filter drawn).foldl (addWasmEdge D) (wasmNodes D issues deps, [])

/-- `buildWasmGraph`. -/
def buildWasmGraph (s : Store G) : Store G :=
  if s.wasmReady then { s with wasmGraph := some (wasmGraphOf D s.issues s.dependencies).1 } else s

/-- `computeMetrics`, for the cycle metric. -/
def computeMetrics (s : Store G) : Store G :=
  match s.wasmReady, s.wasmGraph with
  | true, some g => { s with cycles := D.enumerateCycles g 100 }
  | _, _ => s

/-- `loadData`, on the store. -/
def loadData (s : Store G) (issues : List Issue) (deps : List Dependency) : Store G :=
  let s := { s with issues := issues, dependencies := deps }
  if s.wasmReady then computeMetrics D (buildWasmGraph D s) else s

/-- Both ends of `d` have a node in `g`. -/
def known (g : G) (d : Dependency) : Bool :=
  (D.nodeIdx g d.issueID).isSome && (D.nodeIdx g d.dependsOnID).isSome

/-- The edge loop, from an accumulator whose graph looks ids up as `g₀` does. -/
theorem foldl_addWasmEdge (hD : ∀ g u v i, D.nodeIdx (D.addEdge g u v) i = D.nodeIdx g i)
    (g₀ : G) :
    ∀ (ds : List Dependency) (acc : G × List (String × String)),
      (∀ i, D.nodeIdx acc.1 i = D.nodeIdx g₀ i) →
      (ds.foldl (addWasmEdge D) acc).2 =
        acc.2 ++ (ds.filter (known D g₀)).map fun d => (d.issueID, d.dependsOnID)
  | [], acc, _ => by simp
  | d :: ds, acc, hacc => by
    have hrest := foldl_addWasmEdge hD g₀ ds
    rw [List.foldl_cons, List.filter_cons]
    cases hu : D.nodeIdx g₀ d.issueID <;> cases hv : D.nodeIdx g₀ d.dependsOnID <;>
      simp only [addWasmEdge, known, hacc, hu, hv, Option.isSome_none, Option.isSome_some,
        Bool.and_false, Bool.and_true, Bool.false_eq_true, ite_false, ite_true, List.map_cons]
    -- an end with no node: the turn skips `d`
    · exact hrest acc hacc
    · exact hrest acc hacc
    · exact hrest acc hacc
    -- both ends have a node: the turn records `d`, and `nodeIdx` is unchanged
    · rw [hrest _ fun i => (hD ..).trans (hacc i), List.append_assoc]; rfl

/-- **The edges of the WASM graph.**  When `addEdge` leaves `nodeIdx` as it
    is, `buildWasmGraph` calls `addEdge` once for each dependency of type
    `blocks` or of no type whose two ends have a node, in order, and for no
    other dependency. -/
theorem wasmGraphOf_edges (hD : ∀ g u v i, D.nodeIdx (D.addEdge g u v) i = D.nodeIdx g i)
    (issues : List Issue) (deps : List Dependency) :
    (wasmGraphOf D issues deps).2 = ((deps.filter drawn).filter (known D (wasmNodes D issues deps))).map
      fun d => (d.issueID, d.dependsOnID) :=
  foldl_addWasmEdge D hD _ _ _ fun _ => rfl

/-- The edges of a graph on `A` and `B`: the `blocks` dependency between them
    is drawn, the `related` one and the one on an unknown id are not. -/
theorem wasmGraphOf_edges_pairGraph :
    (∀ g u v i, pairGraph.nodeIdx (pairGraph.addEdge g u v) i = pairGraph.nodeIdx g i) ∧
      (wasmGraphOf pairGraph [{ (default : Issue) with id := "A" }, { (default : Issue) with id := "B" }]
        [⟨"A", "B", .blocks⟩, ⟨"B", "A", .related⟩, ⟨"A", "C", .blocks⟩]).2 = [("A", "B")] :=
  ⟨fun _ _ _ _ => rfl, (wasmGraphOf_edges pairGraph (fun _ _ _ _ => rfl) _ _).trans rfl⟩

open Analysis in
/-- **The WASM graph and `NewAnalyzer`'s agree** on the inputs where they can:
    ids distinct, every dependency of type `blocks` or of no type and owned by
    its issue, the dependency list flattened from the issues, and a WASM graph
    whose `nodeIdx` finds exactly the issue ids and is left as it is by
    `addEdge`.  Then `buildWasmGraph` passes to `addEdge` exactly the edges of
    `NewAnalyzer`'s graph, read as ids. -/
theorem wasmGraphOf_edges_iff_adj (hD : ∀ g u v i, D.nodeIdx (D.addEdge g u v) i = D.nodeIdx g i)
    {issues : List Issue}
    (hN : ∀ id, (D.nodeIdx (wasmNodes D issues (issues.flatMap Issue.dependencies)) id).isSome ↔
      id ∈ ids issues)
    (hown : ∀ i ∈ issues, ∀ d ∈ i.dependencies, d.issueID = i.id ∧ drawn d = true)
    (hnd : (ids issues).Nodup) {a : Analyzer} (ha : newAnalyzer issues = .ok a) (x y : String) :
    (x, y) ∈ (wasmGraphOf D issues (issues.flatMap Issue.dependencies)).2 ↔
      ∃ u v, a.g.Adj u v ∧ a.idOf u = x ∧ a.idOf v = y := by
  have hb := builds_of_ok ha
  unfold wasmGraphOf
  rw [foldl_addWasmEdge D hD _ _ _ fun _ => rfl, List.nil_append]
  -- both sides say: the issue `x` depends on `y`, an id of the list
  have hL : (x, y) ∈ (((issues.flatMap Issue.dependencies).filter drawn).filter
      (known D (wasmNodes D issues (issues.flatMap Issue.dependencies)))).map
        (fun d => (d.issueID, d.dependsOnID)) ↔ DependsOn issues x y ∧ y ∈ ids issues := by
    simp only [List.mem_map, List.mem_filter, List.mem_flatMap, Prod.mk.injEq, known,
      Bool.and_eq_true, hN]
    constructor
    · rintro ⟨d, ⟨⟨⟨i, hi, hd⟩, -⟩, -, hy⟩, rfl, rfl⟩
      exact ⟨⟨i, hi, (hown i hi d hd).1.symm, d, hd, rfl⟩, hy⟩
    · rintro ⟨⟨i, hi, rfl, d, hd, rfl⟩, hy⟩
      refine ⟨d, ⟨⟨⟨i, hi, hd⟩, (hown i hi d hd).2⟩, ?_, hy⟩,
        (hown i hi d hd).1, rfl⟩
      exact (hown i hi d hd).1 ▸ List.mem_map_of_mem _ hi
  rw [hL]
  constructor
  · rintro ⟨hdep, hy⟩
    obtain ⟨v, hv, rfl⟩ := exists_getElem_of_mem_ids hy
    obtain ⟨i, hi, rfl, -⟩ := id hdep
    obtain ⟨u, hu, hux⟩ := exists_getElem_of_mem_ids (List.mem_map_of_mem Issue.id hi)
    rw [← hux] at hdep
    exact ⟨u, v, hb.adj_of_dependsOn hnd hu hv hdep, (hb.idOf_getElem u hu).trans hux,
      hb.idOf_getElem v hv⟩
  · rintro ⟨u, v, hadj, rfl, rfl⟩
    exact ⟨hb.dependsOn_of_adj hadj, hb.idOf_mem_ids (a.g.edges_mem _ hadj).2⟩

open Analysis in
/-- `A` blocked by `B`, on the list graph. -/
theorem wasmGraphOf_edges_iff_adj_two :
    ∃ (issues : List Issue) (a : Analyzer),
      issues = [{ (default : Issue) with id := "A", dependencies := [⟨"A", "B", .blocks⟩] },
        { (default : Issue) with id := "B" }] ∧
      (∀ g u v i, pairGraph.nodeIdx (pairGraph.addEdge g u v) i = pairGraph.nodeIdx g i) ∧
      (∀ id, (pairGraph.nodeIdx (wasmNodes pairGraph issues (issues.flatMap Issue.dependencies))
        id).isSome ↔ id ∈ ids issues) ∧
      (∀ i ∈ issues, ∀ d ∈ i.dependencies, d.issueID = i.id ∧ drawn d = true) ∧
      (ids issues).Nodup ∧ newAnalyzer issues = .ok a ∧
      ∀ x y, (x, y) ∈ (wasmGraphOf pairGraph issues (issues.flatMap Issue.dependencies)).2 ↔
        ∃ u v, a.g.Adj u v ∧ a.idOf u = x ∧ a.idOf v = y := by
  have hN : ∀ id, (pairGraph.nodeIdx (wasmNodes pairGraph
      [{ (default : Issue) with id := "A", dependencies := [⟨"A", "B", .blocks⟩] },
        { (default : Issue) with id := "B" }] [⟨"A", "B", .blocks⟩]) id).isSome ↔ id ∈ ["A", "B"] :=
    fun id => pairGraph_nodeIdx_isSome _ id
  refine ⟨_, _, rfl, fun _ _ _ _ => rfl, hN, by decide, by decide, rfl, ?_⟩
  exact wasmGraphOf_edges_iff_adj pairGraph (fun _ _ _ _ => rfl) hN (by decide) (by decide) rfl

open Analysis in
/-- An issue with a `parent-child` dependency: `NewAnalyzer` draws its edge,
    and `buildWasmGraph` makes no `addEdge` call, whatever the WASM graph. -/
theorem buildWasmGraph_parentChild :
    ∃ a, newAnalyzer [{ (default : Issue) with id := "A", dependencies := [⟨"A", "B", .parentChild⟩] },
        { (default : Issue) with id := "B" }] = .ok a ∧ a.g.Adj 0 1 ∧ a.idOf 0 = "A" ∧ a.idOf 1 = "B" ∧
      (wasmGraphOf D [{ (default : Issue) with id := "A", dependencies := [⟨"A", "B", .parentChild⟩] },
        { (default : Issue) with id := "B" }] [⟨"A", "B", .parentChild⟩]).2 = [] :=
  ⟨_, rfl, by decide, rfl, rfl, rfl⟩

/-! ## The cycle navigator -/

/-- The store's cycles as the navigator takes them: each index mapped to its
    id through the WASM graph, those with no id dropped (`filter(Boolean)`
    drops `undefined` and `""`), then the empty cycles dropped. -/
def navCycles (s : Store G) : List (List String) :=
  ((s.cycles.getD []).map fun c => c.filterMap fun i =>
      (s.wasmGraph.bind fun g => D.nodeId g i).filter (· != "")).filter (· != [])

/-- `initCycleNavigator`. -/
def initCycleNavigator (s : Store G) (n : Navigator) : Navigator :=
  if (s.cycles.getD []).length = 0 then { n with active := false, cycles := [], currentIndex := 0 }
  else { n with cycles := navCycles D s, currentIndex := 0, active := 0 < (navCycles D s).length }

end

/-- `highlightCycle(index)`, on the navigator: the index clamped to the cycles,
    and the cycle's nodes highlighted. -/
def highlightCycle (n : Navigator) (index : Int) : Navigator :=
  if !n.active || n.cycles.length = 0 then n
  else
    let index := max 0 (min index (n.cycles.length - 1))
    let n := { n with currentIndex := index }
    match n.cycles.get? index.toNat with
    | some cycle => if cycle.length = 0 then n else { n with highlighted := cycle.eraseDups }
    | none => n

/-- `nextCycle`. -/
def nextCycle (n : Navigator) : Navigator :=
  if !n.active then n else highlightCycle n ((n.currentIndex + 1) % n.cycles.length)

/-- `prevCycle`. -/
def prevCycle (n : Navigator) : Navigator :=
  if !n.active then n
  else highlightCycle n ((n.currentIndex - 1 + n.cycles.length) % n.cycles.length)

/-- `resetCycleNavigator`. -/
def resetCycleNavigator (n : Navigator) : Navigator :=
  { n with active := false, currentIndex := 0, highlighted := [] }

/-- `toggleCycleNavigator`. -/
def toggleCycleNavigator {G : Type} (D : DiGraph G) (s : Store G) (n : Navigator) : Navigator :=
  if n.active && !n.highlighted.isEmpty then resetCycleNavigator n
  else
    let n := initCycleNavigator D s n
    if 0 < n.cycles.length then highlightCycle n 0 else n

/-! ## The navigator's invariant -/

/-- The navigator is in step with the cycle list `cs`: when active, its
    cycles are `cs` and its index is one of theirs. -/
def Navigator.Ok (cs : List (List String)) (n : Navigator) : Prop :=
  n.active → n.cycles = cs ∧ 0 ≤ n.currentIndex ∧ n.currentIndex < n.cycles.length

instance (cs : List (List String)) (n : Navigator) : Decidable (n.Ok cs) :=
  inferInstanceAs (Decidable (n.active → n.cycles = cs ∧ 0 ≤ n.currentIndex ∧
    n.currentIndex < n.cycles.length))

section
variable {cs : List (List String)} {n : Navigator}

/-- `highlightCycle` keeps the cycles and clamps the index into them. -/
theorem highlightCycle_ok (h : n.Ok cs) (index : Int) : (highlightCycle n index).Ok cs := by
  unfold highlightCycle
  split
  · exact h
  · rename_i hn
    have hlen : 0 < n.cycles.length := by simp_all [Nat.pos_iff_ne_zero]
    have hlo : 0 ≤ max 0 (min index (n.cycles.length - 1 : Int)) := by omega
    have hhi : max 0 (min index (n.cycles.length - 1 : Int)) < n.cycles.length := by omega
    dsimp only
    split <;> (try split) <;> exact fun ha => ⟨(h ha).1, hlo, hhi⟩

theorem nextCycle_ok (h : n.Ok cs) : (nextCycle n).Ok cs := by
  unfold nextCycle; split
  · exact h
  · exact highlightCycle_ok h _

theorem prevCycle_ok (h : n.Ok cs) : (prevCycle n).Ok cs := by
  unfold prevCycle; split
  · exact h
  · exact highlightCycle_ok h _

theorem resetCycleNavigator_ok : (resetCycleNavigator n).Ok cs := nofun

end

section
variable {G : Type} (D : DiGraph G) (s : Store G) (n : Navigator)

/-- `initCycleNavigator` puts the navigator in step with the store. -/
theorem initCycleNavigator_ok : (initCycleNavigator D s n).Ok (navCycles D s) := by
  unfold initCycleNavigator
  split
  · exact nofun
  · intro ha
    exact ⟨rfl, le_refl _, by simpa using ha⟩

theorem toggleCycleNavigator_ok : (toggleCycleNavigator D s n).Ok (navCycles D s) := by
  unfold toggleCycleNavigator
  split
  · exact resetCycleNavigator_ok
  · dsimp only
    split
    · exact highlightCycle_ok (initCycleNavigator_ok D s n) 0
    · exact initCycleNavigator_ok D s n

end

/-! ## Runs -/

/-- The viewer's state. -/
structure State (G : Type) where
  store : Store G
  nav : Navigator
  deriving DecidableEq

/-- The operations the viewer exports that the model covers. -/
inductive Op where
  | loadData (issues : List Issue) (deps : List Dependency)
  | initCycleNavigator
  | highlightCycle (index : Int)
  | nextCycle
  | prevCycle
  | toggleCycleNavigator
  | resetCycleNavigator

/-- `op` is a `loadData`. -/
def Op.isLoad : Op → Bool
  | .loadData _ _ => true
  | _ => false

section
variable {G : Type} (D : DiGraph G)

/-- One operation. -/
def step (v : State G) : Op → State G
  | .loadData issues deps => { v with store := loadData D v.store issues deps }
  | .initCycleNavigator => { v with nav := initCycleNavigator D v.store v.nav }
  | .highlightCycle index => { v with nav := highlightCycle v.nav index }
  | .nextCycle => { v with nav := nextCycle v.nav }
  | .prevCycle => { v with nav := prevCycle v.nav }
  | .toggleCycleNavigator => { v with nav := toggleCycleNavigator D v.store v.nav }
  | .resetCycleNavigator => { v with nav := resetCycleNavigator v.nav }

/-- A sequence of operations. -/
def run (v : State G) (ops : List Op) : State G := ops.foldl (step D) v

/-- The navigator's invariant: it is in step with the store's cycle metric
    mapped to ids. -/
def NavInv (v : State G) : Prop := v.nav.Ok (navCycles D v.store)

instance (v : State G) : Decidable (NavInv D v) := inferInstanceAs (Decidable (v.nav.Ok _))

/-- **Each operation keeps the navigator's invariant**, but a `loadData`
    while the navigator is active. -/
theorem step_navInv {v : State G} (op : Op) (h : NavInv D v)
    (hop : op.isLoad = false ∨ v.nav.active = false) : NavInv D (step D v op) := by
  cases op with
  | loadData issues deps =>
    simp only [Op.isLoad, Bool.true_eq_false, false_or] at hop
    exact fun ha => absurd ha (by simp [step, hop])
  | initCycleNavigator => exact initCycleNavigator_ok D v.store v.nav
  | highlightCycle index => exact highlightCycle_ok h index
  | nextCycle => exact nextCycle_ok h
  | prevCycle => exact prevCycle_ok h
  | toggleCycleNavigator => exact toggleCycleNavigator_ok D v.store v.nav
  | resetCycleNavigator => exact resetCycleNavigator_ok

/-- **The navigator stays in step with the store** along every run that
    loads data only while the navigator is closed: each `loadData`, at
    position `i`, follows a prefix after which `active` is false. -/
theorem run_navInv (v : State G) (ops : List Op) (h : NavInv D v)
    (hops : ∀ i (hi : i < ops.length), ops[i].isLoad = true →
      (run D v (ops.take i)).nav.active = false) :
    NavInv D (run D v ops) := by
  induction ops generalizing v with
  | nil => exact h
  | cons op ops ih =>
    have hop : op.isLoad = false ∨ v.nav.active = false := by
      cases hl : op.isLoad
      · exact .inl rfl
      · exact .inr (hops 0 (Nat.zero_lt_succ _) hl)
    exact ih _ (step_navInv D op h hop) fun i hi => hops (i + 1) (Nat.succ_lt_succ hi)

end

/-- The navigator opened, moved and closed on the data of a two-cycle, then
    new data loaded and the navigator opened on it. -/
theorem run_navInv_two_cycle :
    ∃ (v : State (List String × List (Nat × Nat))) (ops : List Op),
      v = ⟨⟨true, none, [], [], none⟩, ⟨false, [], 0, []⟩⟩ ∧
      ops = [.loadData [{ (default : Issue) with id := "A" }, { (default : Issue) with id := "B" }]
          [⟨"A", "B", .blocks⟩, ⟨"B", "A", .blocks⟩],
        .toggleCycleNavigator, .nextCycle, .prevCycle, .highlightCycle 5, .resetCycleNavigator,
        .loadData [{ (default : Issue) with id := "C" }] [], .initCycleNavigator] ∧
      NavInv pairGraph v ∧
      (∀ i (hi : i < ops.length), ops[i].isLoad = true →
        (run pairGraph v (ops.take i)).nav.active = false) ∧
      NavInv pairGraph (run pairGraph v ops) :=
  ⟨_, _, rfl, rfl, by decide, by decide, run_navInv pairGraph _ _ (by decide) (by decide)⟩

/-- Loading new data while the navigator is active: the navigator keeps the
    cycle of the old data, and `nextCycle` highlights its nodes, which the new
    data does not have. -/
theorem loadData_stale_navigator :
    ∃ v₀ v : State (List String × List (Nat × Nat)),
      v₀ = ⟨⟨true, none, [], [], none⟩, ⟨false, [], 0, []⟩⟩ ∧
      v = run pairGraph v₀
        [.loadData [{ (default : Issue) with id := "A" }, { (default : Issue) with id := "B" }]
            [⟨"A", "B", .blocks⟩, ⟨"B", "A", .blocks⟩],
          .initCycleNavigator, .loadData [{ (default : Issue) with id := "C" }] [], .nextCycle] ∧
      NavInv pairGraph v₀ ∧ ¬ NavInv pairGraph v ∧ v.nav.active = true ∧
      v.nav.cycles = [["A", "B"]] ∧ navCycles pairGraph v.store = [] ∧
      v.store.issues.map Issue.id = ["C"] ∧ v.nav.highlighted = ["A", "B"] :=
  ⟨_, _, rfl, rfl, by decide, by decide, rfl, rfl, rfl, rfl, rfl⟩

end BeadsViewer.Viewer
