import BeadsViewer.Viewer.GraphData
/-
  beads_viewer formalization — the viewer's interactions and the timers they
  leave pending: selection and highlighting, the what-if simulation
  (`performWhatIf`, `animateWhatIfCascade`, `resetWhatIf`) and the critical
  path animation (`animateCriticalPath`, `animateStep`, `resetCriticalPath`),
  with the keyboard and click handlers that call them.

  * `UIState` is what these functions read and write: the store and its
    filters, the highlight sets, `whatIfState`, `criticalPathState`, the
    visual marks on the current graph data's nodes, and the callbacks
    `setTimeout` has queued.  `Op` is one exported call, handler or timer
    firing; a run is any interleaving of them, timers firing in any order.
    The WASM graph's `whatIfClose`, `kCriticalPathsDefault`, `reachableTo`,
    `reachableFrom` and `criticalPathNodes` are the operations' inputs.
  * `Inv` holds of every reachable state (`run_inv`): timer ids are fresh,
    the critical path's pending timer is exactly the one it records, and
    only while the path is active (`critical_pending_active`: the guard of
    `animateStep` on `criticalPathState.active` never fails); the what-if's
    recorded timer is its summary.
  * So `resetCriticalPath` stops the critical path for good: after it, until
    a call starts a new one, no node is marked, none is pending and the path
    is inactive (`resetCriticalPath_stops`); and three presses of `Escape`
    clear the what-if, the critical path, the selection and the highlights
    (`escape_thrice`).  `resetWhatIf` cancels only the
    summary: a pending unblock step survives every later operation and, when
    it fires, highlights its node and adds it to `unblockedNodes`, what-if
    active or not (`whatIf_unblock_outlives_reset`).
  * An unblock step highlights only links into the node it unblocks
    (`whatIfUnblock_links`): when link keys tell the store's links apart, the
    links from it to its own blockers keep their highlight
    (`whatIfUnblock_blocker_links`).
-/

namespace BeadsViewer.Viewer

/-! ## State -/

/-- The `_whatIfState` mark of a node. -/
inductive WhatIfMark where
  | closing
  | unblocked
  deriving DecidableEq, Repr

/-- A callback `setTimeout` has queued, with what it captured. -/
inductive Callback where
  /-- A turn of `animateWhatIfCascade`'s loop: the node `id` unblocked by
      closing `source`, on the graph data `graph`. -/
  | whatIfUnblock (source id : String) (graph : Nat)
  /-- `showWhatIfSummary`, after the cascade. -/
  | whatIfSummary
  /-- The next `animateStep` of a traversal of `path` on the graph data
      `graph`. -/
  | criticalStep (path : List String) (graph : Nat)
  /-- `showCriticalPathSummary`, after the traversal. -/
  | criticalSummary
  deriving DecidableEq, Repr

/-- The callbacks of the critical path animation. -/
def Callback.isCritical : Callback → Bool
  | .criticalStep _ _ => true
  | .criticalSummary => true
  | _ => false

/-- A pending timer: the id `setTimeout` returned and its callback. -/
structure Timer where
  id : Nat
  callback : Callback
  deriving DecidableEq, Repr

/-- `whatIfState`; `sourceNode` by its id. -/
structure WhatIfState where
  active : Bool
  sourceNode : Option String
  unblockedNodes : List String
  animationPhase : Nat
  animationTimer : Option Nat
  deriving DecidableEq, Repr

/-- `criticalPathState`, by the fields the modelled functions read;
    `pathIndices` and `pathLength`, which only `getCriticalPathState` reads,
    are left out. -/
structure CriticalPathState where
  active : Bool
  path : List String
  currentStep : Nat
  animationTimer : Option Nat
  deriving DecidableEq, Repr

/-- The viewer's interaction state.  `graph` counts the graph data objects
    handed to the force graph: the current one is `prepareGraphData` of the
    store and its filters, and the marks are on its nodes, by id. -/
structure UIState (G : Type) where
  store : Store G
  filters : Filters
  graph : Nat
  selectedNode : Option Node
  highlightedNodes : List String
  highlightedLinks : List String
  whatIf : WhatIfState
  criticalPath : CriticalPathState
  whatIfMarks : List (String × WhatIfMark)
  criticalMarks : List String
  timers : List Timer
  nextTimer : Nat

/-- `Set.prototype.add`, on a list without repeats. -/
def addTo (s : List String) (x : String) : List String := if x ∈ s then s else s ++ [x]

/-- The key `${source}-${target}` of a link in `highlightedLinks`. -/
def linkKey (source target : String) : String := source ++ "-" ++ target

/-- `store.nodeMap.get(id)`: `loadData` sets each issue in turn, so the last
    issue of the id wins. -/
def nodeMapGet (issues : List Issue) (id : String) : Option Issue :=
  issues.reverse.find? fun i => i.id == id

/-- The ids `store.wasmGraph.nodeId` gives the indices, `filter(Boolean)`
    dropping `undefined` and `""`. -/
def idsOf {G : Type} (D : DiGraph G) (g : G) (idxs : List Nat) : List String :=
  idxs.filterMap fun i => (D.nodeId g i).filter (· != "")

/-- The state before any call: `new GraphStore()`, no WASM yet. -/
def UIState.initial (G : Type) : UIState G :=
  ⟨⟨false, none, [], [], none⟩, {}, 0, none, [], [], ⟨false, none, [], 0, none⟩, ⟨false, [], 0, none⟩,
    [], [], [], 1⟩

section
variable {G : Type}

/-! ## Timers -/

/-- `setTimeout(cb)`: the callback queued under a fresh id, which is
    `v.nextTimer`. -/
def setTimeout (v : UIState G) (cb : Callback) : UIState G :=
  { v with timers := v.timers ++ [⟨v.nextTimer, cb⟩], nextTimer := v.nextTimer + 1 }

/-- `clearTimeout(id)`: the timer of that id, if any, no longer pending.  The
    callers guard it with `if (id)`; `none` clears nothing. -/
def clearTimeout (v : UIState G) (id : Option Nat) : UIState G :=
  { v with timers := v.timers.filter fun t => id != some t.id }

variable (D : DiGraph G) (toLower : String → String)

/-- The ids of the nodes of the current graph data. -/
def graphNodeIds (v : UIState G) : List String :=
  (prepareGraphData toLower D v.store v.filters).nodes.map Node.id

/-! ## Selection and highlighting -/

/-- `selectNode(node)`. -/
def selectNode (v : UIState G) (node : Option Node) : UIState G :=
  { v with selectedNode := node, highlightedNodes := (node.map Node.id).toList, highlightedLinks := [] }

/-- `clearSelection()`; `focusedPath` is left out. -/
def clearSelection (v : UIState G) : UIState G :=
  { v with selectedNode := none, highlightedNodes := [], highlightedLinks := [] }

/-- `highlightNodes(nodeIds)`: `new Set(nodeIds)`, the links left as they are. -/
def highlightNodes (v : UIState G) (ids : List String) : UIState G :=
  { v with highlightedNodes := ids.eraseDups }

/-- `highlightDependencyPath(node)`, with `reachableTo` and `reachableFrom` of
    the node's index as `blockers` and `dependents`: the node, what it
    reaches both ways, and the drawn links among them. -/
def highlightDependencyPath (v : UIState G) (node : Option Node) (blockers dependents : List Nat) :
    UIState G :=
  let v := { v with highlightedNodes := [], highlightedLinks := [] }
  match node, v.store.wasmReady, v.store.wasmGraph with
  | some n, true, some g =>
    match D.nodeIdx g n.id with
    | some _ =>
      let hs := (idsOf D g (blockers ++ dependents)).foldl addTo [n.id]
      { v with
        highlightedNodes := hs
        highlightedLinks := (prepareGraphData toLower D v.store v.filters).links.foldl
          (fun ls l => if l.source ∈ hs ∧ l.target ∈ hs then addTo ls (linkKey l.source l.target)
            else ls) [] }
    | none => v
  | _, _, _ => v

/-- `highlightCriticalPath()`, with `criticalPathNodes()` as `criticalNodes`. -/
def highlightCriticalPath (v : UIState G) (criticalNodes : List Nat) : UIState G :=
  match v.store.wasmReady, v.store.wasmGraph with
  | true, some g => { v with highlightedNodes := (idsOf D g criticalNodes).eraseDups }
  | _, _ => v

/-- `highlightCycles()`: the ids of the cycle metric's nodes. -/
def highlightCycles (v : UIState G) : UIState G :=
  match v.store.cycles with
  | some cs =>
    { v with highlightedNodes := (cs.flatten.eraseDups.filterMap fun i =>
        (v.store.wasmGraph.bind fun g => D.nodeId g i).filter (· != "")).eraseDups }
  | none => v

/-! ## The what-if simulation -/

/-- `resetWhatIf()`: the summary timer cleared, the marks deleted, the state
    and the highlights emptied. -/
def resetWhatIf (v : UIState G) : UIState G :=
  let v := clearTimeout v v.whatIf.animationTimer
  { v with
    whatIf := ⟨false, none, [], 0, none⟩
    whatIfMarks := []
    highlightedNodes := []
    highlightedLinks := [] }

/-- `node._whatIfState = mark`, when the graph data the caller holds is the
    current one and has a node of the id. -/
def markWhatIf (v : UIState G) (graph : Nat) (id : String) (mark : WhatIfMark) : UIState G :=
  { v with
    whatIfMarks := if graph = v.graph ∧ id ∈ graphNodeIds D toLower v then v.whatIfMarks ++ [(id, mark)]
      else v.whatIfMarks }

/-- The `forEach` of `animateWhatIfCascade`: a timer for each unblocked node,
    on the graph data captured before the loop. -/
def scheduleUnblocks (v : UIState G) (source : String) (graph : Nat) : List String → UIState G
  | [] => v
  | id :: ids => scheduleUnblocks (setTimeout v (.whatIfUnblock source id graph)) source graph ids

/-- `animateWhatIfCascade(sourceNode, result)`, with the ids of the unblocked
    nodes: a reset, the source highlighted and marked `closing`, one timer
    per unblocked node, then the summary timer. -/
def animateWhatIfCascade (v : UIState G) (source : String) (unblockedIds : List String) :
    UIState G :=
  let v := resetWhatIf v
  let v := { v with
    whatIf := { v.whatIf with active := true, sourceNode := some source, unblockedNodes := [] }
    highlightedNodes := [source]
    highlightedLinks := [] }
  let v := markWhatIf D toLower v v.graph source .closing
  let v := { v with whatIf := { v.whatIf with animationPhase := 1 } }
  let v := scheduleUnblocks v source v.graph unblockedIds
  let summary := v.nextTimer
  let v := setTimeout v .whatIfSummary
  { v with whatIf := { v.whatIf with animationTimer := some summary } }

/-- `performWhatIf(node)`, with `whatIfClose`'s result: the indices of the
    unblocked nodes, or what it threw. -/
def performWhatIf (v : UIState G) (node : Node) (result : Except String (List Nat)) : UIState G :=
  match v.store.wasmReady, v.store.wasmGraph with
  | true, some g =>
    if node.status = "closed" then v
    else match D.nodeIdx g node.id, result with
      | some _, .ok unblocked => animateWhatIfCascade D toLower v node.id (idsOf D g unblocked)
      | _, _ => v
  | _, _ => v

/-- The body of an unblock step's `store.dependencies.forEach`: the link of
    `dep` highlighted when `dep` is a dependency on `id` of the source, or of
    an issue the store has as closed. -/
def unblockLink (issues : List Issue) (source id : String) (ls : List String) (dep : Dependency) :
    List String :=
  let ls := if dep.issueID = source ∧ dep.dependsOnID = id then addTo ls (linkKey source id) else ls
  match nodeMapGet issues dep.issueID with
  | some blocker =>
    if (blocker.status.val = "closed" ∨ dep.issueID = source) ∧ dep.dependsOnID = id then
      addTo ls (linkKey dep.issueID id)
    else ls
  | none => ls

/-- A turn of the cascade: the node unblocked and highlighted, marked on the
    graph data the cascade captured, and links into it highlighted. -/
def whatIfUnblock (v : UIState G) (source id : String) (graph : Nat) : UIState G :=
  let v := { v with
    whatIf := { v.whatIf with unblockedNodes := addTo v.whatIf.unblockedNodes id }
    highlightedNodes := addTo v.highlightedNodes id }
  let v := markWhatIf D toLower v graph id .unblocked
  { v with
    highlightedLinks := v.store.dependencies.foldl (unblockLink v.store.issues source id)
      v.highlightedLinks }

/-! ## The critical path -/

/-- `resetCriticalPath()`. -/
def resetCriticalPath (v : UIState G) : UIState G :=
  let v := clearTimeout v v.criticalPath.animationTimer
  { v with
    criticalPath := ⟨false, [], 0, none⟩
    criticalMarks := []
    highlightedNodes := []
    highlightedLinks := [] }

/-- `highlightCriticalPathLinks()`: both keys of each consecutive pair. -/
def criticalLinks (path : List String) (ls : List String) : List String :=
  (path.zip path.tail).foldl (fun ls e => addTo (addTo ls (linkKey e.1 e.2)) (linkKey e.2 e.1)) ls

/-- `animateStep()` of a traversal of `path` on the graph data `graph`: past
    the end, or once reset, the summary timer; else the next node
    highlighted and marked, the link from the previous one highlighted, and
    the next step's timer. -/
def animateStep (v : UIState G) (path : List String) (graph : Nat) : UIState G :=
  if !v.criticalPath.active || path.length ≤ v.criticalPath.currentStep then
    let t := v.nextTimer
    let v := setTimeout v .criticalSummary
    { v with criticalPath := { v.criticalPath with animationTimer := some t } }
  else
    let step := v.criticalPath.currentStep
    let nodeId := path.getD step ""
    let prev := path.getD (step - 1) ""
    let v := { v with
      highlightedNodes := addTo v.highlightedNodes nodeId
      criticalMarks := if graph = v.graph ∧ nodeId ∈ graphNodeIds D toLower v then
          addTo v.criticalMarks nodeId
        else v.criticalMarks
      highlightedLinks := if 0 < step then
          addTo (addTo v.highlightedLinks (linkKey prev nodeId)) (linkKey nodeId prev)
        else v.highlightedLinks }
    let t := v.nextTimer
    let v := setTimeout v (.criticalStep path graph)
    { v with criticalPath := { v.criticalPath with currentStep := step + 1, animationTimer := some t } }

/-- `animateCriticalPath(animate)`, with `kCriticalPathsDefault`'s paths (their
    node indices), or what it threw. -/
def animateCriticalPath (v : UIState G) (animate : Bool) (result : Except String (List (List Nat))) :
    UIState G :=
  match v.store.wasmReady, v.store.wasmGraph with
  | true, some g =>
    let v := resetCriticalPath v
    match result with
    | .ok (nodes :: _) =>
      let path := idsOf D g nodes
      if nodes = [] ∨ path = [] then v
      else
        let v := { v with
          criticalPath := { v.criticalPath with active := true, path := path }
          highlightedNodes := []
          highlightedLinks := [] }
        if animate then
          animateStep D toLower { v with criticalPath := { v.criticalPath with currentStep := 0 } }
            path v.graph
        else
          { v with
            highlightedNodes := path.foldl addTo v.highlightedNodes
            highlightedLinks := criticalLinks path v.highlightedLinks }
    | _ => v
  | _, _ => v

/-- `toggleCriticalPath()`. -/
def toggleCriticalPath (v : UIState G) (result : Except String (List (List Nat))) : UIState G :=
  if v.criticalPath.active then resetCriticalPath v else animateCriticalPath D toLower v true result

/-! ## Data, filters and handlers -/

/-- `loadData(issues, dependencies)`: `store.reset()` clears the selection and
    the highlights, the store is loaded, and new graph data replaces the
    marked one.  The what-if and the critical path are left as they are. -/
def loadDataUI (v : UIState G) (issues : List Issue) (deps : List Dependency) : UIState G :=
  { v with
    store := loadData D v.store issues deps
    selectedNode := none
    highlightedNodes := []
    highlightedLinks := []
    graph := v.graph + 1
    whatIfMarks := []
    criticalMarks := [] }

/-- `setFilter(key, value)`: new graph data replaces the marked one. -/
def setFilterUI (v : UIState G) (u : FilterUpdate) : UIState G :=
  { v with filters := setFilter v.filters u, graph := v.graph + 1, whatIfMarks := [], criticalMarks := [] }

/-- `clearFilters()`. -/
def clearFiltersUI (v : UIState G) : UIState G :=
  { v with filters := clearFilters, graph := v.graph + 1, whatIfMarks := [], criticalMarks := [] }

/-- The `Escape` key: the what-if reset, else the critical path, else the
    selection cleared. -/
def escape (v : UIState G) : UIState G :=
  if v.whatIf.active then resetWhatIf v
  else if v.criticalPath.active then resetCriticalPath v
  else clearSelection v

/-- A plain click on a node: an active what-if reset, then the node selected. -/
def clickNode (v : UIState G) (node : Node) : UIState G :=
  selectNode (if v.whatIf.active then resetWhatIf v else v) (some node)

/-- A timer firing: the callback of the pending timer of that id, taken off
    the queue; nothing when no timer of the id is pending. -/
def fire (v : UIState G) (id : Nat) : UIState G :=
  match v.timers.find? fun t => t.id == id with
  | none => v
  | some t =>
    let v := { v with timers := v.timers.filter fun t => t.id != id }
    match t.callback with
    | .whatIfUnblock source nodeId graph => whatIfUnblock D toLower v source nodeId graph
    | .whatIfSummary => { v with whatIf := { v.whatIf with animationPhase := 2 } }
    | .criticalStep path graph => animateStep D toLower v path graph
    | .criticalSummary => v

end

/-! ## Runs -/

/-- A call the viewer exports, a handler it installs, or a timer firing. -/
inductive UIOp where
  | initWasm (ok : Bool)
  | loadData (issues : List Issue) (deps : List Dependency)
  | setFilter (u : FilterUpdate)
  | clearFilters
  | resetView
  | selectNode (node : Option Node)
  | clearSelection
  | highlightNodes (ids : List String)
  | highlightDependencyPath (node : Option Node) (blockers dependents : List Nat)
  | highlightCriticalPath (criticalNodes : List Nat)
  | highlightCycles
  | performWhatIf (node : Node) (result : Except String (List Nat))
  | resetWhatIf
  | animateCriticalPath (animate : Bool) (result : Except String (List (List Nat)))
  | resetCriticalPath
  | toggleCriticalPath (result : Except String (List (List Nat)))
  | clickNode (node : Node)
  | escape
  | keyW (result : Except String (List Nat))
  | fire (id : Nat)

/-- The calls that start a critical path animation: `animateCriticalPath`
    and `toggleCriticalPath` (the `c` key). -/
def UIOp.startsCriticalPath : UIOp → Bool
  | .animateCriticalPath _ _ => true
  | .toggleCriticalPath _ => true
  | _ => false

section
variable {G : Type} (D : DiGraph G) (toLower : String → String)

/-- One operation.  `initWasm` sets `wasmReady` as `initWasm` does on success
    or failure; `resetView`'s camera moves are left out; `keyW` is the `w`
    key, a what-if on the selected node. -/
def stepUI (v : UIState G) : UIOp → UIState G
  | .initWasm ok => { v with store := { v.store with wasmReady := ok } }
  | .loadData issues deps => loadDataUI D v issues deps
  | .setFilter u => setFilterUI v u
  | .clearFilters => clearFiltersUI v
  | .resetView => clearFiltersUI (clearSelection v)
  | .selectNode node => selectNode v node
  | .clearSelection => clearSelection v
  | .highlightNodes ids => highlightNodes v ids
  | .highlightDependencyPath node blockers dependents =>
    highlightDependencyPath D toLower v node blockers dependents
  | .highlightCriticalPath criticalNodes => highlightCriticalPath D v criticalNodes
  | .highlightCycles => highlightCycles D v
  | .performWhatIf node result => performWhatIf D toLower v node result
  | .resetWhatIf => resetWhatIf v
  | .animateCriticalPath animate result => animateCriticalPath D toLower v animate result
  | .resetCriticalPath => resetCriticalPath v
  | .toggleCriticalPath result => toggleCriticalPath D toLower v result
  | .clickNode node => clickNode v node
  | .escape => escape v
  | .keyW result => match v.selectedNode with
    | some node => performWhatIf D toLower v node result
    | none => v
  | .fire id => fire D toLower v id

/-- A run of operations. -/
def runUI (v : UIState G) (ops : List UIOp) : UIState G := ops.foldl (stepUI D toLower) v

end

/-! ## Frames -/

section
variable {G : Type} (D : DiGraph G) (toLower : String → String) {v w : UIState G}

theorem mem_addTo {s : List String} {x k : String} : k ∈ addTo s x ↔ k ∈ s ∨ k = x := by
  unfold addTo
  split
  · exact ⟨Or.inl, fun h => h.elim id fun e => e ▸ ‹x ∈ s›⟩
  · simp

theorem mem_clearTimeout {x : Option Nat} {t : Timer} :
    t ∈ (clearTimeout v x).timers ↔ t ∈ v.timers ∧ x ≠ some t.id := by
  simp [clearTimeout]

theorem mem_setTimeout {cb : Callback} {t : Timer} :
    t ∈ (setTimeout v cb).timers ↔ t ∈ v.timers ∨ t = ⟨v.nextTimer, cb⟩ := by
  simp [setTimeout]

/-- What the unblock loop leaves alone, it leaves alone timer by timer. -/
theorem scheduleUnblocks_frame {α : Type} (f : UIState G → α) (hf : ∀ v cb, f (setTimeout v cb) = f v)
    (source : String) (graph : Nat) :
    ∀ (ids : List String) (v : UIState G), f (scheduleUnblocks v source graph ids) = f v
  | [], _ => rfl
  | _ :: ids, v => (scheduleUnblocks_frame f hf source graph ids _).trans (hf v _)

theorem sublist_scheduleUnblocks (source : String) (graph : Nat) {ts : List Timer} :
    ∀ (ids : List String) (v : UIState G), List.Sublist ts v.timers →
      List.Sublist ts (scheduleUnblocks v source graph ids).timers
  | [], _, h => h
  | _ :: ids, v, h =>
    sublist_scheduleUnblocks source graph ids (setTimeout v _) (h.trans (List.sublist_append_left _ _))

/-- The unblock loop queues unblock steps only. -/
theorem mem_scheduleUnblocks (source : String) (graph : Nat) {t : Timer} :
    ∀ (ids : List String) (v : UIState G), t ∈ (scheduleUnblocks v source graph ids).timers →
      t ∈ v.timers ∨ ∃ id, t.callback = .whatIfUnblock source id graph
  | [], _, ht => Or.inl ht
  | id :: ids, v, ht => by
    rcases mem_scheduleUnblocks source graph ids _ ht with ht | h
    · rcases mem_setTimeout.1 ht with ht | rfl
      exacts [Or.inl ht, Or.inr ⟨id, rfl⟩]
    · exact Or.inr h

/-- `w` is `v` with the timers and the critical path left alone and the
    critical marks kept or deleted: what an operation does that only
    selects, highlights, loads, filters or marks a what-if. -/
structure Untimed (v w : UIState G) : Prop where
  timers : w.timers = v.timers
  nextTimer : w.nextTimer = v.nextTimer
  whatIfTimer : w.whatIf.animationTimer = v.whatIf.animationTimer
  criticalPath : w.criticalPath = v.criticalPath
  criticalMarks : w.criticalMarks = v.criticalMarks ∨ w.criticalMarks = []

/-- The operations that touch a timer or the critical path. -/
def UIOp.timed : UIOp → Bool
  | .performWhatIf _ _ | .resetWhatIf | .animateCriticalPath _ _ | .resetCriticalPath
  | .toggleCriticalPath _ | .clickNode _ | .escape | .keyW _ | .fire _ => true
  | _ => false

theorem untimed_stepUI {op : UIOp} (hop : op.timed = false) : Untimed v (stepUI D toLower v op) := by
  cases op <;> simp only [UIOp.timed, reduceCtorEq] at hop <;> simp only [stepUI]
  case highlightDependencyPath =>
    unfold highlightDependencyPath; dsimp only
    split <;> (try split) <;> exact ⟨rfl, rfl, rfl, rfl, Or.inl rfl⟩
  case highlightCriticalPath => unfold highlightCriticalPath; split <;> exact ⟨rfl, rfl, rfl, rfl, Or.inl rfl⟩
  case highlightCycles => unfold highlightCycles; split <;> exact ⟨rfl, rfl, rfl, rfl, Or.inl rfl⟩
  all_goals first | exact ⟨rfl, rfl, rfl, rfl, Or.inl rfl⟩ | exact ⟨rfl, rfl, rfl, rfl, Or.inr rfl⟩

theorem untimed_whatIfUnblock (source id : String) (graph : Nat) :
    Untimed v (whatIfUnblock D toLower v source id graph) := ⟨rfl, rfl, rfl, rfl, Or.inl rfl⟩

theorem Untimed.refl : Untimed v v := ⟨rfl, rfl, rfl, rfl, Or.inl rfl⟩

theorem untimed_selectNode (node : Option Node) : Untimed v (selectNode v node) :=
  ⟨rfl, rfl, rfl, rfl, Or.inl rfl⟩

theorem untimed_clearSelection : Untimed v (clearSelection v) := ⟨rfl, rfl, rfl, rfl, Or.inl rfl⟩

/-- What a step does to the timers and the critical path, up to an `Untimed`
    change: nothing, a reset, a what-if, a critical path animation (only on a
    call that starts one), or a timer firing. -/
inductive TimedStep (v : UIState G) (op : UIOp) : UIState G → Prop
  | stay : TimedStep v op v
  | resetWhatIf : TimedStep v op (Viewer.resetWhatIf v)
  | resetCriticalPath : TimedStep v op (Viewer.resetCriticalPath v)
  | performWhatIf (node : Node) (result : Except String (List Nat)) :
      TimedStep v op (Viewer.performWhatIf D toLower v node result)
  | animateCriticalPath (animate : Bool) (result : Except String (List (List Nat))) :
      op.startsCriticalPath = true → TimedStep v op (Viewer.animateCriticalPath D toLower v animate result)
  | fire (x : Nat) : op = .fire x → TimedStep v op (Viewer.fire D toLower v x)

/-- Every step is an `Untimed` change after one of the `TimedStep`s: the one
    case analysis over the operations that the step lemmas share. -/
theorem stepUI_timedStep (v : UIState G) (op : UIOp) :
    ∃ w, TimedStep D toLower v op w ∧ Untimed w (stepUI D toLower v op) := by
  cases htm : op.timed
  · exact ⟨v, .stay, untimed_stepUI D toLower htm⟩
  cases op <;> simp only [UIOp.timed, reduceCtorEq] at htm <;> simp only [stepUI]
  case performWhatIf => exact ⟨_, .performWhatIf _ _, .refl⟩
  case resetWhatIf => exact ⟨_, .resetWhatIf, .refl⟩
  case animateCriticalPath => exact ⟨_, .animateCriticalPath _ _ rfl, .refl⟩
  case resetCriticalPath => exact ⟨_, .resetCriticalPath, .refl⟩
  case toggleCriticalPath =>
    unfold toggleCriticalPath
    split
    exacts [⟨_, .resetCriticalPath, .refl⟩, ⟨_, .animateCriticalPath _ _ rfl, .refl⟩]
  case clickNode =>
    unfold clickNode
    split
    exacts [⟨_, .resetWhatIf, untimed_selectNode _⟩, ⟨_, .stay, untimed_selectNode _⟩]
  case escape =>
    unfold escape
    split
    · exact ⟨_, .resetWhatIf, .refl⟩
    · split
      exacts [⟨_, .resetCriticalPath, .refl⟩, ⟨_, .stay, untimed_clearSelection⟩]
  case keyW =>
    split
    exacts [⟨_, .performWhatIf _ _, .refl⟩, ⟨_, .stay, .refl⟩]
  case fire x => exact ⟨_, .fire x rfl, .refl⟩

end

/-! ## The invariant of the timer queue -/

section
variable {G : Type} (D : DiGraph G) (toLower : String → String) {v w : UIState G}

/-- What every reachable state's timers satisfy: ids are unique and below the
    counter, and so are the recorded ones; the critical path's pending
    callbacks are exactly its recorded timer, and the what-if's pending
    summary is exactly its recorded timer.  A critical callback is pending
    only while the critical path is active, and an inactive critical path
    marks no node. -/
structure Inv (v : UIState G) : Prop where
  nodup : (v.timers.map Timer.id).Nodup
  fresh : ∀ t ∈ v.timers, t.id < v.nextTimer
  whatIfFresh : ∀ x, v.whatIf.animationTimer = some x → x < v.nextTimer
  criticalFresh : ∀ x, v.criticalPath.animationTimer = some x → x < v.nextTimer
  critical : ∀ t ∈ v.timers, t.callback.isCritical = true ↔ v.criticalPath.animationTimer = some t.id
  summary : ∀ t ∈ v.timers, t.callback = .whatIfSummary ↔ v.whatIf.animationTimer = some t.id
  active : ∀ t ∈ v.timers, t.callback.isCritical = true → v.criticalPath.active = true
  unmarked : v.criticalPath.active = false → v.criticalMarks = []

theorem Inv.initial : Inv (UIState.initial G) := by
  constructor <;> simp [UIState.initial]

theorem Inv.congr (h : Inv v) (h₁ : w.timers = v.timers) (h₂ : w.nextTimer = v.nextTimer)
    (h₃ : w.whatIf.animationTimer = v.whatIf.animationTimer)
    (h₄ : w.criticalPath.animationTimer = v.criticalPath.animationTimer)
    (h₅ : v.criticalPath.active = true → w.criticalPath.active = true)
    (h₆ : w.criticalPath.active = false → w.criticalMarks = []) : Inv w := by
  obtain ⟨a, b, c, d, e, f, g, -⟩ := h
  refine ⟨?_, ?_, ?_, ?_, ?_, ?_, fun t ht hc => h₅ (g t (h₁ ▸ ht) hc), h₆⟩ <;>
    simp only [h₁, h₂, h₃, h₄] <;> assumption

theorem Untimed.inv (e : Untimed v w) (h : Inv v) : Inv w :=
  h.congr e.timers e.nextTimer e.whatIfTimer (by rw [e.criticalPath]) (by rw [e.criticalPath]; exact id)
    fun hi => e.criticalMarks.elim (fun m => m.trans (h.unmarked (by rwa [e.criticalPath] at hi))) id

/-- Taking timers off the queue keeps the invariant. -/
theorem Inv.filter (h : Inv v) (p : Timer → Bool) : Inv { v with timers := v.timers.filter p } where
  nodup := h.nodup.sublist ((List.filter_sublist _).map _)
  fresh t ht := h.fresh t (List.mem_of_mem_filter ht)
  whatIfFresh := h.whatIfFresh
  criticalFresh := h.criticalFresh
  critical t ht := h.critical t (List.mem_of_mem_filter ht)
  summary t ht := h.summary t (List.mem_of_mem_filter ht)
  active t ht := h.active t (List.mem_of_mem_filter ht)
  unmarked := h.unmarked

theorem Inv.resetWhatIf (h : Inv v) : Inv (resetWhatIf v) := by
  have h' := h.filter fun t => v.whatIf.animationTimer != some t.id
  refine ⟨h'.nodup, h'.fresh, by simp [Viewer.resetWhatIf], h'.criticalFresh, h'.critical, fun t ht => ?_,
    h'.active, h'.unmarked⟩
  obtain ⟨ht, hne⟩ := mem_clearTimeout.1 ht
  simpa [Viewer.resetWhatIf] using fun hs => hne ((h.summary t ht).1 hs)

theorem Inv.resetCriticalPath (h : Inv v) : Inv (resetCriticalPath v) := by
  have h' := h.filter fun t => v.criticalPath.animationTimer != some t.id
  have idle : ∀ t ∈ (Viewer.resetCriticalPath v).timers, t.callback.isCritical = false := fun t ht => by
    obtain ⟨ht, hne⟩ := mem_clearTimeout.1 ht
    cases hc : t.callback.isCritical
    · rfl
    · exact absurd ((h.critical t ht).1 hc) hne
  refine ⟨h'.nodup, h'.fresh, h'.whatIfFresh, by simp [Viewer.resetCriticalPath], fun t ht => ?_,
    h'.summary, fun t ht hc => by simp [idle t ht] at hc, fun _ => rfl⟩
  simp [Viewer.resetCriticalPath, idle t ht]

/-- The id a new timer gets is no pending or recorded timer's. -/
theorem Inv.nodup_setTimeout (h : Inv v) (c : Callback) :
    ((setTimeout v c).timers.map Timer.id).Nodup := by
  simp only [setTimeout, List.map_append, List.map_cons, List.map_nil]
  refine List.nodup_append.2 ⟨h.nodup, List.nodup_singleton _, ?_⟩
  simp only [List.disjoint_singleton, List.mem_map, not_exists, not_and]
  exact fun t ht e => (h.fresh t ht).ne e

theorem Inv.fresh_setTimeout (h : Inv v) (c : Callback) :
    ∀ t ∈ (setTimeout v c).timers, t.id < v.nextTimer + 1 := fun t ht => by
  rcases mem_setTimeout.1 ht with ht | rfl
  exacts [Nat.lt_succ_of_lt (h.fresh t ht), Nat.lt_succ_self _]

theorem Inv.whatIfTimer_ne (h : Inv v) : v.whatIf.animationTimer ≠ some v.nextTimer :=
  fun e => Nat.lt_irrefl _ (h.whatIfFresh _ e)

theorem Inv.criticalTimer_ne (h : Inv v) : v.criticalPath.animationTimer ≠ some v.nextTimer :=
  fun e => Nat.lt_irrefl _ (h.criticalFresh _ e)

/-- An unblock step's timer, which nothing records. -/
theorem Inv.push (h : Inv v) {c : Callback} (hc : c.isCritical = false)
    (hs : c ≠ .whatIfSummary) : Inv (setTimeout v c) where
  nodup := h.nodup_setTimeout c
  fresh := h.fresh_setTimeout c
  whatIfFresh x hx := Nat.lt_succ_of_lt (h.whatIfFresh x hx)
  criticalFresh x hx := Nat.lt_succ_of_lt (h.criticalFresh x hx)
  critical t ht := by
    rcases mem_setTimeout.1 ht with ht | rfl
    · exact h.critical t ht
    · simpa [hc] using h.criticalTimer_ne
  summary t ht := by
    rcases mem_setTimeout.1 ht with ht | rfl
    · exact h.summary t ht
    · simpa [hs] using h.whatIfTimer_ne
  active t ht := by
    rcases mem_setTimeout.1 ht with ht | rfl
    exacts [h.active t ht, by simp [hc]]
  unmarked := h.unmarked

/-- The summary's timer, recorded as the what-if's when it records none. -/
theorem Inv.pushSummary (h : Inv v) (hw : v.whatIf.animationTimer = none) (wi : WhatIfState)
    (hwi : wi.animationTimer = some v.nextTimer) :
    Inv { setTimeout v .whatIfSummary with whatIf := wi } where
  nodup := h.nodup_setTimeout _
  fresh := h.fresh_setTimeout _
  whatIfFresh x hx := by simp only [hwi, Option.some.injEq] at hx; simp [setTimeout, ← hx]
  criticalFresh x hx := Nat.lt_succ_of_lt (h.criticalFresh x hx)
  critical t ht := by
    rcases mem_setTimeout.1 ht with ht | rfl
    · exact h.critical t ht
    · simpa [Callback.isCritical] using h.criticalTimer_ne
  summary t ht := by
    rcases mem_setTimeout.1 ht with ht | rfl
    · simp only [hwi, Option.some.injEq]
      rw [h.summary t ht, hw]
      exact ⟨nofun, fun e => absurd e (h.fresh t ht).ne'⟩
    · simp [hwi]
  active t ht := by
    rcases mem_setTimeout.1 ht with ht | rfl
    exacts [h.active t ht, by simp [Callback.isCritical]]
  unmarked := h.unmarked

/-- A critical callback's timer, recorded as the critical path's when no
    critical callback is pending. -/
theorem Inv.pushCritical (h : Inv v) (hq : ∀ t ∈ v.timers, t.callback.isCritical = false)
    {c : Callback} (hc : c.isCritical = true) (cp : CriticalPathState)
    (hcp : cp.animationTimer = some v.nextTimer) (ha : cp.active = true) :
    Inv { setTimeout v c with criticalPath := cp } where
  nodup := h.nodup_setTimeout _
  fresh := h.fresh_setTimeout _
  whatIfFresh x hx := Nat.lt_succ_of_lt (h.whatIfFresh x hx)
  criticalFresh x hx := by simp only [hcp, Option.some.injEq] at hx; simp [setTimeout, ← hx]
  critical t ht := by
    rcases mem_setTimeout.1 ht with ht | rfl
    · simp only [hcp, hq t ht, Option.some.injEq, Bool.false_eq_true, false_iff]
      exact (h.fresh t ht).ne'
    · simp [hc, hcp]
  summary t ht := by
    rcases mem_setTimeout.1 ht with ht | rfl
    · exact h.summary t ht
    · have : c ≠ .whatIfSummary := by rintro rfl; exact absurd hc nofun
      simpa [this] using h.whatIfTimer_ne
  active _ _ _ := ha
  unmarked e := by simp [ha] at e

end

/-! ## What each operation does to the timers -/

section
variable {G : Type} (D : DiGraph G) (toLower : String → String) {v : UIState G}

/-- `performWhatIf` runs the cascade or does nothing. -/
theorem performWhatIf_cases (node : Node) (result : Except String (List Nat)) :
    performWhatIf D toLower v node result = v ∨
      ∃ ids, performWhatIf D toLower v node result = animateWhatIfCascade D toLower v node.id ids := by
  unfold performWhatIf
  split
  · split
    · exact Or.inl rfl
    · split
      · exact Or.inr ⟨_, rfl⟩
      · exact Or.inl rfl
  · exact Or.inl rfl

theorem sublist_animateWhatIfCascade (source : String) (ids : List String) :
    List.Sublist (resetWhatIf v).timers (animateWhatIfCascade D toLower v source ids).timers := by
  unfold animateWhatIfCascade
  refine List.Sublist.trans ?_ (List.sublist_append_left _ _)
  exact sublist_scheduleUnblocks _ _ ids _ (List.Sublist.refl _)

/-- The cascade queues unblock steps and its summary only. -/
theorem mem_animateWhatIfCascade {source : String} {ids : List String} {t : Timer}
    (ht : t ∈ (animateWhatIfCascade D toLower v source ids).timers) :
    t ∈ (resetWhatIf v).timers ∨ t.callback.isCritical = false := by
  rcases mem_setTimeout.1 ht with ht | rfl
  · rcases mem_scheduleUnblocks _ _ ids _ ht with ht | ⟨_, h⟩
    exacts [Or.inl ht, Or.inr (by rw [h]; rfl)]
  · exact Or.inr rfl

theorem animateWhatIfCascade_criticalPath (source : String) (ids : List String) :
    (animateWhatIfCascade D toLower v source ids).criticalPath = v.criticalPath :=
  scheduleUnblocks_frame UIState.criticalPath (fun _ _ => rfl) _ _ ids _

theorem animateWhatIfCascade_criticalMarks (source : String) (ids : List String) :
    (animateWhatIfCascade D toLower v source ids).criticalMarks = v.criticalMarks :=
  scheduleUnblocks_frame UIState.criticalMarks (fun _ _ => rfl) _ _ ids _

theorem sublist_animateStep (path : List String) (graph : Nat) :
    List.Sublist v.timers (animateStep D toLower v path graph).timers := by
  unfold animateStep
  split <;> exact List.sublist_append_left _ _

/-- A timer `animateCriticalPath` takes off the queue is the critical path's. -/
theorem mem_animateCriticalPath {t : Timer} (ht : t ∈ v.timers)
    (hc : v.criticalPath.animationTimer ≠ some t.id) (animate : Bool)
    (result : Except String (List (List Nat))) :
    t ∈ (animateCriticalPath D toLower v animate result).timers := by
  have hr : t ∈ (resetCriticalPath v).timers := mem_clearTimeout.2 ⟨ht, hc⟩
  unfold animateCriticalPath
  split
  · dsimp only
    split
    · split
      · exact hr
      · split
        · exact (sublist_animateStep D toLower _ _).subset hr
        · exact hr
    · exact hr
  · exact ht

/-- Firing one timer takes no other off the queue. -/
theorem mem_fire {t : Timer} (ht : t ∈ v.timers) {x : Nat} (hx : t.id ≠ x) :
    t ∈ (fire D toLower v x).timers := by
  have hf : t ∈ v.timers.filter fun t => t.id != x := List.mem_filter.2 ⟨ht, by simpa using hx⟩
  unfold fire
  split
  · exact ht
  · dsimp only
    split
    · exact hf
    · exact hf
    · exact (sublist_animateStep D toLower _ _).subset hf
    · exact hf

/-- With unique ids, the timer of a pending timer's id is that timer. -/
theorem find?_id {t : Timer} : ∀ {ts : List Timer}, (ts.map Timer.id).Nodup → t ∈ ts →
    ts.find? (fun t' => t'.id == t.id) = some t
  | t' :: ts, hnd, ht => by
    rw [List.map_cons, List.nodup_cons] at hnd
    rcases List.mem_cons.1 ht with rfl | ht
    · simp
    · have hne : t'.id ≠ t.id := fun e => hnd.1 (e ▸ List.mem_map_of_mem _ ht)
      simp [hne, find?_id hnd.2 ht]

end

/-! ## Every reachable state keeps the invariant -/

section
variable {G : Type} (D : DiGraph G) (toLower : String → String) {v : UIState G}

theorem Inv.scheduleUnblocks (h : Inv v) (source : String) (graph : Nat) (ids : List String) :
    Inv (scheduleUnblocks v source graph ids) := by
  induction ids generalizing v with
  | nil => exact h
  | cons id ids ih => exact ih (h.push rfl nofun)

theorem Inv.animateWhatIfCascade (h : Inv v) (source : String) (ids : List String) :
    Inv (animateWhatIfCascade D toLower v source ids) := by
  unfold Viewer.animateWhatIfCascade
  refine Inv.pushSummary (Inv.scheduleUnblocks ?_ _ _ _) ?_ _ rfl
  · exact h.resetWhatIf.congr rfl rfl rfl rfl id h.resetWhatIf.unmarked
  · exact congrArg WhatIfState.animationTimer (scheduleUnblocks_frame UIState.whatIf (fun _ _ => rfl) _ _ ids _)

theorem Inv.performWhatIf (h : Inv v) (node : Node) (result : Except String (List Nat)) :
    Inv (performWhatIf D toLower v node result) := by
  rcases performWhatIf_cases D toLower node result with e | ⟨ids, e⟩ <;> rw [e]
  exacts [h, h.animateWhatIfCascade D toLower _ _]

theorem Inv.animateStep (h : Inv v) (hq : ∀ t ∈ v.timers, t.callback.isCritical = false)
    (ha : v.criticalPath.active = true) (path : List String) (graph : Nat) :
    Inv (animateStep D toLower v path graph) := by
  unfold Viewer.animateStep
  split
  · exact h.pushCritical hq (c := .criticalSummary) rfl _ rfl ha
  · refine Inv.pushCritical ?_ ?_ (c := .criticalStep path graph) rfl _ rfl ha
    exacts [h.congr rfl rfl rfl rfl id fun e => by simp [ha] at e, hq]

/-- After `resetCriticalPath` no critical callback is pending. -/
theorem idle_resetCriticalPath (h : Inv v) :
    ∀ t ∈ (resetCriticalPath v).timers, t.callback.isCritical = false := fun t ht => by
  simpa [resetCriticalPath] using h.resetCriticalPath.critical t ht

theorem Inv.animateCriticalPath (h : Inv v) (animate : Bool) (result : Except String (List (List Nat))) :
    Inv (animateCriticalPath D toLower v animate result) := by
  have h₁ := h.resetCriticalPath
  unfold Viewer.animateCriticalPath
  split
  · dsimp only
    split
    · split
      · exact h₁
      · split
        · refine Inv.animateStep D toLower ?_ ?_ rfl _ _
          exacts [h₁.congr rfl rfl rfl rfl (fun _ => rfl) fun _ => rfl, idle_resetCriticalPath h]
        · exact h₁.congr rfl rfl rfl rfl (fun _ => rfl) fun _ => rfl
    · exact h₁
  · exact h

theorem Inv.fire (h : Inv v) (x : Nat) : Inv (fire D toLower v x) := by
  unfold Viewer.fire
  split
  · exact h
  · rename_i t hfind
    have ht : t ∈ v.timers := List.mem_of_find?_eq_some hfind
    have hx : t.id = x := by simpa using List.find?_some hfind
    have hf := h.filter fun t => t.id != x
    dsimp only
    split
    · exact (untimed_whatIfUnblock D toLower _ _ _).inv hf
    · exact hf.congr rfl rfl rfl rfl id hf.unmarked
    · rename_i hcb
      refine hf.animateStep D toLower (fun t' ht' => ?_) (h.active t ht (by rw [hcb]; rfl)) _ _
      obtain ⟨ht', hne⟩ := List.mem_filter.1 ht'
      cases hc : t'.callback.isCritical
      · rfl
      · have e := ((h.critical t ht).1 (by rw [hcb]; rfl)).symm.trans ((h.critical t' ht').1 hc)
        simp [← hx, Option.some.inj e] at hne
    · exact hf

theorem Inv.stepUI (h : Inv v) (op : UIOp) : Inv (stepUI D toLower v op) := by
  obtain ⟨w, hw, e⟩ := stepUI_timedStep D toLower v op
  refine e.inv ?_
  cases hw with
  | stay => exact h
  | resetWhatIf => exact h.resetWhatIf
  | resetCriticalPath => exact h.resetCriticalPath
  | performWhatIf => exact h.performWhatIf D toLower _ _
  | animateCriticalPath => exact h.animateCriticalPath D toLower _ _
  | fire => exact h.fire D toLower _

theorem runUI_nil : runUI D toLower v [] = v := rfl

theorem runUI_cons (op : UIOp) (ops : List UIOp) :
    runUI D toLower v (op :: ops) = runUI D toLower (stepUI D toLower v op) ops := rfl

theorem runUI_append (ops₁ ops₂ : List UIOp) :
    runUI D toLower v (ops₁ ++ ops₂) = runUI D toLower (runUI D toLower v ops₁) ops₂ :=
  List.foldl_append _ _ _ _

theorem Inv.runUI (h : Inv v) (ops : List UIOp) : Inv (runUI D toLower v ops) := by
  induction ops generalizing v with
  | nil => exact h
  | cons op ops ih => exact ih (h.stepUI D toLower op)

/-- Every reachable state keeps the invariant. -/
theorem run_inv (ops : List UIOp) : Inv (runUI D toLower (UIState.initial G) ops) :=
  Inv.initial.runUI D toLower ops

end

/-! ## `resetCriticalPath` stops the critical path -/

section
variable {G : Type} (D : DiGraph G) (toLower : String → String) {v w : UIState G}

/-- No critical path: inactive, no node marked, no callback pending. -/
structure Quiet (v : UIState G) : Prop where
  inactive : v.criticalPath.active = false
  unmarked : v.criticalMarks = []
  idle : ∀ t ∈ v.timers, t.callback.isCritical = false

theorem Untimed.quiet (e : Untimed v w) (h : Quiet v) : Quiet w where
  inactive := by rw [e.criticalPath]; exact h.inactive
  unmarked := e.criticalMarks.elim (fun e' => e'.trans h.unmarked) id
  idle := by rw [e.timers]; exact h.idle

theorem Quiet.filter (h : Quiet v) (p : Timer → Bool) : Quiet { v with timers := v.timers.filter p } :=
  ⟨h.inactive, h.unmarked, fun t ht => h.idle t (List.mem_of_mem_filter ht)⟩

theorem Quiet.resetWhatIf (h : Quiet v) : Quiet (resetWhatIf v) :=
  ⟨h.inactive, h.unmarked, (h.filter _).idle⟩

theorem Quiet.resetCriticalPath (h : Quiet v) : Quiet (resetCriticalPath v) :=
  ⟨rfl, rfl, (h.filter _).idle⟩

theorem Quiet.performWhatIf (h : Quiet v) (node : Node) (result : Except String (List Nat)) :
    Quiet (performWhatIf D toLower v node result) := by
  rcases performWhatIf_cases D toLower node result with e | ⟨ids, e⟩ <;> rw [e]
  · exact h
  · refine ⟨?_, ?_, fun t ht => ?_⟩
    · rw [animateWhatIfCascade_criticalPath]; exact h.inactive
    · rw [animateWhatIfCascade_criticalMarks]; exact h.unmarked
    · exact (mem_animateWhatIfCascade D toLower ht).elim (h.resetWhatIf.idle t) id

theorem Quiet.fire (h : Quiet v) (x : Nat) : Quiet (fire D toLower v x) := by
  unfold Viewer.fire
  split
  · exact h
  · rename_i t hfind
    have hc := h.idle t (List.mem_of_find?_eq_some hfind)
    have hf := h.filter fun t => t.id != x
    dsimp only
    split
    · exact (untimed_whatIfUnblock D toLower _ _ _).quiet hf
    · exact ⟨hf.inactive, hf.unmarked, hf.idle⟩
    · rename_i hcb; simp [hcb, Callback.isCritical] at hc
    · exact hf

/-- A step that starts no critical path leaves a stopped one stopped. -/
theorem Quiet.stepUI (h : Quiet v) {op : UIOp} (hop : op.startsCriticalPath = false) :
    Quiet (stepUI D toLower v op) := by
  obtain ⟨w, hw, e⟩ := stepUI_timedStep D toLower v op
  refine e.quiet ?_
  cases hw with
  | stay => exact h
  | resetWhatIf => exact h.resetWhatIf
  | resetCriticalPath => exact h.resetCriticalPath
  | performWhatIf => exact h.performWhatIf D toLower _ _
  | animateCriticalPath _ _ hs => simp [hop] at hs
  | fire => exact h.fire D toLower _

theorem Quiet.runUI (h : Quiet v) {ops : List UIOp} (hops : ∀ op ∈ ops, op.startsCriticalPath = false) :
    Quiet (runUI D toLower v ops) := by
  induction ops generalizing v with
  | nil => exact h
  | cons op ops ih =>
    exact ih (h.stepUI D toLower (hops op (List.mem_cons_self _ _))) fun o ho =>
      hops o (List.mem_cons_of_mem _ ho)

/-- From any reachable state, once `resetCriticalPath` has run, and until a
    call starts a new critical path, whatever runs and whichever timers
    fire, the critical path stays inactive, no node is marked critical and
    no step or summary of the old animation is pending. -/
theorem resetCriticalPath_stops (ops₀ ops : List UIOp)
    (hops : ∀ op ∈ ops, op.startsCriticalPath = false) :
    let v : UIState G := runUI D toLower (UIState.initial G) (ops₀ ++ .resetCriticalPath :: ops)
    v.criticalPath.active = false ∧ v.criticalMarks = [] ∧
      ∀ t ∈ v.timers, t.callback.isCritical = false := by
  have h₀ : Quiet (resetCriticalPath (runUI D toLower (UIState.initial G) ops₀)) :=
    ⟨rfl, rfl, idle_resetCriticalPath (run_inv D toLower ops₀)⟩
  have h := h₀.runUI D toLower hops
  simp only [runUI_append, runUI_cons]
  exact ⟨h.inactive, h.unmarked, h.idle⟩

/-- A traversal reset after its first step: the step timer it left behind
    fires into nothing. -/
theorem resetCriticalPath_stops_traversal :
    let ops₀ : List UIOp := [.initWasm true,
      .loadData [{ (default : Issue) with id := "A" }, { (default : Issue) with id := "B" }]
        [⟨"B", "A", .blocks⟩],
      .animateCriticalPath true (.ok [[0, 1]]), .fire 1]
    let ops : List UIOp := [.fire 2, .escape]
    (∀ op ∈ ops, op.startsCriticalPath = false) ∧
      let v : UIState (List String × List (Nat × Nat)) :=
        runUI pairGraph id (UIState.initial _) (ops₀ ++ .resetCriticalPath :: ops)
      v.criticalPath.active = false ∧ v.criticalMarks = [] ∧
        ∀ t ∈ v.timers, t.callback.isCritical = false :=
  ⟨by decide, resetCriticalPath_stops pairGraph id _ _ (by decide)⟩

end

/-! ## The critical path's guard and `Escape` -/

section
variable {G : Type} (D : DiGraph G) (toLower : String → String) {v : UIState G}

/-- In every reachable state, a step or the summary of the critical path is
    pending only while the critical path is active: when such a timer fires,
    `animateStep`'s test of `criticalPathState.active` always passes. -/
theorem critical_pending_active (ops : List UIOp) {t : Timer}
    (ht : t ∈ (runUI D toLower (UIState.initial G) ops).timers) (hc : t.callback.isCritical = true) :
    (runUI D toLower (UIState.initial G) ops).criticalPath.active = true :=
  (run_inv D toLower ops).active t ht hc

/-- A traversal of `A → B` waiting for its second step. -/
theorem critical_pending_active_AB :
    let ops : List UIOp := [.initWasm true,
      .loadData [{ (default : Issue) with id := "A" }, { (default : Issue) with id := "B" }]
        [⟨"B", "A", .blocks⟩],
      .animateCriticalPath true (.ok [[0, 1]])]
    let t : Timer := ⟨1, .criticalStep ["A", "B"] 1⟩
    t ∈ (runUI pairGraph id (UIState.initial _) ops).timers ∧ t.callback.isCritical = true ∧
      (runUI pairGraph id (UIState.initial _) ops).criticalPath.active = true :=
  ⟨by decide, rfl, critical_pending_active pairGraph id _ (t := ⟨1, .criticalStep ["A", "B"] 1⟩) (by decide) rfl⟩

theorem escape_of_inactive (hw : v.whatIf.active = false) (hc : v.criticalPath.active = false) :
    escape v = clearSelection v := by
  simp [escape, hw, hc]

/-- Two presses of `Escape` leave neither a what-if nor a critical path active. -/
theorem escape_escape_inactive (v : UIState G) :
    (escape (escape v)).whatIf.active = false ∧ (escape (escape v)).criticalPath.active = false := by
  by_cases hw : v.whatIf.active <;> by_cases hc : v.criticalPath.active <;>
    simp [escape, hw, hc, resetWhatIf, resetCriticalPath, clearSelection, clearTimeout]

/-- From any reachable state, three presses of `Escape` end with no what-if,
    the critical path stopped (inactive, no node marked, no step or summary
    pending), no selection and nothing highlighted. -/
theorem escape_thrice (ops : List UIOp) :
    let v : UIState G := runUI D toLower (UIState.initial G) (ops ++ [.escape, .escape, .escape])
    v.whatIf.active = false ∧ v.criticalPath.active = false ∧ v.criticalMarks = [] ∧
      (∀ t ∈ v.timers, t.callback.isCritical = false) ∧ v.selectedNode = none ∧
      v.highlightedNodes = [] ∧ v.highlightedLinks = [] := by
  have hu := run_inv D toLower ops
  simp only [runUI_append, runUI_cons, runUI_nil]
  generalize runUI D toLower (UIState.initial G) ops = u at hu ⊢
  obtain ⟨hw, hc⟩ := escape_escape_inactive u
  have h₂ : Inv (escape (escape u)) := (hu.stepUI D toLower .escape).stepUI D toLower .escape
  simp only [stepUI]
  rw [escape_of_inactive hw hc]
  refine ⟨hw, hc, h₂.unmarked hc, fun t ht => ?_, rfl, rfl, rfl⟩
  cases hc' : t.callback.isCritical
  · rfl
  · simpa [hc] using h₂.active t ht hc'

end

/-! ## `resetWhatIf` leaves the cascade running -/

section
variable {G : Type} (D : DiGraph G) (toLower : String → String) {v : UIState G}

/-- A step takes a timer off the queue only when it is the what-if's or the
    critical path's recorded timer, or the timer firing. -/
theorem mem_stepUI {t : Timer} (ht : t ∈ v.timers) (hw : v.whatIf.animationTimer ≠ some t.id)
    (hc : v.criticalPath.animationTimer ≠ some t.id) {op : UIOp} (hop : op ≠ .fire t.id) :
    t ∈ (stepUI D toLower v op).timers := by
  obtain ⟨w, hstep, e⟩ := stepUI_timedStep D toLower v op
  rw [e.timers]
  cases hstep with
  | stay => exact ht
  | resetWhatIf => exact mem_clearTimeout.2 ⟨ht, hw⟩
  | resetCriticalPath => exact mem_clearTimeout.2 ⟨ht, hc⟩
  | performWhatIf node result =>
    rcases performWhatIf_cases D toLower node result with e | ⟨ids, e⟩ <;> rw [e]
    exacts [ht, (sublist_animateWhatIfCascade D toLower _ _).subset (mem_clearTimeout.2 ⟨ht, hw⟩)]
  | animateCriticalPath => exact mem_animateCriticalPath D toLower ht hc _ _
  | fire x hx => exact mem_fire D toLower ht fun e => hop (hx ▸ e ▸ rfl)

/-- A pending unblock step stays pending, from any reachable state, until it
    fires. -/
theorem mem_runUI_unblock {t : Timer} {source id : String} {graph : Nat}
    (hcb : t.callback = .whatIfUnblock source id graph) :
    ∀ (ops : List UIOp) {v : UIState G}, Inv v → t ∈ v.timers → (∀ op ∈ ops, op ≠ .fire t.id) →
      t ∈ (runUI D toLower v ops).timers
  | [], _, _, ht, _ => ht
  | op :: ops, v, h, ht, hops => by
    have hw : v.whatIf.animationTimer ≠ some t.id := fun e => by
      simpa [hcb] using (h.summary t ht).2 e
    have hc : v.criticalPath.animationTimer ≠ some t.id := fun e => by
      simpa [hcb, Callback.isCritical] using (h.critical t ht).2 e
    exact mem_runUI_unblock hcb ops (h.stepUI D toLower op)
      (mem_stepUI D toLower ht hw hc (hops op (List.mem_cons_self _ _)))
      fun o ho => hops o (List.mem_cons_of_mem _ ho)

/-- Firing a pending unblock step runs it. -/
theorem fire_unblock (h : Inv v) {t : Timer} (ht : t ∈ v.timers) {source id : String} {graph : Nat}
    (hcb : t.callback = .whatIfUnblock source id graph) :
    fire D toLower v t.id =
      whatIfUnblock D toLower { v with timers := v.timers.filter fun t' => t'.id != t.id } source id graph := by
  simp only [fire, find?_id h.nodup ht, hcb]

/-- `resetWhatIf` cancels the what-if's summary but none of its unblock
    steps: from any reachable state, a pending unblock step survives every
    later operation but its own firing (resets, `Escape`, clicks, loads, new
    what-ifs), and when it fires it highlights its node and adds it to
    `unblockedNodes`, the what-if active or not. -/
theorem whatIf_unblock_outlives_reset (ops₀ ops : List UIOp) {t : Timer} {source id : String}
    {graph : Nat} (ht : t ∈ (runUI D toLower (UIState.initial G) ops₀).timers)
    (hcb : t.callback = .whatIfUnblock source id graph) (hops : ∀ op ∈ ops, op ≠ .fire t.id) :
    let v : UIState G := runUI D toLower (UIState.initial G) (ops₀ ++ ops)
    t ∈ v.timers ∧ id ∈ (fire D toLower v t.id).highlightedNodes ∧
      id ∈ (fire D toLower v t.id).whatIf.unblockedNodes ∧
      (fire D toLower v t.id).whatIf.active = v.whatIf.active := by
  simp only [runUI_append]
  have hmem := mem_runUI_unblock D toLower hcb ops (run_inv D toLower ops₀) ht hops
  rw [fire_unblock D toLower ((run_inv D toLower ops₀).runUI D toLower ops) hmem hcb]
  exact ⟨hmem, mem_addTo.2 (Or.inr rfl), mem_addTo.2 (Or.inr rfl), rfl⟩

/-- Closing `A` unblocks `B`; the what-if is reset before `B`'s step fires,
    which still highlights `B`. -/
theorem whatIf_unblock_outlives_reset_AB :
    let ops₀ : List UIOp := [.initWasm true,
      .loadData [{ (default : Issue) with id := "A" }, { (default : Issue) with id := "B" }]
        [⟨"B", "A", .blocks⟩],
      .performWhatIf ⟨"A", "", "", "open", 0, "task", [], "", 0, 0, none⟩ (.ok [1])]
    let t : Timer := ⟨1, .whatIfUnblock "A" "B" 1⟩
    let v : UIState (List String × List (Nat × Nat)) :=
      runUI pairGraph id (UIState.initial _) (ops₀ ++ [.resetWhatIf])
    t ∈ (runUI pairGraph id (UIState.initial _) ops₀).timers ∧ v.whatIf.active = false ∧
      t ∈ v.timers ∧ "B" ∈ (fire pairGraph id v t.id).highlightedNodes ∧
      "B" ∈ (fire pairGraph id v t.id).whatIf.unblockedNodes ∧
      (fire pairGraph id v t.id).whatIf.active = v.whatIf.active :=
  ⟨by decide, by decide,
    whatIf_unblock_outlives_reset pairGraph id _ [.resetWhatIf] (by decide) rfl (by simp)⟩

end

/-! ## The links an unblock step highlights -/

section
variable {G : Type} (D : DiGraph G) (toLower : String → String)

theorem mem_unblockLink {issues : List Issue} {source id k : String} {ls : List String}
    {dep : Dependency} :
    k ∈ unblockLink issues source id ls dep ↔ k ∈ ls ∨ dep.dependsOnID = id ∧
      (dep.issueID = source ∨ ∃ b, nodeMapGet issues dep.issueID = some b ∧ b.status.val = "closed") ∧
      k = linkKey dep.issueID id := by
  unfold unblockLink
  by_cases hd : dep.dependsOnID = id
  · subst hd
    by_cases hs : dep.issueID = source
    · subst hs
      cases nodeMapGet issues dep.issueID <;> simp [mem_addTo]
    · cases nodeMapGet issues dep.issueID with
      | none => simp [hs]
      | some b => by_cases hc : b.status.val = "closed" <;> simp [hs, hc, mem_addTo]
  · cases nodeMapGet issues dep.issueID <;> simp [hd]

/-- The dependency loop of an unblock step, from any highlighted links. -/
theorem mem_foldl_unblockLink {issues : List Issue} {source id k : String} :
    ∀ (deps : List Dependency) (ls : List String),
      k ∈ deps.foldl (unblockLink issues source id) ls ↔ k ∈ ls ∨ ∃ d ∈ deps, d.dependsOnID = id ∧
        (d.issueID = source ∨ ∃ b, nodeMapGet issues d.issueID = some b ∧ b.status.val = "closed") ∧
        k = linkKey d.issueID id
  | [], ls => by simp
  | d :: ds, ls => by
    rw [List.foldl_cons, mem_foldl_unblockLink ds, mem_unblockLink]
    simp only [List.mem_cons, exists_eq_or_imp, or_assoc]

/-- An unblock step for `id` highlights exactly the links `x-id` of the
    dependencies of some issue `x` on `id` whose `x` is the what-if's source
    or an issue the store has as closed. -/
theorem whatIfUnblock_links (v : UIState G) (source id : String) (graph : Nat) (k : String) :
    k ∈ (whatIfUnblock D toLower v source id graph).highlightedLinks ↔ k ∈ v.highlightedLinks ∨
      ∃ d ∈ v.store.dependencies, d.dependsOnID = id ∧
        (d.issueID = source ∨ ∃ b, nodeMapGet v.store.issues d.issueID = some b ∧ b.status.val = "closed") ∧
        k = linkKey d.issueID id :=
  mem_foldl_unblockLink _ _

/-- **The links out of the unblocked node stay as they were.**  When link
    keys tell the store's links apart, an unblock step for `id` leaves the
    highlight of every link from `id` to another issue (a dependency of `id`,
    the one on the closed source included) as it was: the step only lights
    links into `id`, never the link whose blocker the what-if closes. -/
theorem whatIfUnblock_blocker_links (v : UIState G) (source id : String) (graph : Nat)
    (hkey : ∀ d ∈ v.store.dependencies, ∀ d' ∈ v.store.dependencies,
      linkKey d.issueID d.dependsOnID = linkKey d'.issueID d'.dependsOnID →
        d.issueID = d'.issueID ∧ d.dependsOnID = d'.dependsOnID)
    {d : Dependency} (hd : d ∈ v.store.dependencies) (hid : d.issueID = id) (hne : d.dependsOnID ≠ id) :
    linkKey id d.dependsOnID ∈ (whatIfUnblock D toLower v source id graph).highlightedLinks ↔
      linkKey id d.dependsOnID ∈ v.highlightedLinks := by
  rw [whatIfUnblock_links, or_iff_left_iff_imp]
  rintro ⟨d', hd', hto, -, hk⟩
  have e : linkKey d.issueID d.dependsOnID = linkKey d'.issueID d'.dependsOnID := by
    rw [hid, hto]; exact hk
  exact absurd ((hkey d hd d' hd' e).2.trans hto) hne

/-- `B` depends on `A`, and closing `A` unblocks `B`: the link `B-A` stays
    dark. -/
theorem whatIfUnblock_blocker_links_BA :
    let v : UIState (List String × List (Nat × Nat)) :=
      { UIState.initial (List String × List (Nat × Nat)) with
        store := { (UIState.initial (List String × List (Nat × Nat))).store with
          dependencies := [⟨"B", "A", .blocks⟩] } }
    (∀ d ∈ v.store.dependencies, ∀ d' ∈ v.store.dependencies,
      linkKey d.issueID d.dependsOnID = linkKey d'.issueID d'.dependsOnID →
        d.issueID = d'.issueID ∧ d.dependsOnID = d'.dependsOnID) ∧
      (⟨"B", "A", .blocks⟩ : Dependency) ∈ v.store.dependencies ∧ "A" ≠ "B" ∧
      (linkKey "B" "A" ∈ (whatIfUnblock pairGraph id v "A" "B" 0).highlightedLinks ↔
        linkKey "B" "A" ∈ v.highlightedLinks) :=
  ⟨by decide, by decide, by decide,
    whatIfUnblock_blocker_links pairGraph id _ "A" "B" 0 (by decide) (d := ⟨"B", "A", .blocks⟩)
      (by decide) rfl (by decide)⟩

/-- `B` depends on `A`: closing `A` unblocks `B`, and the step highlights no
    link, not even `B-A`. -/
example :
    (fire pairGraph id (runUI pairGraph id (UIState.initial _) [.initWasm true,
      .loadData [{ (default : Issue) with id := "A" }, { (default : Issue) with id := "B" }]
        [⟨"B", "A", .blocks⟩],
      .performWhatIf ⟨"A", "", "", "open", 0, "task", [], "", 0, 0, none⟩ (.ok [1])]) 1).highlightedLinks =
      [] := by decide

end

end BeadsViewer.Viewer
