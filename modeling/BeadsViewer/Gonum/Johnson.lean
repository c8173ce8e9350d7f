import BeadsViewer.Gonum.Tarjan
import Mathlib.Data.List.Chain
/-
  beads_viewer formalization — gonum's `topo.DirectedCyclesIn`
  (`graph/topo/johnson_cycles.go`, Johnson's algorithm), which `Analyze`
  calls for `Cycles`.

  * `JohnsonGraph` is gonum's `johnsonGraph`: a node set and successor sets.
    At each start `s` it is cut down by `subgraph` (the nodes from `orig[s]`
    on) and by `sccSubGraph` (the edges inside the components of at least two
    nodes that `TarjanSCC` finds).
  * `circuit` and `unblock` are the sub-procedures of the same names, on a
    `Johnson` state kept by node id where gonum keeps it by index into the
    sorted `orig` (a bijection).
  * Go ranges over a set in an order the runtime picks anew each time: a
    `CycleOrder` gives the view `TarjanSCC` gets of each subgraph and the
    order of each range, both keyed by the number `tick` of ranges so far.
  * The recursion of `circuit` and `unblock` is given a depth bound, the
    number of nodes; `Gonum.Circuit` proves that it is never reached.

  `directedCyclesIn_closed`: every cycle returned is closed, its first node
  repeated at its end, and is a walk of the graph of at least three entries.
-/

namespace BeadsViewer.Gonum

/-- `johnsonGraph`: a node set and successor sets. -/
structure JohnsonGraph where
  nodes : List Nat
  succ : Nat → List Nat

/-- `johnsonGraphFrom`: the nodes with an edge, and `From(u)` as sets. -/
def johnsonGraphFrom (g : DirectedGraph) : JohnsonGraph :=
  ⟨g.nodes.filter fun u => g.succs u ≠ [] ∨ g.preds u ≠ [], g.succs⟩

namespace JohnsonGraph

/-- `subgraph(s)`, for `sn = orig[s]`: the subgraph induced by the nodes from
    `sn` on.  gonum leaves the nodes below `sn` that have no successor set in
    the node set, with no edge; `sccSubGraph` drops them as components of one
    node, and the model drops them here. -/
def subgraph (j : JohnsonGraph) (sn : Nat) : JohnsonGraph :=
  ⟨j.nodes.filter (sn ≤ ·), fun u => if sn ≤ u then (j.succ u).filter (sn ≤ ·) else []⟩

/-- `sccSubGraph(sccs, 2)`: the edges inside the components of at least two
    nodes, and their ends.  With no such component the graph is empty. -/
def sccSubGraph (j : JohnsonGraph) (sccs : List (List Nat)) : JohnsonGraph :=
  let big := sccs.filter (2 ≤ ·.length)
  let succ := fun u => (j.succ u).filter fun v => ∃ c ∈ big, u ∈ c ∧ v ∈ c
  ⟨big.flatten.filter fun u => succ u ≠ [] ∨ ∃ x ∈ big.flatten, u ∈ succ x, succ⟩

end JohnsonGraph

/-- `leastVertexIndex`: the index in `orig` of the least node of `j`. -/
def leastVertexIndex (orig : List Nat) (j : JohnsonGraph) : Nat :=
  orig.findIdx (· ∈ j.nodes)

/-- The state of gonum's `johnson`: the blocked nodes, the B-lists, the stack
    (its bottom first), the cycles found, and the number of ranges so far. -/
structure Johnson where
  blocked : Nat → Bool
  b : Nat → List Nat
  stack : List Nat
  result : List (List Nat)
  tick : Nat

/-- The state `DirectedCyclesIn` starts from. -/
def Johnson.init : Johnson := ⟨fun _ => false, fun _ => [], [], [], 0⟩

/-- The orders one run of `DirectedCyclesIn` sees: the view `TarjanSCC` gets
    of a subgraph, and the order of a range over a set, at tick `k`. -/
structure CycleOrder where
  view : Nat → JohnsonGraph → View
  choose : Nat → List Nat → List Nat

/-- `o` only reorders: every view lists the subgraph's nodes and successors,
    and every range the set it ranges over. -/
def CycleOrder.Of (o : CycleOrder) : Prop :=
  (∀ k j, List.Perm (o.view k j).nodes j.nodes ∧ ∀ u, List.Perm ((o.view k j).succ u) (j.succ u)) ∧
    ∀ k l, List.Perm (o.choose k l) l

/-- The orders Go would see if every range followed the sets' lists. -/
def CycleOrder.listed : CycleOrder := ⟨fun _ j => ⟨j.nodes, j.succ⟩, fun _ l => l⟩

theorem CycleOrder.listed_of : CycleOrder.listed.Of :=
  ⟨fun _ _ => ⟨List.Perm.refl _, fun _ => List.Perm.refl _⟩, fun _ _ => List.Perm.refl _⟩

section
variable (o : CycleOrder)

/-- One turn of `unblock(u)`'s loop over its B-list, for `w`; `rec` is the
    recursive `unblock`. -/
def unblockStep (rec : Nat → Johnson → Johnson) (u : Nat) (j : Johnson) (w : Nat) : Johnson :=
  let j := { j with b := Function.update j.b u ((j.b u).erase w) }
  if j.blocked w then rec w j else j

/-- `unblock(u)`, to depth `fuel`: `u` is unblocked, and each `w` of its
    B-list is removed from it and unblocked in turn if blocked. -/
def unblock : Nat → Nat → Johnson → Johnson
  | 0, _, j => j
  | fuel + 1, u, j =>
    (o.choose j.tick (j.b u)).foldl (unblockStep (unblock fuel) u)
      { j with blocked := Function.update j.blocked u false, tick := j.tick + 1 }

/-- `b[w].Add(v)`. -/
def Johnson.addB (j : Johnson) (v w : Nat) : Johnson :=
  { j with b := Function.update j.b w (if v ∈ j.b w then j.b w else j.b w ++ [v]) }

/-- One turn of `circuit(v)`'s loop over the successors, for `w`: a cycle
    when `w` is the start `s`, else a visit of `w` if it is not blocked; `rec`
    is the recursive `circuit`.  The `Bool` is gonum's `f`. -/
def circuitStep (rec : Nat → Johnson → Bool × Johnson) (s : Nat) (r : Bool × Johnson) (w : Nat) :
    Bool × Johnson :=
  if w = s then (true, { r.2 with result := r.2.result ++ [r.2.stack ++ [s]] })
  else if !r.2.blocked w then
    let c := rec w r.2
    (r.1 || c.1, c.2)
  else r

/-- `circuit(v)` from the start `s` in the subgraph `adj`, to depth `fuel`;
    `n` bounds the depth of `unblock`.  It returns gonum's `f`: whether a
    cycle through the stack was found. -/
def circuit (adj : JohnsonGraph) (s n : Nat) : Nat → Nat → Johnson → Bool × Johnson
  | 0, _, j => (false, j)
  | fuel + 1, v, j =>
    let r := (o.choose j.tick (adj.succ v)).foldl (circuitStep (circuit adj s n fuel) s)
      (false, { j with stack := j.stack ++ [v], blocked := Function.update j.blocked v true,
                       tick := j.tick + 1 })
    let j := if r.1 then unblock o n v r.2 else (adj.succ v).foldl (fun j w => j.addB v w) r.2
    (r.1, { j with stack := j.stack.dropLast })

/-- The B-lists and blocks cleared for the nodes of `adj` with successors. -/
def Johnson.reset (j : Johnson) (adj : JohnsonGraph) : Johnson :=
  { j with
    blocked := fun x => if x ∈ adj.nodes ∧ adj.succ x ≠ [] then false else j.blocked x
    b := fun x => if x ∈ adj.nodes ∧ adj.succ x ≠ [] then [] else j.b x }

/-- The loop of `DirectedCyclesIn` from the start index `s`, for `fuel`
    turns, with `depth` bounding the recursion of `circuit` and `unblock`. -/
def cyclesLoop (orig : List Nat) (depth : Nat) : Nat → Nat → JohnsonGraph → Johnson → Johnson
  | 0, _, _, j => j
  | fuel + 1, s, adj, j =>
    if s < orig.length - 1 then
      let sub := adj.subgraph (orig.getD s 0)
      let adj := sub.sccSubGraph ((tarjanSCC (o.view j.tick sub)).getD [])
      let j := { j with tick := j.tick + 1 }
      if adj.nodes = [] then j
      else
        -- `if s := leastVertexIndex(); s < j.s { j.s = s }`
        let s := min s (leastVertexIndex orig adj)
        let j := (circuit o adj (orig.getD s 0) depth depth (orig.getD s 0) (j.reset adj)).2
        cyclesLoop orig depth fuel (s + 1) adj j
    else j

/-- `DirectedCyclesIn`: the cycles found, each as a walk from its least node
    back to it; the recursion is bounded by the number of nodes. -/
def directedCyclesIn (g : DirectedGraph) : List (List Nat) :=
  (cyclesLoop o (byID g.nodes) (byID g.nodes).length (byID g.nodes).length 0 (johnsonGraphFrom g)
    Johnson.init).result

end

/-! ## Every cycle found is a closed walk -/

/-- Every successor set of `j` lists successors in `g`. -/
def EdgesOf (g : DirectedGraph) (j : JohnsonGraph) : Prop := ∀ u v, v ∈ j.succ u → g.Adj u v

/-- `p` is a walk of `g` from `s`. -/
def WalkFrom (g : DirectedGraph) (s : Nat) (p : List Nat) : Prop :=
  p.head? = some s ∧ p.Chain' g.Adj

/-- A cycle as gonum returns it: a walk of `g` of at least three entries
    whose last entry is its first. -/
def ClosedWalk (g : DirectedGraph) (c : List Nat) : Prop :=
  2 < c.length ∧ c.head? = c.getLast? ∧ c.Chain' g.Adj

/-- Every cycle found so far is a `ClosedWalk`. -/
def Johnson.Sound (g : DirectedGraph) (j : Johnson) : Prop := ∀ c ∈ j.result, ClosedWalk g c

section
variable {g : DirectedGraph}

theorem edgesOf_johnsonGraphFrom (g : DirectedGraph) : EdgesOf g (johnsonGraphFrom g) :=
  fun _ _ h => DirectedGraph.mem_succs.1 h

theorem EdgesOf.subgraph {j : JohnsonGraph} (h : EdgesOf g j) (sn : Nat) :
    EdgesOf g (j.subgraph sn) := fun u v hv => by
  simp only [JohnsonGraph.subgraph] at hv
  split at hv
  · exact h u v (List.mem_filter.1 hv).1
  · simp at hv

theorem EdgesOf.sccSubGraph {j : JohnsonGraph} (h : EdgesOf g j) (sccs : List (List Nat)) :
    EdgesOf g (j.sccSubGraph sccs) := fun u v hv => h u v (List.mem_filter.1 hv).1

theorem WalkFrom.snoc {s v w : Nat} {p : List Nat} (h : WalkFrom g s (p ++ [v]))
    (hvw : g.Adj v w) : WalkFrom g s (p ++ [v] ++ [w]) :=
  ⟨by simpa [List.head?_append] using h.1, h.2.append (List.chain'_singleton w) (by simp [hvw])⟩

/-- A walk from `s` back to `s` is a `ClosedWalk`: `g` has no self edge, so it
    passes through another node. -/
theorem WalkFrom.closedWalk {s v : Nat} {p : List Nat} (h : WalkFrom g s (p ++ [v]))
    (hvs : g.Adj v s) : ClosedWalk g (p ++ [v] ++ [s]) := by
  have hp : p ≠ [] := by
    rintro rfl
    exact g.loopless _ (by simpa using (Option.some.inj h.1) ▸ hvs) rfl
  refine ⟨?_, ?_, (h.snoc hvs).2⟩
  · have := List.length_pos.2 hp; simp; omega
  · simpa [List.head?_append, List.getLast?_append] using h.1

theorem unblock_stack_result (o : CycleOrder) : ∀ fuel u j,
    (unblock o fuel u j).stack = j.stack ∧ (unblock o fuel u j).result = j.result
  | 0, _, _ => ⟨rfl, rfl⟩
  | fuel + 1, u, j => by
    simp only [unblock]
    refine List.foldlRecOn (motive := fun j' : Johnson => j'.stack = j.stack ∧ j'.result = j.result)
      _ _ _ ⟨rfl, rfl⟩ fun j' hj' w _ => ?_
    simp only [unblockStep]
    split
    · have := unblock_stack_result o fuel w
        { j' with b := Function.update j'.b u ((j'.b u).erase w) }
      exact ⟨this.1.trans hj'.1, this.2.trans hj'.2⟩
    · exact hj'

theorem foldl_addB_stack_result (v : Nat) (ws : List Nat) (j : Johnson) :
    (ws.foldl (fun j w => j.addB v w) j).stack = j.stack ∧
      (ws.foldl (fun j w => j.addB v w) j).result = j.result :=
  List.foldlRecOn (motive := fun j' : Johnson => j'.stack = j.stack ∧ j'.result = j.result)
    _ _ _ ⟨rfl, rfl⟩ fun _ hj' _ _ => hj'

variable {o : CycleOrder} (ho : ∀ k l, List.Perm (o.choose k l) l)
include ho

/-- `circuit(v)`, called with a stack that is a walk from the start `s` to
    `v`, leaves the stack as it found it and only finds closed walks. -/
theorem circuit_sound {adj : JohnsonGraph} (hadj : EdgesOf g adj) (s n : Nat) :
    ∀ fuel v j, WalkFrom g s (j.stack ++ [v]) → j.Sound g →
      (circuit o adj s n fuel v j).2.stack = j.stack ∧ (circuit o adj s n fuel v j).2.Sound g
  | 0, _, _, _, hj => ⟨rfl, hj⟩
  | fuel + 1, v, j, hw, hj => by
    have hloop := List.foldlRecOn
      (motive := fun r : Bool × Johnson => r.2.stack = j.stack ++ [v] ∧ r.2.Sound g)
      (o.choose j.tick (adj.succ v)) (circuitStep (circuit o adj s n fuel) s)
      (false, { j with stack := j.stack ++ [v], blocked := Function.update j.blocked v true,
                       tick := j.tick + 1 }) ⟨rfl, hj⟩
      fun r hr w hw' => by
        have hvw : g.Adj v w := hadj v w ((ho _ _).subset hw')
        simp only [circuitStep]
        split
        · next hws =>
          subst hws
          refine ⟨hr.1, fun c hc => ?_⟩
          rcases List.mem_append.1 hc with hc | hc
          · exact hr.2 c hc
          · rw [List.mem_singleton.1 hc, hr.1]; exact hw.closedWalk hvw
        split
        · have hw'' : WalkFrom g s (r.2.stack ++ [w]) := hr.1 ▸ hw.snoc hvw
          have := circuit_sound hadj s n fuel w r.2 hw'' hr.2
          exact ⟨this.1.trans hr.1, this.2⟩
        · exact hr
    simp only [circuit]
    set r := List.foldl (circuitStep (circuit o adj s n fuel) s) _ (o.choose j.tick (adj.succ v))
    have hkeep : ∀ j' : Johnson, j'.stack = r.2.stack → j'.result = r.2.result →
        ({ j' with stack := j'.stack.dropLast } : Johnson).stack = j.stack ∧
          ({ j' with stack := j'.stack.dropLast } : Johnson).Sound g := fun j' h1 h2 =>
      ⟨by simp [h1, hloop.1], fun c hc => hloop.2 c (h2 ▸ hc)⟩
    split
    · exact hkeep _ (unblock_stack_result o n v r.2).1 (unblock_stack_result o n v r.2).2
    · exact hkeep _ (foldl_addB_stack_result v _ r.2).1 (foldl_addB_stack_result v _ r.2).2

theorem cyclesLoop_sound (orig : List Nat) (depth : Nat) :
    ∀ fuel s adj j, EdgesOf g adj → j.stack = [] → j.Sound g →
      (cyclesLoop o orig depth fuel s adj j).stack = [] ∧ (cyclesLoop o orig depth fuel s adj j).Sound g
  | 0, _, _, _, _, hst, hj => ⟨hst, hj⟩
  | fuel + 1, s, adj, j, hadj, hst, hj => by
    simp only [cyclesLoop]
    split
    · split
      · exact ⟨hst, hj⟩
      · set adj' := (adj.subgraph (orig.getD s 0)).sccSubGraph
          ((tarjanSCC (o.view j.tick (adj.subgraph (orig.getD s 0)))).getD [])
        have hadj' : EdgesOf g adj' := (hadj.subgraph _).sccSubGraph _
        have hc := fun v => circuit_sound ho hadj' v depth depth v
          ({ j with tick := j.tick + 1 }.reset adj') (by simp [Johnson.reset, hst, WalkFrom]) hj
        exact cyclesLoop_sound orig depth fuel _ _ _ hadj' ((hc _).1.trans hst) (hc _).2
    · exact ⟨hst, hj⟩

/-- **Cycles.**  Every cycle `DirectedCyclesIn` returns, on every order of
    the sets it ranges over, is a walk of `g` of at least three entries whose
    last entry is its first. -/
theorem directedCyclesIn_closed {c : List Nat} (hc : c ∈ directedCyclesIn o g) :
    ClosedWalk g c :=
  (cyclesLoop_sound ho _ _ _ _ _ _ (edgesOf_johnsonGraphFrom g) rfl (by simp [Johnson.Sound,
    Johnson.init])).2 c hc

end

end BeadsViewer.Gonum
