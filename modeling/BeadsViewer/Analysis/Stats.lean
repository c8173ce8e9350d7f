import BeadsViewer.Analysis.Analyzer
import BeadsViewer.Gonum.Circuit
/-
  beads_viewer formalization — what `Analyze` computes, on every run.

  * `OutDegree` and `InDegree` count, for pairwise-distinct ids, the distinct
    ids an issue depends on and that depend on it, whatever the dependency
    types (`analyze_degrees`).
  * `TopologicalOrder` is empty on a graph with a cycle; otherwise, for
    pairwise-distinct ids, it lists every id once, each dependency target
    before the issues that depend on it: `Sort` puts `u` before `v` for an
    edge `u → v`, and `Analyze` reverses that.
  * `CriticalPathScore` has no entry on a graph with a cycle; otherwise it
    maps each id to the number of nodes of a longest walk of the graph ending
    at the id's node, whatever topological order `computeHeights` is handed
    (`heights_of_topoOrder`).
  * Every entry of `Cycles` is a closed walk of dependencies, its first id
    repeated at its end.  `Analyze` does not cap their number:
    `analyze_cycles_uncapped` lists 116 cycles for six issues.
-/

namespace BeadsViewer.Analysis

open Gonum

variable {issues : List Issue} {a : Analyzer}

/-- The issue of id `x` has a dependency, of any type, on the id `y`. -/
def DependsOn (issues : List Issue) (x y : String) : Prop :=
  ∃ i ∈ issues, i.id = x ∧ ∃ d ∈ i.dependencies, d.dependsOnID = y

theorem builds_of_ok (ha : newAnalyzer issues = .ok a) : Builds issues a := by
  by_cases h : NoSelfDep issues
  · obtain ⟨a', ha', hb⟩ := newAnalyzer_ok h
    rw [ha] at ha'; cases ha'; exact hb
  · rw [newAnalyzer_selfDep h] at ha; cases ha

theorem noSelfDep_of_ok (ha : newAnalyzer issues = .ok a) : NoSelfDep issues := by
  by_contra h; rw [newAnalyzer_selfDep h] at ha; cases ha

/-- An edge is a dependency between the ids of its ends. -/
theorem Builds.dependsOn_of_adj (hb : Builds issues a) {u v : Nat} (h : a.g.Adj u v) :
    DependsOn issues (a.idOf u) (a.idOf v) := by
  obtain ⟨i, hi, hiu, d, hd, hdv⟩ := (hb.adj u v).1 h
  obtain ⟨hu, hu'⟩ := hb.idToNode_some _ _ hiu
  obtain ⟨hv, hv'⟩ := hb.idToNode_some _ _ hdv
  exact ⟨i, hi, by simp [Analyzer.idOf, hb.nodeToID, hu, hu'], d, hd,
    by simp [Analyzer.idOf, hb.nodeToID, hv, hv']⟩

/-! ## Distinct ids -/

section
variable (hb : Builds issues a) (hnd : (ids issues).Nodup)
include hb hnd

omit hb in
/-- With distinct ids, an issue's position is determined by its id. -/
theorem getElem_id_inj {m n : Nat} (hm : m < issues.length) (hn : n < issues.length)
    (h : issues[m].id = issues[n].id) : m = n := by
  have hm' : m < (ids issues).length := by simpa [ids] using hm
  have hn' : n < (ids issues).length := by simpa [ids] using hn
  have : (ids issues)[m] = (ids issues)[n] := by simpa [ids] using h
  exact hnd.getElem_inj_iff.1 this

theorem Builds.idToNode_getElem (k : Nat) (hk : k < issues.length) :
    a.idToNode.get? issues[k].id = some k := by
  obtain ⟨k', hk'⟩ := Option.isSome_iff_exists.1
    (hb.idToNode_mem _ (List.mem_map_of_mem _ (List.getElem_mem hk)))
  obtain ⟨hk'', hid⟩ := hb.idToNode_some _ _ hk'
  rwa [getElem_id_inj hnd hk'' hk hid] at hk'

omit hnd in
theorem Builds.idOf_getElem (k : Nat) (hk : k < issues.length) : a.idOf k = issues[k].id := by
  simp [Analyzer.idOf, hb.nodeToID, List.getElem?_eq_getElem hk]

theorem Builds.adj_of_dependsOn {u v : Nat} (hu : u < issues.length) (hv : v < issues.length)
    (h : DependsOn issues issues[u].id issues[v].id) : a.g.Adj u v := by
  obtain ⟨i, hi, hix, d, hd, hdy⟩ := h
  exact (hb.adj u v).2 ⟨i, hi, hix ▸ hb.idToNode_getElem hnd u hu, d, hd,
    hdy ▸ hb.idToNode_getElem hnd v hv⟩

theorem Builds.idOf_inj {m n : Nat} (hm : m ∈ a.g.nodes) (hn : n ∈ a.g.nodes)
    (h : a.idOf m = a.idOf n) : m = n := by
  rw [hb.nodes, List.mem_range] at hm hn
  rw [hb.idOf_getElem m hm, hb.idOf_getElem n hn] at h
  exact getElem_id_inj hnd hm hn h

/-- The ids of distinct nodes are distinct. -/
theorem Builds.nodup_map_idOf {l : List Nat} (hl : l.Nodup) (hmem : ∀ n ∈ l, n ∈ a.g.nodes) :
    (l.map a.idOf).Nodup :=
  hl.map_on fun _ hm _ hn => hb.idOf_inj hnd (hmem _ hm) (hmem _ hn)

omit hnd in
theorem Builds.map_idOf_range : (List.range issues.length).map a.idOf = ids issues :=
  List.ext_getElem (by simp [ids]) fun k h₁ _ => by
    simp only [List.getElem_map, List.getElem_range]
    simpa [ids] using hb.idOf_getElem k (by simpa using h₁)

omit hnd in
theorem Builds.idOf_mem_ids {v : Nat} (hv : v ∈ a.g.nodes) : a.idOf v ∈ ids issues :=
  hb.map_idOf_range ▸ List.mem_map_of_mem _ (hb.nodes ▸ hv)

omit hb hnd in
theorem exists_getElem_of_mem_ids {y : String} (hy : y ∈ ids issues) :
    ∃ v, ∃ hv : v < issues.length, issues[v].id = y := by
  simpa [ids, List.mem_iff_getElem] using hy

/-- The ids an issue depends on are the ids of its node's successors. -/
theorem Builds.mem_map_succs {k : Nat} (hk : k < issues.length) (y : String) :
    y ∈ (a.g.succs k).map a.idOf ↔ y ∈ ids issues ∧ DependsOn issues issues[k].id y := by
  constructor
  · intro h
    obtain ⟨v, hv, rfl⟩ := List.mem_map.1 h
    have hadj := DirectedGraph.mem_succs.1 hv
    exact ⟨hb.idOf_mem_ids (a.g.edges_mem _ hadj).2,
      hb.idOf_getElem k hk ▸ hb.dependsOn_of_adj hadj⟩
  · rintro ⟨hy, hdep⟩
    obtain ⟨v, hv, rfl⟩ := exists_getElem_of_mem_ids hy
    exact List.mem_map.2 ⟨v, DirectedGraph.mem_succs.2 (hb.adj_of_dependsOn hnd hk hv hdep),
      hb.idOf_getElem v hv⟩

/-- The ids that depend on an issue are the ids of its node's predecessors. -/
theorem Builds.mem_map_preds {k : Nat} (hk : k < issues.length) (x : String) :
    x ∈ (a.g.preds k).map a.idOf ↔ x ∈ ids issues ∧ DependsOn issues x issues[k].id := by
  constructor
  · intro h
    obtain ⟨u, hu, rfl⟩ := List.mem_map.1 h
    have hadj := DirectedGraph.mem_preds.1 hu
    exact ⟨hb.idOf_mem_ids (a.g.edges_mem _ hadj).1,
      hb.idOf_getElem k hk ▸ hb.dependsOn_of_adj hadj⟩
  · rintro ⟨hx, hdep⟩
    obtain ⟨u, hu, rfl⟩ := exists_getElem_of_mem_ids hx
    exact List.mem_map.2 ⟨u, DirectedGraph.mem_preds.2 (hb.adj_of_dependsOn hnd hu hk hdep),
      hb.idOf_getElem u hu⟩

end

/-! ## The branches of `Analyze` -/

/-- `Analyze` panics on a graph with no node, on every run. -/
theorem analyze_empty {r : Run} (h : a.g.nodes = []) :
    a.analyze r = .error "mat: zero length in matrix dimension" := by
  simp only [Analyzer.analyze, h, if_true]

theorem analyze_of_sort_ok {r : Run} {l : List Nat} (hn : a.g.nodes ≠ []) (hs : sort r.sort = .ok l)
    {heights : GoMap String Nat} (hh : a.computeHeights r.heights r.parents = .ok heights) :
    a.analyze r = .ok ⟨a.pageRankOf r.pageRank, (a.degrees r.nodes).2, (a.degrees r.nodes).1,
      heights, (directedCyclesIn r.cycles a.g).map (·.map a.idOf),
      densityOf (a.pageRankOf r.pageRank).len a.g.edges.length, l.reverse.map a.idOf⟩ := by
  simp only [Analyzer.analyze, hn, if_false, hs, hh]; rfl

theorem analyze_of_sort_error {r : Run} {e : List (List Nat)} (hn : a.g.nodes ≠ [])
    (hs : sort r.sort = .error e) :
    a.analyze r = .ok ⟨a.pageRankOf r.pageRank, (a.degrees r.nodes).2, (a.degrees r.nodes).1,
      GoMap.empty, (directedCyclesIn r.cycles a.g).map (·.map a.idOf),
      densityOf (a.pageRankOf r.pageRank).len a.g.edges.length, []⟩ := by
  simp only [Analyzer.analyze, hn, if_false, hs]

/-- `Analyze` returns on every run of a call that returns (the graph has a
    node), and its `TopologicalOrder` and
    `CriticalPathScore` come from a topological order of the graph, or are
    empty when the graph has a cycle. -/
theorem analyze_cases {r : Run} (hr : Run.Of a.g r) :
    (∃ l l', IsTopoOrder a.g l ∧ IsTopoOrder a.g l' ∧
      a.analyze r = .ok ⟨a.pageRankOf r.pageRank, (a.degrees r.nodes).2, (a.degrees r.nodes).1,
        (l'.foldl (a.heightStep r.parents) (GoMap.empty, GoMap.empty)).2,
        (directedCyclesIn r.cycles a.g).map (·.map a.idOf),
        densityOf (a.pageRankOf r.pageRank).len a.g.edges.length, l.reverse.map a.idOf⟩) ∨
    (a.g.HasCycle ∧ a.analyze r = .ok ⟨a.pageRankOf r.pageRank, (a.degrees r.nodes).2,
      (a.degrees r.nodes).1, GoMap.empty, (directedCyclesIn r.cycles a.g).map (·.map a.idOf),
      densityOf (a.pageRankOf r.pageRank).len a.g.edges.length, []⟩) := by
  obtain ⟨-, -, hsort, hheights, -, -, hn⟩ := hr
  rcases sort_spec hsort with ⟨l, hs, hl⟩ | ⟨⟨e, hs⟩, hcyc⟩
  · rcases sort_spec hheights with ⟨l', hs', hl'⟩ | ⟨-, hcyc⟩
    · exact Or.inl ⟨l, l', hl, hl',
        analyze_of_sort_ok hn hs (by simp [Analyzer.computeHeights, hs'])⟩
    · exact absurd hcyc hl.acyclic
  · exact Or.inr ⟨hcyc, analyze_of_sort_error hn hs⟩

/-! ## Degrees -/

/-- `n` is the number of the ids `y` with `p y`. -/
def CountOf (p : String → Prop) (n : Nat) : Prop :=
  ∃ ys : List String, ys.Nodup ∧ (∀ y, y ∈ ys ↔ p y) ∧ ys.length = n

theorem foldl_pair {α β γ : Type} (f : β → α → β) (g : γ → α → γ) :
    ∀ (l : List α) (b : β) (c : γ),
      l.foldl (fun d x => (f d.1 x, g d.2 x)) (b, c) = (l.foldl f b, l.foldl g c)
  | [], _, _ => rfl
  | x :: l, b, c => foldl_pair f g l (f b x) (g c x)

/-- The degree loop, one map at a time. -/
theorem degrees_eq (a : Analyzer) (nodes : List Nat) :
    a.degrees nodes = (nodes.foldl (fun m n => m.set (a.idOf n) (a.g.preds n).length) GoMap.empty,
      nodes.foldl (fun m n => m.set (a.idOf n) (a.g.succs n).length) GoMap.empty) := by
  unfold Analyzer.degrees
  exact foldl_pair (fun (m : GoMap String Nat) n => m.set (a.idOf n) (a.g.preds n).length)
    (fun (m : GoMap String Nat) n => m.set (a.idOf n) (a.g.succs n).length) nodes _ _

/-- **`OutDegree` and `InDegree`.**  For pairwise-distinct ids, on every run,
    each id is mapped to the number of distinct ids of the list it depends on,
    and to the number of distinct ids that depend on it, through dependencies
    of any type. -/
theorem analyze_degrees (hnd : (ids issues).Nodup) (ha : newAnalyzer issues = .ok a)
    {r : Run} (hr : Run.Of a.g r) :
    ∃ stats, a.analyze r = .ok stats ∧ ∀ k (hk : k < issues.length),
      (∃ n, stats.outDegree.get? issues[k].id = some n ∧
        CountOf (fun y => y ∈ ids issues ∧ DependsOn issues issues[k].id y) n) ∧
      (∃ n, stats.inDegree.get? issues[k].id = some n ∧
        CountOf (fun x => x ∈ ids issues ∧ DependsOn issues x issues[k].id) n) := by
  have hb := builds_of_ok ha
  have hinj : ∀ m ∈ r.nodes, ∀ n ∈ r.nodes, a.idOf m = a.idOf n → m = n :=
    fun m hm n hn => hb.idOf_inj hnd (hr.1.subset hm) (hr.1.subset hn)
  obtain ⟨stats, hs, hdeg⟩ : ∃ stats, a.analyze r = .ok stats ∧
      a.degrees r.nodes = (stats.inDegree, stats.outDegree) := by
    rcases analyze_cases hr with ⟨_, _, _, _, h⟩ | ⟨_, h⟩ <;> exact ⟨_, h, rfl⟩
  rw [degrees_eq, Prod.mk.injEq] at hdeg
  refine ⟨stats, hs, fun k hk => ?_⟩
  have hk' : k ∈ r.nodes := hr.1.symm.subset (by simp [hb.nodes, hk])
  have hout := GoMap.get?_foldl_set a.idOf (fun n => (a.g.succs n).length) _ GoMap.empty hinj k hk'
  have hin := GoMap.get?_foldl_set a.idOf (fun n => (a.g.preds n).length) _ GoMap.empty hinj k hk'
  rw [hb.idOf_getElem k hk, hdeg.2] at hout
  rw [hb.idOf_getElem k hk, hdeg.1] at hin
  exact ⟨⟨_, hout, _, hb.nodup_map_idOf hnd (a.g.succs_nodup k)
      (fun _ h => (a.g.edges_mem _ (DirectedGraph.mem_succs.1 h)).2),
      hb.mem_map_succs hnd hk, List.length_map _ _⟩,
    ⟨_, hin, _, hb.nodup_map_idOf hnd (a.g.preds_nodup k)
      (fun _ h => (a.g.edges_mem _ (DirectedGraph.mem_preds.1 h)).1),
      hb.mem_map_preds hnd hk, List.length_map _ _⟩⟩

/-- `A` depends on `B` and on `C`, through dependencies of two types. -/
theorem analyze_degrees_three :
    ∃ (issues : List Issue) (a : Analyzer),
      issues = [{ (default : Issue) with
          id := "A", dependencies := [⟨"A", "B", .blocks⟩, ⟨"A", "C", .related⟩] },
        { (default : Issue) with id := "B" }, { (default : Issue) with id := "C" }] ∧
      (ids issues).Nodup ∧ newAnalyzer issues = .ok a ∧ Run.Of a.g (Run.listed a.g [0, 1, 2]) ∧
      ∃ stats, a.analyze (Run.listed a.g [0, 1, 2]) = .ok stats ∧ ∀ k (hk : k < issues.length),
        (∃ n, stats.outDegree.get? issues[k].id = some n ∧
          CountOf (fun y => y ∈ ids issues ∧ DependsOn issues issues[k].id y) n) ∧
        (∃ n, stats.inDegree.get? issues[k].id = some n ∧
          CountOf (fun x => x ∈ ids issues ∧ DependsOn issues x issues[k].id) n) := by
  refine ⟨_, _, rfl, by decide, rfl, Run.listed_of (by decide) (by decide), ?_⟩
  refine analyze_degrees ?_ ?_ (Run.listed_of ?_ ?_) <;> first | decide | rfl

/-! ## Topological order -/

/-- `x` comes before `y` in `l`. -/
def Before (l : List String) (x y : String) : Prop := ∃ l₁ l₂, l = l₁ ++ x :: l₂ ∧ y ∈ l₂

theorem before_or_before {l : List String} {x y : String} (hx : x ∈ l) (hy : y ∈ l)
    (hxy : x ≠ y) : Before l x y ∨ Before l y x := by
  obtain ⟨s, t, rfl⟩ := List.append_of_mem hx
  rcases List.mem_append.1 hy with hy | hy
  · obtain ⟨s₁, s₂, rfl⟩ := List.append_of_mem hy
    exact Or.inr ⟨s₁, s₂ ++ x :: t, by simp, by simp⟩
  · exact Or.inl ⟨s, t, rfl, (List.mem_cons.1 hy).resolve_left (Ne.symm hxy)⟩

theorem Before.rel {R : String → String → Prop} {l : List String} (h : l.Pairwise R)
    {x y : String} (hb : Before l x y) : R x y := by
  obtain ⟨l₁, l₂, rfl, hy⟩ := hb
  exact (List.pairwise_cons.1 (List.pairwise_append.1 h).2.1).1 y hy

/-- A topological order, reversed and mapped to ids, lists every id once. -/
theorem Builds.perm_ids_of_topoOrder (hb : Builds issues a) {l : List Nat}
    (hl : IsTopoOrder a.g l) : List.Perm (l.reverse.map a.idOf) (ids issues) := by
  rw [← hb.map_idOf_range, ← hb.nodes]
  exact ((List.reverse_perm l).trans hl.1).map a.idOf

/-- In a list without repeats, `x` before `y` is a smaller index. -/
theorem Before.indexOf_lt {l : List String} (hl : l.Nodup) {x y : String} (h : Before l x y) :
    l.indexOf x < l.indexOf y := by
  obtain ⟨l₁, l₂, rfl, hy⟩ := h
  have hd := List.nodup_append.1 hl
  have hx : x ∉ l₁ := fun hx => hd.2.2 hx (List.mem_cons_self _ _)
  have hy₁ : y ∉ l₁ := fun h₁ => hd.2.2 h₁ (List.mem_cons_of_mem _ hy)
  have hxy : x ≠ y := fun e => (List.nodup_cons.1 hd.2.1).1 (e ▸ hy)
  rw [List.indexOf_append_of_not_mem hx, List.indexOf_append_of_not_mem hy₁, List.indexOf_cons_self,
    List.indexOf_cons_ne _ hxy]
  omega

/-- What a run gives for `TopologicalOrder`: empty when the graph has a
    cycle, and otherwise every id once, each dependency target before the
    issues that depend on it. -/
theorem analyze_topologicalOrder_spec (hnd : (ids issues).Nodup) (ha : newAnalyzer issues = .ok a)
    {r : Run} (hr : Run.Of a.g r) :
    ∃ stats, a.analyze r = .ok stats ∧ (a.g.HasCycle → stats.topologicalOrder = []) ∧
      (¬ a.g.HasCycle → List.Perm stats.topologicalOrder (ids issues) ∧
        ∀ x ∈ ids issues, ∀ y ∈ ids issues, DependsOn issues x y →
          Before stats.topologicalOrder y x) := by
  have hb := builds_of_ok ha
  rcases analyze_cases hr with ⟨l, _, hl, _, h⟩ | ⟨hcyc, h⟩
  · have hperm := hb.perm_ids_of_topoOrder hl
    refine ⟨_, h, fun hcyc => absurd hcyc hl.acyclic, fun _ => ⟨hperm, ?_⟩⟩
    · -- `l` reversed, mapped to ids: no id before one it depends on
      have hpw : (l.reverse.map a.idOf).Pairwise fun x y => ¬ DependsOn issues x y := by
        refine List.pairwise_map.2
          (List.pairwise_reverse.2 (hl.2.imp_of_mem fun {m n} hm hn hadj hdep => ?_))
        have hm' := hb.nodes ▸ hl.1.subset hm
        have hn' := hb.nodes ▸ hl.1.subset hn
        rw [List.mem_range] at hm' hn'
        rw [hb.idOf_getElem _ hm', hb.idOf_getElem _ hn'] at hdep
        exact hadj (hb.adj_of_dependsOn hnd hn' hm' hdep)
      intro x hx y hy hxy
      have hne : x ≠ y := by
        rintro rfl
        obtain ⟨i, hi, rfl, d, hd, hdi⟩ := hxy
        exact noSelfDep_of_ok ha i hi d hd hdi
      exact (before_or_before (hperm.symm.subset hy) (hperm.symm.subset hx) hne.symm).resolve_right
        fun h' => h'.rel hpw hxy
  · exact ⟨_, h, fun _ => rfl, fun h' => absurd hcyc h'⟩

/-- **`TopologicalOrder`.**  For pairwise-distinct ids, on every run: empty
    when the graph has a cycle, and otherwise every id once, each dependency
    target before the issues that depend on it. -/
theorem analyze_topologicalOrder (hnd : (ids issues).Nodup) (ha : newAnalyzer issues = .ok a)
    {r : Run} (hr : Run.Of a.g r) :
    ∃ stats, a.analyze r = .ok stats ∧ (a.g.HasCycle → stats.topologicalOrder = []) ∧
      (¬ a.g.HasCycle → List.Perm stats.topologicalOrder (ids issues) ∧
        ∀ x ∈ ids issues, ∀ y ∈ ids issues, DependsOn issues x y →
          Before stats.topologicalOrder y x) :=
  analyze_topologicalOrder_spec hnd ha hr

/-- `A` depends on `B`, on a run that sees `A` first. -/
theorem analyze_topologicalOrder_two :
    ∃ (issues : List Issue) (a : Analyzer),
      issues = [{ (default : Issue) with id := "A", dependencies := [⟨"A", "B", .blocks⟩] },
        { (default : Issue) with id := "B" }] ∧
      (ids issues).Nodup ∧ newAnalyzer issues = .ok a ∧ Run.Of a.g (Run.listed a.g [0, 1]) ∧
      ∃ stats, a.analyze (Run.listed a.g [0, 1]) = .ok stats ∧
        (a.g.HasCycle → stats.topologicalOrder = []) ∧
        (¬ a.g.HasCycle → List.Perm stats.topologicalOrder (ids issues) ∧
          ∀ x ∈ ids issues, ∀ y ∈ ids issues, DependsOn issues x y →
            Before stats.topologicalOrder y x) := by
  refine ⟨_, _, rfl, by decide, rfl, Run.listed_of (by decide) (by decide), ?_⟩
  refine analyze_topologicalOrder ?_ ?_ (Run.listed_of ?_ ?_) <;> first | decide | rfl

/-- **The orientation, by positions.**  For pairwise-distinct ids, on every
    run, `TopologicalOrder` is empty exactly when the graph has a cycle; when
    it is not empty, it lists every id once, and for every edge `u → v` (`u`
    depends on `v`) `v` comes first: `Analyze` reverses `topo.Sort`'s order,
    which puts `u` first. -/
theorem analyze_topologicalOrder_indexOf (hnd : (ids issues).Nodup)
    (ha : newAnalyzer issues = .ok a) {r : Run} (hr : Run.Of a.g r) :
    ∃ stats, a.analyze r = .ok stats ∧ (stats.topologicalOrder = [] ↔ a.g.HasCycle) ∧
      (stats.topologicalOrder ≠ [] → stats.topologicalOrder.Nodup ∧
        (∀ x, x ∈ stats.topologicalOrder ↔ x ∈ ids issues) ∧
        ∀ u ∈ ids issues, ∀ v ∈ ids issues, DependsOn issues u v →
          stats.topologicalOrder.indexOf v < stats.topologicalOrder.indexOf u) := by
  obtain ⟨stats, h, hcyc, hacyc⟩ := analyze_topologicalOrder_spec hnd ha hr
  -- a graph with a node and no cycle has a non-empty order
  have hne : ¬ a.g.HasCycle → stats.topologicalOrder ≠ [] := fun hc he => by
    have hids := (hacyc hc).1
    rw [he, List.nil_perm, ids, List.map_eq_nil_iff] at hids
    exact hr.2.2.2.2.2.2 (by rw [(builds_of_ok ha).nodes, hids]; rfl)
  refine ⟨stats, h, ⟨fun he => by_contra fun hc => hne hc he, hcyc⟩, fun he => ?_⟩
  obtain ⟨hperm, hbefore⟩ := hacyc fun hc => he (hcyc hc)
  have hnd' := hperm.nodup_iff.2 hnd
  exact ⟨hnd', fun x => hperm.mem_iff, fun u hu v hv huv => (hbefore u hu v hv huv).indexOf_lt hnd'⟩

/-- `A` depends on `B`, on a run that sees `A` first. -/
theorem analyze_topologicalOrder_indexOf_two :
    ∃ (issues : List Issue) (a : Analyzer),
      issues = [{ (default : Issue) with id := "A", dependencies := [⟨"A", "B", .blocks⟩] },
        { (default : Issue) with id := "B" }] ∧
      (ids issues).Nodup ∧ newAnalyzer issues = .ok a ∧ Run.Of a.g (Run.listed a.g [0, 1]) ∧
      ∃ stats, a.analyze (Run.listed a.g [0, 1]) = .ok stats ∧
        (stats.topologicalOrder = [] ↔ a.g.HasCycle) ∧
        (stats.topologicalOrder ≠ [] → stats.topologicalOrder.Nodup ∧
          (∀ x, x ∈ stats.topologicalOrder ↔ x ∈ ids issues) ∧
          ∀ u ∈ ids issues, ∀ v ∈ ids issues, DependsOn issues u v →
            stats.topologicalOrder.indexOf v < stats.topologicalOrder.indexOf u) := by
  refine ⟨_, _, rfl, by decide, rfl, Run.listed_of (by decide) (by decide), ?_⟩
  refine analyze_topologicalOrder_indexOf ?_ ?_ (Run.listed_of ?_ ?_) <;> first | decide | rfl

/-- `A` depends on `B`: `TopologicalOrder` puts `B` first. -/
theorem analyze_topologicalOrder_dependency_first :
    ∃ a, newAnalyzer [{ (default : Issue) with id := "A", dependencies := [⟨"A", "B", .blocks⟩] },
        { (default : Issue) with id := "B" }] = .ok a ∧ a.g.Adj 0 1 ∧
      Run.Of a.g (Run.listed a.g [0, 1]) ∧
      (a.analyze (Run.listed a.g [0, 1])).map (·.topologicalOrder) = .ok ["B", "A"] :=
  ⟨_, rfl, by decide, Run.listed_of (by decide) (by decide), rfl⟩

/-- Two issues with no dependency, and two runs whose `topo.Sort` sees the
    nodes in the two orders: `TopologicalOrder` follows the order. -/
theorem analyze_topologicalOrder_order_dependent :
    ∃ a, newAnalyzer [{ (default : Issue) with id := "A" }, { (default : Issue) with id := "B" }] =
        .ok a ∧ Run.Of a.g (Run.listed a.g [0, 1]) ∧ Run.Of a.g (Run.listed a.g [1, 0]) ∧
      (a.analyze (Run.listed a.g [0, 1])).map (·.topologicalOrder) = .ok ["A", "B"] ∧
      (a.analyze (Run.listed a.g [1, 0])).map (·.topologicalOrder) = .ok ["B", "A"] :=
  ⟨_, rfl, Run.listed_of (by decide) (by decide), Run.listed_of (by decide) (by decide), rfl, rfl⟩

/-- **Runs.**  The `TopologicalOrder`s of any two runs list the same ids:
    both are empty, or both list every id once. -/
theorem analyze_topologicalOrder_perm (ha : newAnalyzer issues = .ok a) {r₁ r₂ : Run} (hr₁ : Run.Of a.g r₁) (hr₂ : Run.Of a.g r₂) :
    ∃ s₁ s₂, a.analyze r₁ = .ok s₁ ∧ a.analyze r₂ = .ok s₂ ∧
      List.Perm s₁.topologicalOrder s₂.topologicalOrder := by
  have hb := builds_of_ok ha
  rcases analyze_cases hr₁ with ⟨l₁, _, hl₁, _, h₁⟩ | ⟨hcyc₁, h₁⟩ <;>
    rcases analyze_cases hr₂ with ⟨l₂, _, hl₂, _, h₂⟩ | ⟨hcyc₂, h₂⟩
  · exact ⟨_, _, h₁, h₂,
      (hb.perm_ids_of_topoOrder hl₁).trans (hb.perm_ids_of_topoOrder hl₂).symm⟩
  · exact absurd hcyc₂ hl₁.acyclic
  · exact absurd hcyc₁ hl₂.acyclic
  · exact ⟨_, _, h₁, h₂, List.Perm.refl _⟩

/-- Two issues with no dependency, on the runs that see them in the two
    orders. -/
theorem analyze_topologicalOrder_perm_two :
    ∃ a, newAnalyzer [{ (default : Issue) with id := "A" }, { (default : Issue) with id := "B" }] =
        .ok a ∧ Run.Of a.g (Run.listed a.g [0, 1]) ∧ Run.Of a.g (Run.listed a.g [1, 0]) ∧
      ∃ s₁ s₂, a.analyze (Run.listed a.g [0, 1]) = .ok s₁ ∧ a.analyze (Run.listed a.g [1, 0]) = .ok s₂ ∧
        List.Perm s₁.topologicalOrder s₂.topologicalOrder :=
  ⟨_, rfl, Run.listed_of (by decide) (by decide), Run.listed_of (by decide) (by decide),
    @analyze_topologicalOrder_perm [{ (default : Issue) with id := "A" }, { (default : Issue) with id := "B" }]
      _ rfl _ _ (Run.listed_of (by decide) (by decide)) (Run.listed_of (by decide) (by decide))⟩

/-! ## Critical path heights -/

/-- `h` is the number of nodes of a longest walk of `g` ending at `v`. -/
def IsLongestTo (g : DirectedGraph) (v h : Nat) : Prop :=
  (∃ p : List Nat, p.Chain' g.Adj ∧ p.getLast? = some v ∧ p.length = h) ∧
    ∀ p : List Nat, p.Chain' g.Adj → p.getLast? = some v → p.length ≤ h

/-- One node past the longest walks to its parents: `h(v) = 1 + max h(u)`
    over the edges `u → v`, and `1` when there is none. -/
theorem isLongestTo_succ {g : DirectedGraph} {v M : Nat} {f : Nat → Nat}
    (hpar : ∀ p, g.Adj p v → IsLongestTo g p (f p)) (hle : ∀ p, g.Adj p v → f p ≤ M)
    (hM : M = 0 ∨ ∃ p, g.Adj p v ∧ M = f p) : IsLongestTo g v (1 + M) := by
  refine ⟨?_, fun q hq hqv => ?_⟩
  · rcases hM with rfl | ⟨p, hpv, rfl⟩
    · exact ⟨[v], List.chain'_singleton v, rfl, rfl⟩
    · obtain ⟨q, hq, hqp, hlen⟩ := (hpar p hpv).1
      refine ⟨q ++ [v], hq.append (List.chain'_singleton v) fun x hx y hy => ?_, by simp,
        by simp [hlen]; omega⟩
      rw [hqp, Option.mem_some_iff] at hx
      rw [List.head?_singleton, Option.mem_some_iff] at hy
      exact hx ▸ hy ▸ hpv
  · obtain ⟨q', rfl⟩ := List.getLast?_eq_some_iff.1 hqv
    rcases List.eq_nil_or_concat q' with rfl | ⟨q'', x, rfl⟩
    · simp
    · rw [List.concat_eq_append] at hq ⊢
      have hxv : g.Adj x v := (List.chain'_append.1 hq).2.2 x (by simp) v (by simp)
      have h₁ := (hpar x hxv).2 _ (List.chain'_append.1 hq).1 (by simp)
      have h₂ := hle x hxv
      simp only [List.length_append, List.length_singleton] at h₁ ⊢
      omega

theorem maxParentHeight_spec {H : GoMap Nat Nat} {hf : Nat → Nat} {ps : List Nat}
    (h : ∀ p ∈ ps, H.get? p = some (hf p)) :
    (∀ p ∈ ps, hf p ≤ Analyzer.maxParentHeight H ps) ∧
      (Analyzer.maxParentHeight H ps = 0 ∨ ∃ p ∈ ps, Analyzer.maxParentHeight H ps = hf p) := by
  suffices ∀ (ps : List Nat) (m : Nat), (∀ p ∈ ps, H.get? p = some (hf p)) →
      (∀ p ∈ ps, hf p ≤ ps.foldl (Analyzer.maxParentStep H) m) ∧ m ≤ ps.foldl (Analyzer.maxParentStep H) m ∧
        (ps.foldl (Analyzer.maxParentStep H) m = m ∨ ∃ p ∈ ps, ps.foldl (Analyzer.maxParentStep H) m = hf p) from
    let ⟨h₁, _, h₂⟩ := this ps 0 h; ⟨h₁, h₂⟩
  intro ps
  induction ps with
  | nil => simp
  | cons p ps ih =>
    intro m hps
    have hstep : Analyzer.maxParentStep H m p = max m (hf p) := by
      simp only [Analyzer.maxParentStep, hps p (List.mem_cons_self _ _)]
      split <;> omega
    obtain ⟨h₁, h₂, h₃⟩ := ih (max m (hf p)) fun q hq => hps q (List.mem_cons_of_mem _ hq)
    simp only [List.foldl_cons, hstep, List.mem_cons, forall_eq_or_imp, exists_eq_or_imp]
    refine ⟨⟨by omega, h₁⟩, by omega, ?_⟩
    rcases h₃ with h₃ | h₃
    · rw [h₃]; omega
    · exact Or.inr (Or.inr h₃)

/-- A loop over `l` whose turn at each `x`, with `done` passed before it,
    keeps `P`, keeps `P`. -/
theorem foldl_prefix_inv {α β : Type} (f : β → α → β) (P : β → List α → Prop) (l : List α)
    (step : ∀ done x rest b, l = done ++ x :: rest → P b done → P (f b x) (done ++ [x])) :
    ∀ b, P b [] → P (l.foldl f b) l := by
  suffices ∀ xs done b, l = done ++ xs → P b done → P (xs.foldl f b) (done ++ xs) from
    fun b hb => by simpa using this l [] b rfl hb
  intro xs
  induction xs with
  | nil => intro done b _ hb; simpa using hb
  | cons x xs ih =>
    intro done b hl hb
    simpa using ih (done ++ [x]) (f b x) (by simp [hl]) (step done x xs b hl hb)

/-- What `computeHeights`' loop knows once it has passed the nodes `done`:
    their heights, and their scores under their ids. -/
structure HeightsInv (a : Analyzer) (acc : GoMap Nat Nat × GoMap String Nat)
    (done : List Nat) : Prop where
  known : ∀ n ∈ done, ∃ h, acc.1.get? n = some h ∧ IsLongestTo a.g n h
  unknown : ∀ n, n ∉ done → acc.1.get? n = none
  impact : ∀ n ∈ done, acc.2.get? (a.idOf n) = acc.1.get? n

/-- One turn of `computeHeights`' loop, at the node `n` of a topological
    order `l`, keeps `HeightsInv`: the parents of `n` are done, so `n` gets one
    more than the largest of their heights. -/
theorem heightStep_inv {l : List Nat} (hl : IsTopoOrder a.g l)
    (hinj : ∀ m ∈ l, ∀ n ∈ l, a.idOf m = a.idOf n → m = n)
    {parents : Nat → List Nat} (hpar : ∀ n, List.Perm (parents n) (a.g.preds n))
    {done rest : List Nat} {n : Nat} {acc : GoMap Nat Nat × GoMap String Nat}
    (hl' : l = done ++ n :: rest) (I : HeightsInv a acc done) :
    HeightsInv a (a.heightStep parents acc n) (done ++ [n]) := by
  have hn : n ∉ done := fun h =>
    (List.nodup_append.1 (hl' ▸ hl.1.nodup_iff.2 a.g.nodes_nodup)).2.2 h (List.mem_cons_self _ _)
  have hknown : ∀ p ∈ parents n, acc.1.get? p = some ((acc.1.get? p).getD 0) := fun p hp => by
    obtain ⟨h, h₁, -⟩ :=
      I.known p (hl.mem_before hl' (DirectedGraph.mem_preds.1 ((hpar n).subset hp)))
    simp [h₁]
  obtain ⟨hle, hM⟩ := maxParentHeight_spec hknown
  have hlong : IsLongestTo a.g n (1 + Analyzer.maxParentHeight acc.1 (parents n)) := by
    refine isLongestTo_succ (f := fun p => (acc.1.get? p).getD 0) (fun p hp => ?_)
      (fun p hp => hle p ((hpar n).symm.subset (DirectedGraph.mem_preds.2 hp))) ?_
    · obtain ⟨h, h₁, h₂⟩ := I.known p (hl.mem_before hl' hp)
      simpa [h₁] using h₂
    · rcases hM with h | ⟨p, hp, h⟩
      · exact Or.inl h
      · exact Or.inr ⟨p, DirectedGraph.mem_preds.1 ((hpar n).subset hp), h⟩
  have hne : ∀ m ∈ done, m ≠ n := fun m hm e => hn (e ▸ hm)
  refine ⟨fun m hm => ?_, fun m hm => ?_, fun m hm => ?_⟩ <;>
    simp only [List.mem_append, List.mem_singleton, not_or] at hm <;>
    simp only [Analyzer.heightStep, GoMap.get?_set]
  · rcases hm with hm | rfl
    · simpa [hne m hm] using I.known m hm
    · exact ⟨_, if_pos rfl, hlong⟩
  · simp [hm.2, I.unknown m hm.1]
  · rcases hm with hm | rfl
    · have hid : a.idOf m ≠ a.idOf n := fun e => hne m hm (hinj m (hl' ▸ by simp [hm]) n
        (hl' ▸ by simp) e)
      simp [hid, hne m hm, I.impact m hm]
    · simp

/-- **`computeHeights`' loop.**  Over any topological order, with ids
    distinct on its nodes and `To(n)` in any order, it gives each node's id
    the number of nodes of a longest walk ending at the node. -/
theorem heights_of_topoOrder {l : List Nat} (hl : IsTopoOrder a.g l)
    (hinj : ∀ m ∈ l, ∀ n ∈ l, a.idOf m = a.idOf n → m = n)
    {parents : Nat → List Nat} (hpar : ∀ n, List.Perm (parents n) (a.g.preds n)) :
    ∀ n ∈ l, ∃ h, (l.foldl (a.heightStep parents) (GoMap.empty, GoMap.empty)).2.get? (a.idOf n) =
      some h ∧ IsLongestTo a.g n h := by
  have H := foldl_prefix_inv (a.heightStep parents) (HeightsInv a) l
    (fun _ _ _ _ hl' I => heightStep_inv hl hinj hpar hl' I)
    (GoMap.empty, GoMap.empty) ⟨by simp, fun _ _ => by simp, by simp⟩
  intro n hn
  obtain ⟨h, h₁, h₂⟩ := H.known n hn
  exact ⟨h, (H.impact n hn).trans h₁, h₂⟩

/-- **`CriticalPathScore`.**  For pairwise-distinct ids, on every run: no
    entry when the graph has a cycle, and otherwise each id mapped to the
    number of nodes of a longest walk of the graph ending at its node,
    whichever topological order `computeHeights`' `Sort` returned. -/
theorem analyze_criticalPathScore (hnd : (ids issues).Nodup) (ha : newAnalyzer issues = .ok a)
    {r : Run} (hr : Run.Of a.g r) :
    ∃ stats, a.analyze r = .ok stats ∧ (a.g.HasCycle → stats.criticalPathScore.entries = []) ∧
      (¬ a.g.HasCycle → ∀ k (hk : k < issues.length), ∃ h,
        stats.criticalPathScore.get? issues[k].id = some h ∧ IsLongestTo a.g k h) := by
  have hb := builds_of_ok ha
  rcases analyze_cases hr with ⟨_, l', hl, hl', h⟩ | ⟨hcyc, h⟩
  · refine ⟨_, h, fun hcyc => absurd hcyc hl.acyclic, fun _ k hk => ?_⟩
    have hk' : k ∈ l' := hl'.1.symm.subset (by rw [hb.nodes]; exact List.mem_range.2 hk)
    have := heights_of_topoOrder hl'
      (fun m hm n hn => hb.idOf_inj hnd (hl'.1.subset hm) (hl'.1.subset hn)) hr.2.2.2.2.1 k hk'
    rwa [hb.idOf_getElem k hk] at this
  · exact ⟨_, h, fun _ => rfl, fun h' => absurd hcyc h'⟩

/-- A chain `A → B → C` (`A` depends on `B`, `B` on `C`): `A` starts the
    longest walk, `C` ends it. -/
theorem analyze_criticalPathScore_chain :
    ∃ (issues : List Issue) (a : Analyzer) (stats : GraphStats),
      issues = [{ (default : Issue) with id := "A", dependencies := [⟨"A", "B", .blocks⟩] },
        { (default : Issue) with id := "B", dependencies := [⟨"B", "C", .blocks⟩] },
        { (default : Issue) with id := "C" }] ∧
      (ids issues).Nodup ∧ newAnalyzer issues = .ok a ∧ Run.Of a.g (Run.listed a.g [0, 1, 2]) ∧
      a.analyze (Run.listed a.g [0, 1, 2]) = .ok stats ∧
      stats.criticalPathScore.get? "A" = some 1 ∧ stats.criticalPathScore.get? "C" = some 3 ∧
      ∃ stats, a.analyze (Run.listed a.g [0, 1, 2]) = .ok stats ∧
        (a.g.HasCycle → stats.criticalPathScore.entries = []) ∧
        (¬ a.g.HasCycle → ∀ k (hk : k < issues.length), ∃ h,
          stats.criticalPathScore.get? issues[k].id = some h ∧ IsLongestTo a.g k h) := by
  refine ⟨_, _, _, rfl, by decide, rfl, Run.listed_of (by decide) (by decide), rfl, rfl, rfl, ?_⟩
  refine analyze_criticalPathScore ?_ ?_ (Run.listed_of ?_ ?_) <;> first | decide | rfl

/-! ## Cycles -/

/-- **`Cycles`.**  On every run, every entry of `Cycles` is closed: at least
    three ids, the last one the first, each depending on the next. -/
theorem analyze_cycles_closed (ha : newAnalyzer issues = .ok a) {r : Run} (hr : Run.Of a.g r) :
    ∃ stats, a.analyze r = .ok stats ∧ ∀ c ∈ stats.cycles,
      2 < c.length ∧ c.head? = c.getLast? ∧ c.Chain' (DependsOn issues) := by
  have hb := builds_of_ok ha
  have hclosed : ∀ c ∈ (directedCyclesIn r.cycles a.g).map (·.map a.idOf),
      2 < c.length ∧ c.head? = c.getLast? ∧ c.Chain' (DependsOn issues) := by
    simp only [List.mem_map]
    rintro _ ⟨c, hc, rfl⟩
    obtain ⟨h₁, h₂, h₃⟩ := directedCyclesIn_closed hr.2.1.2 hc
    refine ⟨by simpa using h₁, by simp [List.head?_map, List.getLast?_map, h₂], ?_⟩
    exact List.chain'_map _ |>.2 (h₃.imp fun _ _ h => hb.dependsOn_of_adj h)
  rcases analyze_cases hr with ⟨_, _, _, _, h⟩ | ⟨_, h⟩
  · exact ⟨_, h, hclosed⟩
  · exact ⟨_, h, hclosed⟩

/-- Two issues that depend on each other, on the run that lists them in
    order. -/
theorem analyze_cycles_closed_two :
    ∃ a, newAnalyzer [{ (default : Issue) with id := "A", dependencies := [⟨"A", "B", .blocks⟩] },
        { (default : Issue) with id := "B", dependencies := [⟨"B", "A", .blocks⟩] }] = .ok a ∧
      Run.Of a.g (Run.listed a.g [0, 1]) ∧
      ∃ stats, a.analyze (Run.listed a.g [0, 1]) = .ok stats ∧ ∀ c ∈ stats.cycles,
        2 < c.length ∧ c.head? = c.getLast? ∧
          c.Chain' (DependsOn [{ (default : Issue) with id := "A", dependencies := [⟨"A", "B", .blocks⟩] },
            { (default : Issue) with id := "B", dependencies := [⟨"B", "A", .blocks⟩] }]) := by
  refine ⟨_, rfl, Run.listed_of (by decide) (by decide), ?_⟩
  refine analyze_cycles_closed ?_ (Run.listed_of ?_ ?_) <;> first | decide | rfl

/-- **Elementary cycles.**  With distinct ids, on every run, no entry of
    `Cycles` names an issue twice, apart from its last id, which repeats its
    first. -/
theorem analyze_cycles_elementary (hnd : (ids issues).Nodup) (ha : newAnalyzer issues = .ok a)
    {r : Run} (hr : Run.Of a.g r) :
    ∃ stats, a.analyze r = .ok stats ∧ ∀ c ∈ stats.cycles, c.dropLast.Nodup := by
  have hb := builds_of_ok ha
  have hel : ∀ c ∈ (directedCyclesIn r.cycles a.g).map (·.map a.idOf), c.dropLast.Nodup := by
    simp only [List.mem_map]
    rintro _ ⟨c, hc, rfl⟩
    obtain ⟨h₁, h₂⟩ := directedCyclesIn_elementary hr.2.1.2 a.g c hc
    rw [← List.map_dropLast]
    exact hb.nodup_map_idOf hnd h₁ fun n hn => h₂ n (List.dropLast_subset _ hn)
  rcases analyze_cases hr with ⟨_, _, _, _, h⟩ | ⟨_, h⟩
  · exact ⟨_, h, hel⟩
  · exact ⟨_, h, hel⟩

/-- Three issues each depending on the next, the last on the first, on the
    run that lists them in order. -/
theorem analyze_cycles_elementary_three :
    let issues : List Issue := [{ (default : Issue) with id := "A", dependencies := [⟨"A", "B", .blocks⟩] },
      { (default : Issue) with id := "B", dependencies := [⟨"B", "C", .blocks⟩] },
      { (default : Issue) with id := "C", dependencies := [⟨"C", "A", .blocks⟩] }]
    ∃ a, (ids issues).Nodup ∧ newAnalyzer issues = .ok a ∧ Run.Of a.g (Run.listed a.g [0, 1, 2]) ∧
      ∃ stats, a.analyze (Run.listed a.g [0, 1, 2]) = .ok stats ∧ ∀ c ∈ stats.cycles, c.dropLast.Nodup := by
  intro issues
  exact ⟨_, by decide, rfl, Run.listed_of (by decide) (by decide),
    @analyze_cycles_elementary issues _ (by decide) rfl _ (Run.listed_of (by decide) (by decide))⟩

set_option maxRecDepth 4000 in
/-- `Cycles` has no cap: five issues each depending on the four others, the
    first also on a sixth that depends on the second and the third, have 116
    elementary cycles, and `Analyze` lists them all. -/
theorem analyze_cycles_uncapped :
    let issues : List Issue := (["a", "b", "c", "d", "e"].map fun x => { (default : Issue) with
        id := x
        dependencies := ((["a", "b", "c", "d", "e"].filter (· ≠ x)).map fun y => ⟨x, y, .blocks⟩) ++
          if x = "a" then [⟨"a", "f", .blocks⟩] else [] }) ++
      [{ (default : Issue) with id := "f", dependencies := [⟨"f", "b", .blocks⟩, ⟨"f", "c", .blocks⟩] }]
    ∃ a, newAnalyzer issues = .ok a ∧ Run.Of a.g (Run.listed a.g [0, 1, 2, 3, 4, 5]) ∧
      (a.analyze (Run.listed a.g [0, 1, 2, 3, 4, 5])).map (·.cycles.length) = .ok 116 :=
  ⟨_, rfl, Run.listed_of (by decide) (by decide), rfl⟩

end BeadsViewer.Analysis
